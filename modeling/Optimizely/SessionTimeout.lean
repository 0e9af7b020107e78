import Optimizely.BrowserSession
import Optimizely.TransitionRuns

/-!
# Inactivity

The timeout of a session is looked at when it is restored, and when it is validated, which the
tracker does not do. A page view carries and extends the session, however long ago its last activity
was.
-/

namespace BrowserSession

open TransitionRuns List Option

/-- A page view that was queued: its time, the session that it carries, and as a history the current
session with its activity before. -/
structure View where
  time : Nat
  sessionId : Option String
  current : Option String
  previous : Option Nat
  deriving DecidableEq

/-- The tracker of a tab that has been initialised, and has consent. `session` is that of the
tracker. -/
structure Visit where
  now : Nat
  store : Store
  manager : Manager
  session : SessionObject
  views : List View

def trackerOptions (projectId : String) (sessionTimeout : Nat) : SessionOptions where
  sessionTimeout := if sessionTimeout = 0 then 30 * 60 * 1000 else sessionTimeout
  enableCrossTabs := true
  enableFingerprinting := true
  fingerprintElements := ⟨true, true, true, true, true, false⟩
  sessionValidation := true
  storagePrefix := "opt_" ++ projectId ++ "_session_"

def trackerManager (projectId : String) (sessionTimeout : Nat) : Manager :=
  ⟨"opt_" ++ projectId ++ "_", trackerOptions projectId sessionTimeout, none⟩

def createEmptySession : SessionObject :=
  .record ⟨"", "", 0, 0, 0, "", "", "", "", ⟨"", "", ""⟩⟩

/-- `init` with what is stored. -/
def Visit.init (projectId : String) (sessionTimeout : Nat) (store : Store) (e : Environment)
    (sessionId newVisitorId : String) : Visit :=
  let created := trackerManager projectId sessionTimeout
  let initialized := created.initializeSession (created.storeFingerprint store e) e sessionId
    newVisitorId
  { now := e.now
    store := initialized.2
    manager := initialized.1
    session := initialized.1.currentSession.getD createEmptySession
    views := [] }

namespace Visit

/-- `pageView` with the session id that its data hold, if they have the field. -/
def pageView (s : Visit) (given : Option (Option String)) (now : Nat) : Visit :=
  let view : View :=
    ⟨now, given.getD s.session.sessionId, s.session.sessionId, s.session.lastActivity⟩
  let updated := s.manager.updateActivity s.store now
  { now := now
    store := updated.2
    manager := updated.1
    session := updated.1.currentSession.getD s.session
    views := s.views ++ [view] }

def timeout (s : Visit) : Nat := s.manager.options.sessionTimeout

end Visit

inductive VisitLabel where
  | pageView (given : Option (Option String)) (now : Nat)
  | track (now : Nat)
  deriving DecidableEq

/-- Time does not go back. `track` leaves the session alone. -/
def Visit.step (s : Visit) : VisitLabel → Option Visit
  | .pageView given now => if s.now ≤ now then some (s.pageView given now) else none
  | .track now => if s.now ≤ now then some { s with now := now } else none

/-- A page view is later than the timeout allows. -/
def View.IsLate (timeout : Nat) (view : View) : Prop :=
  ∃ activity, view.previous = some activity ∧ activity + timeout < view.time

/-- A late page view has another session, and so have page views that are far apart. -/
structure Respected (s : Visit) : Prop where
  late : ∀ view ∈ s.views, view.IsLate s.timeout → view.sessionId ≠ view.current
  apart : s.views.IsChain fun first second =>
    first.sessionId = second.sessionId → second.time ≤ first.time + s.timeout

/-- A page view that is late brings a session id in its data, which is neither that of the session
nor that of the page view before it. -/
def InTime (s : Visit) : VisitLabel → Prop
  | .pageView given now =>
    s.session.hasTimedOut now s.timeout = true →
      ∃ own, given = some own ∧ own ≠ s.session.sessionId ∧
        ∀ last ∈ s.views.getLast?, last.sessionId ≠ own
  | .track _ => True

/-- The tracker and its session manager have the same session, and its activity is the last page
view. -/
structure Synced (s : Visit) : Prop where
  current : s.manager.currentSession = some s.session
  activity : ∀ last ∈ s.views.getLast?, s.session.lastActivity = some last.time

lemma currentSession_initializeSession (m : Manager) (s : Store) (e : Environment)
    (sid n : String) : ∃ ses, (m.initializeSession s e sid n).1.currentSession = some ses := by
  rw [Manager.initializeSession]
  split
  · rename_i ses _ _
    exact ⟨ses, rfl⟩
  · exact ⟨_, rfl⟩

lemma synced_init (p : String) (s : Nat) (st : Store) (e : Environment)
    (sid v : String) : Synced (Visit.init p s st e sid v) := by
  refine ⟨?_, fun last mem => by cases mem⟩
  obtain ⟨ses, hc⟩ := currentSession_initializeSession (trackerManager p s)
    ((trackerManager p s).storeFingerprint st e) e sid v
  simp only [Visit.init, hc, getD_some]

lemma pageView_eq {s : Visit} (hs : Synced s) (g : Option (Option String)) (now : Nat) :
    (s.pageView g now).manager.currentSession = some (s.session.touch now) ∧
      (s.pageView g now).session = s.session.touch now ∧
        (s.pageView g now).timeout = s.timeout := by
  simp [Visit.pageView, Manager.updateActivity, hs.current, Visit.timeout]

lemma lastActivity_touch (ses : SessionObject) (now : Nat) :
    (ses.touch now).lastActivity = some now := by
  cases ses <;> rfl

lemma synced_step {s t : Visit} {l : VisitLabel} (hs : Synced s)
    (ht : s.step l = some t) : Synced t := by
  cases l with
  | pageView g now =>
    rw [Visit.step, ite_none_right_eq_some] at ht
    obtain ⟨-, ⟨⟩⟩ := ht
    obtain ⟨hc, ses, -⟩ := pageView_eq hs g now
    refine ⟨hc.trans (congrArg some ses.symm), fun last mem => ?_⟩
    rw [ses, lastActivity_touch]
    rw [Visit.pageView, getLast?_concat] at mem
    cases mem
    rfl
  | track now =>
    rw [Visit.step, ite_none_right_eq_some] at ht
    obtain ⟨-, ⟨⟩⟩ := ht
    exact ⟨hs.current, hs.activity⟩

lemma isLate_iff (s : Visit) (g : Option String) (now : Nat) :
    View.IsLate s.timeout ⟨now, g, s.session.sessionId, s.session.lastActivity⟩ ↔
      s.session.hasTimedOut now s.timeout = true := by
  rw [View.IsLate, SessionObject.hasTimedOut, Option.any_eq_true]
  simp

lemma respected_pageView_iff {s : Visit} (hs : Synced s) (g : Option (Option String))
    (now : Nat) : Respected (s.pageView g now) ↔ Respected s ∧ InTime s (.pageView g now) := by
  obtain ⟨-, -, t⟩ := pageView_eq hs g now
  obtain ⟨view, a⟩ : ∃ view : View, view =
    ⟨now, g.getD s.session.sessionId, s.session.sessionId, s.session.lastActivity⟩ := ⟨_, rfl⟩
  have hv : (s.pageView g now).views = s.views ++ [view] := by
    rw [a]
    rfl
  have hl : view.IsLate s.timeout ↔ s.session.hasTimedOut now s.timeout = true := by
    rw [a]
    exact isLate_iff s _ now
  -- the view before is the last activity
  have hb : ∀ l ∈ s.views.getLast?, (view.time ≤ l.time + s.timeout ↔
      ¬ s.session.hasTimedOut now s.timeout = true) := by
    intro l mem
    rw [a, SessionObject.hasTimedOut, hs.activity l mem]
    simp
  have split : Respected (s.pageView g now) ↔ Respected s ∧
      (view.IsLate s.timeout → view.sessionId ≠ view.current) ∧
      ∀ l ∈ s.views.getLast?, l.sessionId = view.sessionId → view.time ≤ l.time + s.timeout := by
    constructor
    · rintro ⟨ha, hch⟩
      rw [hv, t] at ha hch
      obtain ⟨old, -, hj⟩ := isChain_append.mp hch
      refine ⟨⟨fun x mem => ha x (mem_append_left _ mem), old⟩,
        ha view (mem_append_right _ mem_cons_self), fun l mem => ?_⟩
      exact hj l mem view rfl
    · rintro ⟨⟨ho, old⟩, hn, hj⟩
      refine ⟨?_, ?_⟩
      · rw [hv, t]
        exact forall_mem_append.mpr ⟨ho, forall_mem_singleton.mpr hn⟩
      · rw [hv, t]
        refine isChain_append.mpr ⟨old, isChain_singleton _, fun l mem x hh => ?_⟩
        cases hh
        exact hj l mem
  rw [split, InTime, hl]
  refine and_congr_right fun _ => ?_
  have hc : view.sessionId = g.getD s.session.sessionId := by rw [a]
  have hcr : view.current = s.session.sessionId := by rw [a]
  rw [hc, hcr]
  constructor
  · rintro ⟨hdf, hj⟩ ht
    cases g with
    | none => exact absurd rfl (hdf ht)
    | some own =>
      refine ⟨own, rfl, hdf ht, fun l mem hsm => ?_⟩
      exact (hb l mem).mp (hj l mem hsm) ht
  · intro hi
    refine ⟨fun ht => ?_, fun l mem hsm => ?_⟩
    · obtain ⟨own, rfl, hdf, -⟩ := hi ht
      exact hdf
    · rw [hb l mem]
      intro ht
      obtain ⟨own, rfl, -, x⟩ := hi ht
      exact x l mem hsm

lemma respected_step_iff {s t : Visit} {l : VisitLabel} (hs : Synced s)
    (ht : s.step l = some t) : Respected t ↔ Respected s ∧ InTime s l := by
  cases l with
  | pageView g now =>
    rw [Visit.step, ite_none_right_eq_some] at ht
    obtain ⟨-, ⟨⟩⟩ := ht
    exact respected_pageView_iff hs g now
  | track now =>
    rw [Visit.step, ite_none_right_eq_some] at ht
    obtain ⟨-, ⟨⟩⟩ := ht
    exact ⟨fun hr => ⟨⟨hr.late, hr.apart⟩, trivial⟩, fun hb => ⟨hb.1.late, hb.1.apart⟩⟩

/-- Whatever is stored when the tab is opened: in the runs in which every page view is in time, and
in no others, the timeout of the session is respected. -/
theorem respected_iff_inTime (projectId : String) (sessionTimeout : Nat) (store : Store)
    (e : Environment) (sessionId newVisitorId : String) {t : Visit} {labels : List VisitLabel}
    (run : Run Visit.step Always
      (Visit.init projectId sessionTimeout store e sessionId newVisitorId) labels t) :
    Respected t ↔ Run Visit.step InTime
      (Visit.init projectId sessionTimeout store e sessionId newVisitorId) labels t :=
  run.iff_within Synced Respected (fun _ _ _ => synced_step) (fun _ _ _ => respected_step_iff)
    (synced_init projectId sessionTimeout store e sessionId newVisitorId)
    ⟨fun _ mem => absurd mem not_mem_nil, isChain_nil⟩

instance (s : Visit) : (label : VisitLabel) → Decidable (InTime s label)
  | .pageView none now => decidable_of_iff (¬ s.session.hasTimedOut now s.timeout = true)
      ⟨fun early late => absurd late early, fun inTime late => by
        obtain ⟨own, given, -⟩ := inTime late
        cases given⟩
  | .pageView (some own) now => decidable_of_iff (s.session.hasTimedOut now s.timeout = true →
      own ≠ s.session.sessionId ∧ ∀ last ∈ s.views.getLast?, last.sessionId ≠ own)
      ⟨fun apart late => ⟨own, rfl, apart late⟩, fun inTime late => by
        obtain ⟨same, given, apart⟩ := inTime late
        cases given
        exact apart⟩
  | .track _ => .isTrue trivial

def visitor : Environment :=
  ⟨0, 1920, 1080, 0, "en", "windows", "chrome", none, "", "", "", ""⟩

def opened : Visit := Visit.init "shop" 1000 .empty visitor "s_1" "v_1"

/-- Page views within the timeout, and a late one with a session id of its own. -/
def browsing : List VisitLabel :=
  [.pageView none 500, .track 1200, .pageView none 1400, .pageView (some (some "s_2")) 9000]

theorem respected_iff_inTime_browsing : ∃ t,
    Run Visit.step Always opened browsing t ∧ t.views.length = 3 ∧
      (Respected t ↔ Run Visit.step InTime opened browsing t) ∧
      Run Visit.step InTime opened browsing t := by
  refine exists_careful_run (by decide +kernel) fun t run hw _ => ⟨?_, hw⟩
  exact respected_iff_inTime "shop" 1000 .empty visitor "s_1" "v_1" run

/-- A page view after ten seconds, where the timeout is one second. -/
def returning : List VisitLabel := [.pageView none 500, .pageView none 10500]

theorem returning_keeps_session : ∃ t, Run Visit.step Always opened returning t ∧
      t.views = [⟨500, some "s_1", some "s_1", some 0⟩, ⟨10500, some "s_1", some "s_1", some 500⟩] ∧
      ¬ Respected t := by
  refine ⟨_, run_of_exec rfl, rfl, fun hr => ?_⟩
  have hl := hr.late ⟨10500, some "s_1", some "s_1", some 500⟩ (.tail _ (.head _))
  exact hl ⟨500, rfl, by decide⟩ rfl

end BrowserSession
