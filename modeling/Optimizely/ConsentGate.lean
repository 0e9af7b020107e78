import Optimizely.GDPRCompliance
import Optimizely.Tracker
import Optimizely.TransitionRuns

/-!
# The consent that tracking needs

The tracker reads the consent that it stores itself. `setGDPRConsent` and `withdrawConsent` go to
the module, which keeps its own consent under another key, and the tracker does not listen to it.
-/

namespace Tracker

open State

open GDPRCompliance (GDPRConsent PartialConsent)
open TransitionRuns

def ConsentData.granted (consent : ConsentData) : Bool := consent.hasConsent && consent.analytics

/-- The calls that concern the consent, and those that need it. -/
inductive GateLabel where
  | setConsent (consent : ConsentData)
  | setGDPRConsent (given : PartialConsent) (now id : Nat)
  | withdrawConsent (category : Option String) (now : Nat)
  | track (event : String) (now : Nat)
  | pageView (url : String) (now : Nat)

/-- A tracker and its module `GDPRCompliance`. `granted` is a history: the last consent call has
left analytics granted. -/
structure Gate where
  tracker : State
  gdpr : GDPRCompliance.Instance
  store : GDPRCompliance.Store
  granted : Bool

/-- What is stored when the page is opened is what the last call has left. -/
def opened (tracker : State) (gdpr : GDPRCompliance.Instance) (store : GDPRCompliance.Store) :
    Gate :=
  ⟨tracker, gdpr, store, tracker.hasConsent⟩

/-- Analytics are withdrawn, with all purposes or alone. -/
def withdrawsAnalytics (category : Option String) : Bool :=
  category.getD "" = "" || category.getD "" = "analytics"

namespace Gate

def analyticsGranted (consent : GDPRConsent) : Bool :=
  consent.hasConsent && consent.purposes.analytics

def setGDPRConsent (g : Gate) (given : PartialConsent) (now id : Nat) : Gate :=
  match g.tracker.modules.get? "GDPRCompliance" with
  | some _ =>
    let after := g.gdpr.setConsent g.store given now id
    { g with
      gdpr := after.1
      store := after.2
      granted := analyticsGranted (g.gdpr.newConsent given now id) }
  | none => g

def withdrawConsent (g : Gate) (category : Option String) (now : Nat) : Gate :=
  match g.tracker.modules.get? "GDPRCompliance" with
  | some _ =>
    let after := g.gdpr.withdrawConsent g.store category now
    { g with
      gdpr := after.1
      store := after.2
      granted := g.granted && !withdrawsAnalytics category }
  | none => g

def step (g : Gate) : GateLabel → Option Gate
  | .setConsent consent =>
    some { g with tracker := g.tracker.setConsent consent, granted := consent.granted }
  | .setGDPRConsent given now id => some (g.setGDPRConsent given now id)
  | .withdrawConsent category now => some (g.withdrawConsent category now)
  | .track event now => some { g with tracker := g.tracker.track event now }
  | .pageView url now => some { g with tracker := g.tracker.pageView url now }

/-- A call of `track` or `pageView` queues an event only if analytics are granted. -/
def Gated (g : Gate) : Prop :=
  (∀ event now, (g.tracker.track event now).events ≠ g.tracker.events → g.granted = true) ∧
    ∀ url now, (g.tracker.pageView url now).events ≠ g.tracker.events → g.granted = true

/-- The module is asked to deny analytics only while the tracker does not track. -/
def Careful (g : Gate) : GateLabel → Prop
  | .setGDPRConsent given now id =>
    analyticsGranted (g.gdpr.newConsent given now id) = false → g.tracker.isTracking = false
  | .withdrawConsent category _ => withdrawsAnalytics category = true → g.tracker.isTracking = false
  | _ => True

/-- The tracker needs consent and has the module. -/
def Guarded (g : Gate) : Prop :=
  g.tracker.config.enableGDPR = true ∧ (g.tracker.modules.get? "GDPRCompliance").isSome = true

instance (g : Gate) (label : GateLabel) : Decidable (g.Careful label) := by
  cases label <;> dsimp only [Gate.Careful] <;> infer_instance

end Gate

namespace State

/-- What decides whether the tracker tracks. -/
def access (s : State) : TrackerConfig × Bool × OrderedMap String ConsentData × String ×
    OrderedMap String Module :=
  (s.config, s.isInitialized, s.storage, s.storageStart, s.modules)

lemma access_of_queues {s t : State} (hq : Queues s t) : t.access = s.access := by
  obtain ⟨events, eventQueue, batches, rfl⟩ := hq
  rfl

lemma isTracking_congr {s t : State} (hs : t.access = s.access) : t.isTracking = s.isTracking := by
  simp only [access, Prod.mk.injEq] at hs
  obtain ⟨c, hi, st, sta, -⟩ := hs
  rw [isTracking, isTracking, hasConsent, hasConsent, c, hi, st, sta]

lemma events_queueEvent (s : State) (e : EventData) :
    (s.queueEvent e).events = s.events ++ [e] := by
  simp only [queueEvent, flush]
  split
  · split <;> rfl
  · rfl

lemma events_ifTracking_ne_iff (s : State) (e : EventData) :
    (if s.isTracking then s.queueEvent e else s).events ≠ s.events ↔ s.isTracking = true := by
  split
  · rename_i ht
    simp [events_queueEvent, ht]
  · rename_i hu
    simp [hu]

lemma isTracking_setConsent {s : State} (g : s.config.enableGDPR = true) (cs : ConsentData) :
    (s.setConsent cs).isTracking = (s.isInitialized && cs.granted) := by
  simp [isTracking, hasConsent, setConsent, g, OrderedMap.get?_set, ConsentData.granted]

end State

namespace Gate

lemma gated_iff (g : Gate) : g.Gated ↔ (g.tracker.isTracking = true → g.granted = true) := by
  simp only [Gated, track, pageView, events_ifTracking_ne_iff]
  constructor
  · intro hg
    exact hg.1 "" 0
  · intro hg
    exact ⟨fun _ _ => hg, fun _ _ => hg⟩

lemma guarded_step {g t : Gate} {l : GateLabel} (hgu : g.Guarded)
    (ht : g.step l = some t) : t.Guarded := by
  have htr : ∀ s : State, s.access = g.tracker.access →
      s.config.enableGDPR = true ∧ (s.modules.get? "GDPRCompliance").isSome = true := by
    intro s hs
    simp only [access, Prod.mk.injEq] at hs
    obtain ⟨c, -, -, -, hm⟩ := hs
    rw [c, hm]
    exact hgu
  cases l with
  | setConsent cs =>
    cases ht
    exact hgu
  | setGDPRConsent given now id =>
    cases ht
    rw [setGDPRConsent]
    split <;> exact hgu
  | withdrawConsent cat now =>
    cases ht
    rw [withdrawConsent]
    split <;> exact hgu
  | track e now =>
    cases ht
    exact htr _ (access_of_queues (queues_track _ e now))
  | pageView url now =>
    cases ht
    exact htr _ (access_of_queues (queues_pageView _ url now))

lemma gated_step_iff {g t : Gate} {l : GateLabel} (hgu : g.Guarded) (hg : g.Gated)
    (ht : g.step l = some t) : t.Gated ↔ g.Careful l := by
  obtain ⟨gd, hrg⟩ := hgu
  obtain ⟨module, hf⟩ := Option.isSome_iff_exists.mp hrg
  rw [gated_iff] at hg ⊢
  cases l with
  | setConsent cs =>
    cases ht
    refine iff_true_intro ?_
    simp only [isTracking_setConsent gd, Bool.and_eq_true]
    exact And.right
  | setGDPRConsent given now id =>
    cases ht
    simp only [setGDPRConsent, hf, Careful]
    rw [← Bool.not_eq_true, ← Bool.not_eq_true]
    exact not_imp_not.symm
  | withdrawConsent cat now =>
    cases ht
    simp only [withdrawConsent, hf, Careful]
    cases withdrawsAnalytics cat with
    | true => simp
    | false => simpa using hg
  | track e now =>
    cases ht
    refine iff_true_intro fun htr => hg ?_
    rw [← isTracking_congr (access_of_queues (queues_track _ e now))]
    exact htr
  | pageView url now =>
    cases ht
    refine iff_true_intro fun htr => hg ?_
    rw [← isTracking_congr (access_of_queues (queues_pageView _ url now))]
    exact htr

lemma gated_opened (t : State) (g : GDPRCompliance.Instance)
    (s : GDPRCompliance.Store) : (opened t g s).Gated := by
  rw [gated_iff, isTracking, Bool.and_eq_true]
  exact And.right

end Gate

/-- In the runs whose steps are all careful, and in no others, a call of `track` or `pageView`
queues an event only if the last consent call has left analytics granted. -/
theorem gated_iff_careful {tracker : State} (gdpr : GDPRCompliance.Instance)
    (store : GDPRCompliance.Store) {t : Gate} {labels : List GateLabel}
    (enabled : tracker.config.enableGDPR = true)
    (registered : (tracker.modules.get? "GDPRCompliance").isSome = true) :
    Run Gate.step (fun g _ => g.Gated) (opened tracker gdpr store) labels t ∧ t.Gated ↔
      Run Gate.step Gate.Careful (opened tracker gdpr store) labels t :=
  Run.throughout_iff Gate.Guarded Gate.Gated
    (fun _ _ _ guarded _ taken => Gate.guarded_step guarded taken)
    (fun _ _ _ guarded gated taken => Gate.gated_step_iff guarded gated taken)
    ⟨enabled, registered⟩ (Gate.gated_opened tracker gdpr store)

/-- A tracker that was given the module and is initialised. -/
def gatedTracker : State :=
  let registered := (constructed .empty .loaded).use (.page "GDPRCompliance" 0)
  (registered.init ⟨"api", "shop", none, none, none⟩).continueInit 0 "/" 0

def gatedPage : Gate := opened gatedTracker (GDPRCompliance.create ⟨true, true, none⟩) .empty

/-- The consent is refused by `setConsent` before it is withdrawn. -/
def refusing : List GateLabel :=
  [.setConsent ⟨true, true⟩, .track "signup" 1, .setConsent ⟨true, false⟩, .withdrawConsent none 2,
    .track "signup" 3]

theorem gated_iff_careful_refusing : ∃ t, Run Gate.step Gate.Careful gatedPage refusing t ∧
    t.tracker.events.length = 1 ∧
    Run Gate.step (fun g _ => g.Gated) gatedPage refusing t ∧ t.Gated :=
  exists_run (by decide +kernel) fun _ run _ =>
    (gated_iff_careful _ .empty (by decide +kernel) (by decide +kernel)).mpr run

/-- The consent is given to the tracker and withdrawn, and an event is queued. -/
theorem withdrawn_still_tracks : ∃ g t,
    Run Gate.step Always gatedPage [.setConsent ⟨true, true⟩, .withdrawConsent none 1] g ∧
      g.granted = false ∧ g.step (.track "signup" 2) = some t ∧
      t.tracker.events = g.tracker.events ++ [⟨.custom, "signup", 2⟩] ∧ ¬ g.Gated := by
  refine ⟨_, _, run_of_exec rfl, rfl, rfl, rfl, ?_⟩
  rw [Gate.gated_iff]
  exact fun hg => absurd (hg rfl) Bool.false_ne_true

end Tracker
