import Optimizely.BrowserSession
import Optimizely.TaskLists
import Optimizely.TransitionRuns

/-!
# Validation of a session

`validateSession` compares the fingerprint of the environment with the stored one, and stores the
first before it reads the second. A session is then found invalid when it has timed out, or when
another call has stored the fingerprint of another environment in between.
-/

namespace BrowserSession

open TaskLists TransitionRuns List Option OrderedMap

/-- A call of `validateSession` from its start on. `name` is where the fingerprint is stored,
`verdict` what the call has found so far. `read` and `overwritten` are histories: the fingerprint
that was compared, and whether one was stored since the call stored its own. -/
structure Validation where
  session : Option SessionObject
  environment : Environment
  timeout : Nat
  name : String
  fingerprint : SessionFingerprint
  verdict : Manager.Verdict
  read : Option SessionFingerprint
  overwritten : Bool
  isFinished : Bool
  deriving DecidableEq

/-- A fingerprint is stored under a name. -/
def Validation.overwrite (name : String) (v : Validation) : Validation :=
  if v.name = name ∧ v.isFinished = false then { v with overwritten := true } else v

def Validation.finish (v : Validation) (read : Option SessionFingerprint) : Validation :=
  { v with
    verdict := Manager.checkFingerprint v.fingerprint read v.verdict
    read := read
    isFinished := true }

structure World where
  store : Store
  managers : List Manager
  validations : List Validation

namespace World

def setManager (w : World) (index : Nat) (result : Manager × Store) : World :=
  { w with managers := w.managers.set index result.1, store := result.2 }

def storeFingerprint (w : World) (m : Manager) (e : Environment) : World :=
  { w with
    store := m.storeFingerprint w.store e
    validations := w.validations.map (Validation.overwrite m.fingerprintName) }

def construct (w : World) (namePrefix : String) (options : SessionOptions) (e : Environment) :
    World :=
  let m : Manager := ⟨namePrefix, options, none⟩
  let w := { w with managers := w.managers ++ [m] }
  if options.enableFingerprinting then w.storeFingerprint m e else w

def noSession : Manager.Verdict := ⟨false, ["No active session"]⟩

def beginValidation (w : World) (m : Manager) (e : Environment) : World :=
  let fingerprint := generateFingerprint m.options.fingerprintElements e
  let call (verdict : Manager.Verdict) (isFinished : Bool) : Validation :=
    ⟨m.currentSession, e, m.options.sessionTimeout, m.fingerprintName, fingerprint, verdict, none,
      false, isFinished⟩
  match m.currentSession with
  | none => { w with validations := w.validations ++ [call noSession true] }
  | some session =>
    let verdict := m.checkTimeout session e.now
    if m.checksFingerprint then
      let w := w.storeFingerprint m e
      { w with validations := w.validations ++ [call verdict false] }
    else { w with validations := w.validations ++ [call verdict true] }

end World

inductive Label where
  | construct (namePrefix : String) (options : SessionOptions) (e : Environment)
  | initializeSession (manager : Nat) (e : Environment) (sessionId newVisitorId : String)
  | updateActivity (manager : Nat) (now : Nat)
  | invalidateSession (manager : Nat)
  | storageEvent (manager : Nat) (event : StorageEvent)
  | validateSession (manager : Nat) (e : Environment)
  | resume (call : Nat)

def World.step (w : World) : Label → Option World
  | .construct namePrefix options e => some (w.construct namePrefix options e)
  | .initializeSession index e sessionId newVisitorId => w.managers[index]?.map fun m =>
      w.setManager index (m.initializeSession w.store e sessionId newVisitorId)
  | .updateActivity index now => w.managers[index]?.map fun m =>
      w.setManager index (m.updateActivity w.store now)
  | .invalidateSession index => w.managers[index]?.map fun m =>
      w.setManager index (m.invalidateSession w.store)
  | .storageEvent index event => w.managers[index]?.map fun m =>
      w.setManager index (m.onStorage event, w.store)
  | .validateSession index e => w.managers[index]?.map fun m => w.beginValidation m e
  | .resume call => match w.validations[call]? with
    | none => none
    | some v =>
      if v.isFinished then none
      else some { w with validations :=
        w.validations.set call (v.finish (getStoredFingerprint w.store v.name)) }

/-- The session is found invalid if it was created in an environment with another platform, browser
or screen. -/
def Detected (v : Validation) : Prop :=
  ∀ session, v.session = some (.record session) → session.origin ≠ v.environment.critical →
    v.verdict.isValid = false

/-- The stored fingerprint has another hash and differs in what is critical. -/
def Mismatch (v : Validation) : Prop :=
  ∃ stored, v.read = some stored ∧ v.fingerprint.hash ≠ stored.hash ∧
    checkCriticalFingerprintMismatch v.fingerprint stored = true

/-- The session has timed out, or the fingerprint that the call has stored was overwritten before it
was read, by one with another platform, browser or screen. -/
def Excused (v : Validation) (session : VisitorSession) : Prop :=
  session.lastActivity + v.timeout < v.environment.now ∨
    v.overwritten = true ∧ Mismatch v

/-- Sessions and visitors are stored under other names than fingerprints. -/
lemma fingerprintName_ne (m o : Manager) :
    m.sessionName ≠ o.fingerprintName ∧ m.visitorName ≠ o.fingerprintName := by
  have hls : ∀ {a b : String} {c d : Char}, c ≠ d →
      ∀ x y : String, a = x ++ String.singleton c → b = y ++ String.singleton d → a ≠ b := by
    intro a b c d hne x y first hs hsm
    have hl := congrArg (fun t => t.toList.getLast?) hsm
    rw [first, hs] at hl
    simp only [String.toList_append, String.toList_singleton, getLast?_concat, some.injEq] at hl
    exact hne hl
  constructor
  · refine hls (c := 'n') (d := 't') (by decide) (m.namePrefix ++ "sessio")
      (o.namePrefix ++ "fingerprin") ?_ ?_
    · rw [Manager.sessionName, String.append_assoc]
      rfl
    · rw [Manager.fingerprintName, String.append_assoc]
      rfl
  · refine hls (c := 'r') (d := 't') (by decide) (m.namePrefix ++ "visito")
      (o.namePrefix ++ "fingerprin") ?_ ?_
    · rw [Manager.visitorName, String.append_assoc]
      rfl
    · rw [Manager.fingerprintName, String.append_assoc]
      rfl

/-- Calls other than the storing of a fingerprint leave those that are stored. -/
structure SameFingerprints (store store' : Store) : Prop where
  read : ∀ other : Manager, getStoredFingerprint store' other.fingerprintName =
    getStoredFingerprint store other.fingerprintName

namespace SameFingerprints

lemma refl (store : Store) : SameFingerprints store store := ⟨fun _ => rfl⟩

lemma trans {a b c : Store} (first : SameFingerprints a b) (hs : SameFingerprints b c) :
    SameFingerprints a c :=
  ⟨fun x => (hs.read x).trans (first.read x)⟩

variable {name : String}

lemma set (st : Store) (se : Stored) (hne : ∀ x : Manager, name ≠ x.fingerprintName) :
    SameFingerprints st (st.set name se) where
  read x := by
    rw [getStoredFingerprint, getStoredFingerprint, get?_set, if_neg (hne x)]

lemma erase (st : Store) (hne : ∀ x : Manager, name ≠ x.fingerprintName) :
    SameFingerprints st (st.erase name) where
  read x := by
    rw [getStoredFingerprint, getStoredFingerprint, get?_erase, if_neg (hne x)]

variable (m : Manager) (s : Store)

lemma saveSession (ses : SessionObject) : SameFingerprints s (m.saveSession s ses) :=
  .set s _ fun x => (fingerprintName_ne m x).1

lemma restoreSession (now : Nat) : SameFingerprints s (m.restoreSession s now).2 := by
  rw [Manager.restoreSession]
  split
  · split
    · exact .erase s fun x => (fingerprintName_ne m x).1
    · exact .refl s
  · exact .refl s

lemma createNewSession (e : Environment) (sid n : String) :
    SameFingerprints s (m.createNewSession s e sid n).2 :=
  .set s _ fun x => (fingerprintName_ne m x).2

lemma initializeSession (e : Environment) (sid v : String) :
    SameFingerprints s (m.initializeSession s e sid v).2 := by
  have hr := restoreSession m s e.now
  rw [Manager.initializeSession]
  split
  · rename_i ses t hf
    rwa [hf] at hr
  · rename_i t hf
    rw [hf] at hr
    exact (hr.trans (createNewSession m t e sid v)).trans (saveSession m _ _)

lemma updateActivity (now : Nat) : SameFingerprints s (m.updateActivity s now).2 := by
  rw [Manager.updateActivity]
  split
  · exact .refl s
  · exact saveSession m s _

lemma invalidateSession : SameFingerprints s (m.invalidateSession s).2 := by
  rw [Manager.invalidateSession]
  split
  · exact .refl s
  · exact .erase s fun x => (fingerprintName_ne m x).1

end SameFingerprints

lemma getStoredFingerprint_storeFingerprint (m : Manager) (st : Store) (e : Environment)
    (name : String) : getStoredFingerprint (m.storeFingerprint st e) name =
      if m.fingerprintName = name then some (generateFingerprint m.options.fingerprintElements e)
      else getStoredFingerprint st name := by
  rw [getStoredFingerprint, getStoredFingerprint, Manager.storeFingerprint, get?_set]
  by_cases hh : m.fingerprintName = name <;> simp [hh]

/-- What is known of a call: its verdict so far, and that it reads the fingerprint that it has
stored unless that is overwritten. -/
structure Checked (store : Store) (v : Validation) : Prop where
  named : ∃ m : Manager, v.name = m.fingerprintName
  verdict : ∀ session, v.session = some session → (v.verdict.isValid = false ↔
    session.hasTimedOut v.environment.now v.timeout = true ∨ Mismatch v)
  unread : v.isFinished = false → v.read = none
  stored : v.isFinished = false → v.overwritten = false →
    getStoredFingerprint store v.name = some v.fingerprint
  kept : v.isFinished = true → v.overwritten = false →
    v.read = none ∨ v.read = some v.fingerprint

def AllChecked (w : World) : Prop := ∀ v ∈ w.validations, Checked w.store v

variable {st : Store} {v : Validation} {w : World}

lemma Checked.mono {s' : Store} (hck : Checked st v)
    (hs : SameFingerprints st s') : Checked s' v where
  named := hck.named
  verdict := hck.verdict
  unread := hck.unread
  stored open_ clean := by
    obtain ⟨m, name⟩ := hck.named
    rw [name, hs.read, ← name]
    exact hck.stored open_ clean
  kept := hck.kept

lemma Checked.overwrite (hck : Checked st v) (m : Manager) (e : Environment) :
    Checked (m.storeFingerprint st e) (v.overwrite m.fingerprintName) := by
  rw [Validation.overwrite]
  split
  · refine ⟨hck.named, hck.verdict, hck.unread, fun _ hc => ?_, fun _ hc => ?_⟩
    · cases hc
    · cases hc
  · rename_i x
    refine ⟨hck.named, hck.verdict, hck.unread, fun hu hc => ?_, hck.kept⟩
    have hne : m.fingerprintName ≠ v.name := fun hs => x ⟨hs.symm, hu⟩
    rw [getStoredFingerprint_storeFingerprint, if_neg hne]
    exact hck.stored hu hc

lemma allChecked_storeFingerprint (all : AllChecked w) (m : Manager)
    (e : Environment) : AllChecked (w.storeFingerprint m e) := by
  intro v mem
  obtain ⟨s, hin, rfl⟩ := mem_map.mp mem
  exact (all s hin).overwrite m e

lemma isValid_checkTimeout (m : Manager) (ses : SessionObject) (now : Nat) :
    (m.checkTimeout ses now).isValid = false ↔
      ses.hasTimedOut now m.options.sessionTimeout = true := by
  rw [Manager.checkTimeout]
  by_cases hl : ses.hasTimedOut now m.options.sessionTimeout = true <;>
    simp [hl, Manager.Verdict.fail]

lemma allChecked_beginValidation (all : AllChecked w) (m : Manager)
    (e : Environment) : AllChecked (w.beginValidation m e) := by
  rw [World.beginValidation]
  have hn : ∀ v : Validation, v.read = none → ¬ Mismatch v := by
    rintro v hun ⟨se, hr, -⟩
    rw [hun] at hr
    cases hr
  split
  · rename_i none
    refine forall_append all ⟨⟨m, rfl⟩, fun ses hf => ?_, fun _ => rfl, fun hu => ?_,
      fun _ _ => .inl rfl⟩
    · simp only [none] at hf
      cases hf
    · cases hu
  · rename_i ses hc
    have hv : ∀ v : Validation, v.session = m.currentSession → v.environment = e →
        v.timeout = m.options.sessionTimeout → v.read = none →
        v.verdict = m.checkTimeout ses e.now → ∀ x, v.session = some x →
          (v.verdict.isValid = false ↔
            x.hasTimedOut v.environment.now v.timeout = true ∨ Mismatch v) := by
      intro v hs env l hun hm x hf
      rw [hs, hc, some.injEq] at hf
      subst hf
      rw [hm, env, l, isValid_checkTimeout]
      exact ⟨.inl, fun he => he.resolve_right (hn v hun)⟩
    split
    · refine forall_append (allChecked_storeFingerprint all m e) ⟨⟨m, rfl⟩,
        hv _ rfl rfl rfl rfl rfl, fun _ => rfl, fun _ _ => ?_, fun hfn => ?_⟩
      · exact (getStoredFingerprint_storeFingerprint m w.store e _).trans (if_pos rfl)
      · cases hfn
    · refine forall_append all ⟨⟨m, rfl⟩, hv _ rfl rfl rfl rfl rfl, fun _ => rfl,
        fun hu => ?_, fun _ _ => .inl rfl⟩
      cases hu

lemma isValid_checkFingerprint (c : SessionFingerprint) (r : Option SessionFingerprint)
    (v : Manager.Verdict) : (Manager.checkFingerprint c r v).isValid = false ↔
      v.isValid = false ∨ ∃ se, r = some se ∧ c.hash ≠ se.hash ∧
        checkCriticalFingerprintMismatch c se = true := by
  rw [Manager.checkFingerprint]
  split
  · rename_i hdf
    rw [Option.any_eq_true] at hdf
    obtain ⟨se, hf, hb⟩ := hdf
    rw [Bool.and_eq_true, decide_eq_true_eq] at hb
    simp only [Manager.Verdict.fail, true_iff]
    exact .inr ⟨se, hf, hb⟩
  · rename_i hag
    refine ⟨.inl, fun he => he.resolve_right ?_⟩
    rintro ⟨se, rfl, hb⟩
    refine hag ?_
    rw [any_some, Bool.and_eq_true, decide_eq_true_eq]
    exact hb

lemma Checked.finish (hck : Checked st v) (hu : v.isFinished = false) :
    Checked st (v.finish (getStoredFingerprint st v.name)) := by
  refine ⟨hck.named, fun ses hf => ?_, fun open_ => ?_, fun open_ => ?_, fun _ hc => ?_⟩
  · have s : ¬ Mismatch v := by
      rintro ⟨se, hr, -⟩
      rw [hck.unread hu] at hr
      cases hr
    have ht := hck.verdict ses hf
    rw [Validation.finish, isValid_checkFingerprint, ht, or_iff_left s]
    rfl
  · cases open_
  · cases open_
  · exact .inr (hck.stored hu hc)

lemma allChecked_setManager (all : AllChecked w) (i : Nat)
    {r : Manager × Store} (hs : SameFingerprints w.store r.2) : AllChecked (w.setManager i r) :=
  fun v mem => (all v mem).mono hs

lemma allChecked_step {t : World} {l : Label} (all : AllChecked w)
    (ht : w.step l = some t) : AllChecked t := by
  cases l with
  | construct namePrefix options e =>
    cases ht
    rw [World.construct]
    split
    · exact allChecked_storeFingerprint all _ e
    · exact all
  | initializeSession i e sid n =>
    obtain ⟨m, -, rfl⟩ := map_eq_some_iff.mp ht
    exact allChecked_setManager all i (.initializeSession m w.store e sid n)
  | updateActivity i now =>
    obtain ⟨m, -, rfl⟩ := map_eq_some_iff.mp ht
    exact allChecked_setManager all i (.updateActivity m w.store now)
  | invalidateSession i =>
    obtain ⟨m, -, rfl⟩ := map_eq_some_iff.mp ht
    exact allChecked_setManager all i (.invalidateSession m w.store)
  | storageEvent i event =>
    obtain ⟨m, -, rfl⟩ := map_eq_some_iff.mp ht
    exact allChecked_setManager all i (.refl w.store)
  | validateSession i e =>
    obtain ⟨m, -, rfl⟩ := map_eq_some_iff.mp ht
    exact allChecked_beginValidation all m e
  | resume c =>
    simp only [World.step] at ht
    cases hf : w.validations[c]? with
    | none =>
      rw [hf] at ht
      cases ht
    | some v =>
      rw [hf] at ht
      simp only [ite_none_left_eq_some, some.injEq, Bool.not_eq_true] at ht
      obtain ⟨hu, rfl⟩ := ht
      exact forall_set all c ((all v (mem_of_getElem? hf)).finish hu)

lemma Checked.detected_iff (hck : Checked st v) (hfn : v.isFinished = true) :
    Detected v ↔ ∀ session, v.session = some (.record session) →
      session.origin ≠ v.environment.critical → Excused v session := by
  have hs : ∀ session, v.session = some (.record session) →
      (v.verdict.isValid = false ↔ Excused v session) := by
    intro session hf
    have hl : (SessionObject.record session).hasTimedOut v.environment.now v.timeout = true ↔
        session.lastActivity + v.timeout < v.environment.now := by
      simp [SessionObject.hasTimedOut, SessionObject.lastActivity]
    rw [hck.verdict _ hf, hl, Excused]
    refine or_congr_right ⟨fun hm => ⟨?_, hm⟩, fun hb => hb.2⟩
    -- the fingerprint that the call has stored itself has no other hash
    by_contra hc
    obtain ⟨se, hr, ha, -⟩ := hm
    rcases hck.kept hfn (by simpa using hc) with hu | own
    · rw [hu] at hr
      cases hr
    · rw [own, some.injEq] at hr
      exact ha (congrArg SessionFingerprint.hash hr)
  constructor
  · intro hdt session hf hdf
    exact (hs session hf).mp (hdt session hf hdf)
  · intro he session hf hdf
    exact (hs session hf).mpr (he session hf hdf)

/-- In every run: a validation in an environment with another platform, browser or screen finds the
session invalid just if it has timed out or the fingerprint of the call was overwritten before it
was read. -/
theorem detected_iff_excused {w t : World} {labels : List Label} (start : w.validations = [])
    (run : Run World.step Always w labels t) {v : Validation} (mem : v ∈ t.validations)
    (finished : v.isFinished = true) : Detected v ↔ ∀ session, v.session = some (.record session) →
      session.origin ≠ v.environment.critical → Excused v session := by
  have hi : AllChecked w := by
    intro v mem
    rw [start] at mem
    cases mem
  have all := run.invariant AllChecked (fun _ _ _ all _ => allChecked_step all) hi
  exact (all v mem).detected_iff finished

def desktop : Environment where
  now := 0
  screenWidth := 1920
  screenHeight := 1080
  timezoneOffset := 0
  language := "en"
  platform := "windows"
  browser := "chrome"
  plugins := none
  canvas := ""
  userAgent := ""
  referrer := ""
  url := ""

def phone : Environment :=
  { desktop with now := 1000, screenWidth := 390, screenHeight := 844, platform := "ios" }

def allElements : FingerprintElements := ⟨true, true, true, true, true, false⟩

def defaultOptions : SessionOptions :=
  ⟨30 * 60 * 1000, true, true, allElements, true, "opt_session_"⟩

def unused : World := ⟨.empty, [], []⟩

/-- The session is created on one page, restored on another one, and validated there. -/
def otherPage (e : Environment) : List Label :=
  [.construct "opt_" defaultOptions desktop, .initializeSession 0 desktop "s_1" "v_1",
    .construct "opt_" defaultOptions e, .initializeSession 1 e "s_2" "v_2", .validateSession 1 e,
    .resume 0]

/-- Another page stores its fingerprint before the call reads the one it has stored. -/
def overtaken : List Label :=
  [.construct "opt_" defaultOptions desktop, .initializeSession 0 desktop "s_1" "v_1",
    .validateSession 0 phone, .construct "opt_" defaultOptions desktop, .resume 0]

theorem detected_iff_excused_overtaken : ∃ t v,
    Run World.step Always unused overtaken t ∧ v ∈ t.validations ∧ v.verdict.isValid = false ∧
      (Detected v ↔ ∀ session, v.session = some (.record session) →
        session.origin ≠ v.environment.critical → Excused v session) := by
  have hr : ∃ t ∈ exec World.step unused overtaken, ∃ v ∈ t.validations,
      v.verdict.isValid = false ∧ v.isFinished = true := by decide +kernel
  obtain ⟨t, he, v, mem, vr, hf⟩ := hr
  have run := run_of_exec he
  exact ⟨t, v, run, mem, vr, detected_iff_excused rfl run mem hf⟩

/-- The session was created in another environment. -/
def isForeign (v : Validation) : Bool :=
  match v.session with
  | some (.record session) => session.origin ≠ v.environment.critical
  | _ => false

/-- The second page has another platform and screen, and the session is found valid there. -/
theorem otherPage_undetected : ∃ t v,
    Run World.step Always unused (otherPage phone) t ∧ v ∈ t.validations ∧ v.isFinished = true ∧
      v.verdict.isValid = true ∧ ¬ Detected v := by
  have hr : ∃ t ∈ exec World.step unused (otherPage phone), ∃ v ∈ t.validations,
      v.isFinished = true ∧ v.verdict.isValid = true ∧ isForeign v = true := by decide +kernel
  obtain ⟨t, he, v, mem, hf, hv, hfr⟩ := hr
  refine ⟨t, v, run_of_exec he, mem, hf, hv, fun hdt => ?_⟩
  rw [isForeign] at hfr
  split at hfr
  · rename_i s hfn
    have hi := hdt s hfn (of_decide_eq_true hfr)
    rw [hv] at hi
    cases hi
  · cases hfr

end BrowserSession
