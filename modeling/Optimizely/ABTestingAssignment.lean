import Optimizely.ABTestingMetrics

/-!
# Sticky assignments

Both `assignParticipant` and `recordConversion` use the first assignment of a user. It names a
variant that the experiment still has, and the one the user was given last, as long as no update
drops an assigned variant and nobody is assigned twice.
-/

namespace ABTestingAssignment

open ABTesting TransitionRuns List Option OrderedMap

inductive Event where
  /-- A successful call of `assignParticipant`, with what it returned and the experiment as it
  was: whether it was sticky, and the ids of its variants. -/
  | assigned (userId experimentId variantId : String) (sticky : Bool) (variantIds : List String)
  /-- A successful call of `recordConversion`, with the variant that it credited. -/
  | credited (userId experimentId variantId : String)
  deriving DecidableEq

def Experiment.variantIds (experiment : Experiment) : List String := experiment.variants.map (·.id)

/-- What the caller sees of a call. -/
def eventOf (env : Environment) (service : Service) : Call → Option Event
  | .assignParticipant userId experimentId context draws =>
    match (assignParticipant env service userId experimentId context draws).1,
      service.experiments.get? experimentId with
    | .ok variantId, some experiment =>
      some (.assigned userId experimentId variantId experiment.trafficAllocation.sticky
        (Experiment.variantIds experiment))
    | _, _ => none
  | .recordConversion experimentId userId eventType value =>
    match recordConversion service experimentId userId eventType value with
    | (.ok _, after) =>
      after.conversionEvents.getLast?.map fun event =>
        .credited userId experimentId event.variantId
    | (.error _, _) => none
  | _ => none

/-- The service and what its callers have seen, the latest first. -/
structure Observed where
  service : Service
  log : List Event

def observe (env : Environment) (state : Observed) (call : Call) : Option Observed :=
  (step env state.service call).map fun after =>
    ⟨after, (eventOf env state.service call).toList ++ state.log⟩

def start : Observed := ⟨initial, []⟩

def lastReturned (userId experimentId : String) : List Event → Option String
  | [] => none
  | .assigned user experiment variantId _ _ :: log =>
    if user = userId ∧ experiment = experimentId then some variantId
    else lastReturned userId experimentId log
  | .credited _ _ _ :: log => lastReturned userId experimentId log

def CreditsLastReturned : List Event → Prop
  | [] => True
  | .assigned _ _ _ _ _ :: log => CreditsLastReturned log
  | .credited userId experimentId variantId :: log =>
    lastReturned userId experimentId log = some variantId ∧ CreditsLastReturned log

structure Consistent (log : List Event) : Prop where
  sticky : ∀ userId experimentId first second firstIds secondIds,
    Event.assigned userId experimentId first true firstIds ∈ log →
    Event.assigned userId experimentId second true secondIds ∈ log → first = second
  current : ∀ userId experimentId variantId sticky variantIds,
    Event.assigned userId experimentId variantId sticky variantIds ∈ log → variantId ∈ variantIds
  credits : CreditsLastReturned log

/-- A new experiment has a new id. An accepted update keeps the variants that somebody was assigned,
and nobody who has an assignment gets another. -/
def Careful (env : Environment) (service : Service) : Call → Prop
  | .createExperiment id _ => service.experiments.get? id = none
  | .updateExperiment experimentId updates =>
    ∀ experiment ∈ service.experiments.get? experimentId, experiment.status ≠ .running →
      validateExperiment env (experiment.updated updates) = .ok () →
      ∀ variants ∈ updates.variants, ∀ assignment ∈ service.assignmentsOf experimentId,
        assignment.variantId ∈ variants.map (·.id)
  | .assignParticipant userId experimentId _ _ =>
    ∀ experiment ∈ service.experiments.get? experimentId,
      experiment.trafficAllocation.sticky = false →
        (service.assignmentsOf experimentId).find? (·.userId = userId) = none
  | _ => True

/-- The first assignment of a user names what every call has returned to them, and a variant
that the experiment has. -/
structure Faithful (state : Observed) : Prop where
  returned : ∀ userId experimentId variantId sticky variantIds,
    Event.assigned userId experimentId variantId sticky variantIds ∈ state.log →
      ∃ assignment, (state.service.assignmentsOf experimentId).find? (·.userId = userId) =
        some assignment ∧ assignment.variantId = variantId
  last : ∀ userId experimentId assignment,
    (state.service.assignmentsOf experimentId).find? (·.userId = userId) = some assignment →
      lastReturned userId experimentId state.log = some assignment.variantId
  stored : ∀ experimentId, state.service.experiments.get? experimentId = none →
    state.service.assignmentsOf experimentId = []
  current : ∀ experimentId experiment,
    state.service.experiments.get? experimentId = some experiment →
      ∀ assignment ∈ state.service.assignmentsOf experimentId,
        assignment.variantId ∈ Experiment.variantIds experiment
  listed : ∀ userId experimentId variantId sticky variantIds,
    Event.assigned userId experimentId variantId sticky variantIds ∈ state.log →
      variantId ∈ variantIds
  credits : CreditsLastReturned state.log

lemma variantIds_withVariant (e : Experiment) (v : String)
    (change : VariantMetrics → VariantMetrics) :
    Experiment.variantIds (e.withVariant v change) = Experiment.variantIds e := by
  simp only [Experiment.variantIds, Experiment.withVariant]
  induction e.variants with
  | nil => rfl
  | cons variant variants ih =>
    rw [updateFirst]
    split
    · rfl
    · rw [map_cons, map_cons, ih]

lemma variantIds_started (e : Experiment) :
    Experiment.variantIds e.started = Experiment.variantIds e := by
  simp [Experiment.variantIds, Experiment.started]

namespace Faithful

variable {sta : Observed} {t : Service} {ei u : String} {assignment : ParticipantAssignment}
  (hft : Faithful sta)
include hft

lemma put {e : Experiment} (es : t.experiments = sta.service.experiments.set ei e)
    (ha : ∀ id, t.assignmentsOf id = sta.service.assignmentsOf id)
    (hi : ∀ a ∈ sta.service.assignmentsOf ei,
      a.variantId ∈ Experiment.variantIds e) : Faithful ⟨t, sta.log⟩ where
  returned u id v sticky variantIds mem := by
    rw [ha]
    exact hft.returned u id v sticky variantIds mem
  last u id a hf := by
    rw [ha] at hf
    exact hft.last u id a hf
  stored id absent := by
    rw [es, get?_set] at absent
    rw [ha]
    split at absent
    · cases absent
    · exact hft.stored id absent
  current id stored hf a mem := by
    rw [es, get?_set] at hf
    rw [ha] at mem
    split at hf
    · rename_i hs
      cases hf
      exact hi a (hs ▸ mem)
    · exact hft.current id stored hf a mem
  listed := hft.listed
  credits := hft.credits

lemma answer {st : Bool} {vs : List String}
    (hf : (t.assignmentsOf ei).find? (·.userId = u) = some assignment)
    (s : ∀ old, (sta.service.assignmentsOf ei).find? (·.userId = u) =
      some old → old = assignment) (ho : ∀ us id, ¬ (us = u ∧ id = ei) →
      (t.assignmentsOf id).find? (·.userId = us) =
        (sta.service.assignmentsOf id).find? (·.userId = us))
    (stored : ∀ id, t.experiments.get? id = none → t.assignmentsOf id = [])
    (current : ∀ id e, t.experiments.get? id = some e →
      ∀ old ∈ t.assignmentsOf id, old.variantId ∈ Experiment.variantIds e)
    (listed : assignment.variantId ∈ vs) : Faithful ⟨t,
      .assigned u ei assignment.variantId st vs :: sta.log⟩ where
  returned us id v sticky' variantIds' mem := by
    rcases mem_cons.mp mem with new | old
    · cases new
      exact ⟨assignment, hf, rfl⟩
    · obtain ⟨first, hp, hn⟩ := hft.returned _ _ _ _ _ old
      by_cases hs : us = u ∧ id = ei
      · obtain ⟨rfl, rfl⟩ := hs
        exact ⟨assignment, hf, s first hp ▸ hn⟩
      · exact ⟨first, (ho us id hs).trans hp, hn⟩
  last us id first hp := by
    by_cases hs : us = u ∧ id = ei
    · obtain ⟨rfl, rfl⟩ := hs
      rw [hf] at hp
      cases hp
      simp [lastReturned]
    · rw [ho us id hs] at hp
      have hne : ¬ (u = us ∧ ei = id) := fun h => hs ⟨h.1.symm, h.2.symm⟩
      rw [lastReturned, if_neg hne]
      exact hft.last us id first hp
  stored := stored
  current := current
  listed us id v sticky' variantIds' mem := by
    rcases mem_cons.mp mem with new | old
    · cases new
      exact listed
    · exact hft.listed _ _ _ _ _ old
  credits := hft.credits

lemma credit (hf : (sta.service.assignmentsOf ei).find? (·.userId = u) = some assignment) :
    Faithful ⟨sta.service, .credited u ei assignment.variantId :: sta.log⟩ where
  returned _ _ _ _ _ mem := hft.returned _ _ _ _ _ (by simpa using mem)
  last := hft.last
  stored := hft.stored
  current := hft.current
  listed _ _ _ _ _ mem := hft.listed _ _ _ _ _ (by simpa using mem)
  credits := ⟨hft.last u ei assignment hf, hft.credits⟩

lemma consistent : Consistent sta.log where
  sticky u ei first second firstIds secondIds mem mem' := by
    obtain ⟨assignment, hf, rfl⟩ := hft.returned _ _ _ _ _ mem
    obtain ⟨assignment', hf', rfl⟩ := hft.returned _ _ _ _ _ mem'
    rw [hf] at hf'
    cases hf'
    rfl
  current := hft.listed
  credits := hft.credits

end Faithful

lemma faithful_start : Faithful start where
  returned _ _ _ _ _ mem := nomatch mem
  last _ _ _ hf := nomatch hf
  stored _ _ := rfl
  current _ _ hf := nomatch hf
  listed _ _ _ _ _ mem := nomatch mem
  credits := trivial

section

variable {env : Environment} {sta : Observed} {e : Experiment} {ei u : String}
  {cn : AssignmentContext}

section

variable (hft : Faithful sta) (st : sta.service.experiments.get? ei = some e)
include hft st

lemma faithful_existing {a : ParticipantAssignment}
    (hf : (sta.service.assignmentsOf ei).find? (·.userId = u) =
      some a) : Faithful ⟨sta.service, .assigned u ei a.variantId
      e.trafficAllocation.sticky (Experiment.variantIds e) :: sta.log⟩ := by
  refine hft.answer hf ?_ (fun _ _ _ => rfl) hft.stored hft.current ?_
  · intro old hp
    rw [hf] at hp
    cases hp
    rfl
  · exact hft.current ei e st a (mem_of_find?_eq_some hf)

lemma faithful_joined {v : String}
    (first : (sta.service.assignmentsOf ei).find? (·.userId = u) = none)
    (hm : ∃ vr ∈ e.variants, vr.id = v) : Faithful ⟨storeAssignment sta.service u ei cn e v,
      .assigned u ei v e.trafficAllocation.sticky (Experiment.variantIds e) :: sta.log⟩ := by
  have hl : v ∈ Experiment.variantIds e := by
    obtain ⟨vr, mem, rfl⟩ := hm
    exact mem_map_of_mem mem
  have ha := assignmentsOf_storeAssignment sta.service u ei cn e v
  have hf : ((storeAssignment sta.service u ei cn e v).assignmentsOf ei).find? (·.userId = u) =
      some ⟨u, ei, v, cn⟩ := by
    rw [ha, if_pos rfl, find?_append, first]
    simp
  refine hft.answer hf ?_ ?_ ?_ ?_ hl
  · intro old p
    rw [first] at p
    cases p
  · intro user id hne
    rw [ha]
    split
    · rename_i hs
      have x : u ≠ user := fun h => hne ⟨h.symm, hs.symm⟩
      simp [find?_append, x]
    · rfl
  · intro id hab
    simp only [storeAssignment, get?_set] at hab
    split at hab
    · cases hab
    · rename_i hne
      rw [ha, if_neg hne]
      exact hft.stored id hab
  · intro id p hf old mem
    simp only [storeAssignment, get?_set] at hf
    rw [ha] at mem
    split at hf
    · rename_i hs
      cases hf
      rw [if_pos hs] at mem
      rw [variantIds_withVariant]
      rcases mem_append.mp mem with s | new
      · exact hft.current id e (hs ▸ st) old s
      · rw [mem_singleton.mp new]
        exact hl
    · rename_i hne
      rw [if_neg hne] at mem
      exact hft.current id p hf old mem

lemma Faithful.put_same {t : Service} {c : Experiment}
    (es : t.experiments = sta.service.experiments.set ei c)
    (ha : t.assignments = sta.service.assignments)
    (hs : Experiment.variantIds c = Experiment.variantIds e) : Faithful ⟨t, sta.log⟩ := by
  refine hft.put es (fun id => by rw [Service.assignmentsOf, ha]; rfl) ?_
  rw [hs]
  exact hft.current ei e st

end

lemma faithful_assign (hft : Faithful sta) {ds : Draws}
    (hc : Careful env sta.service (.assignParticipant u ei cn ds)) :
    Faithful ⟨(assignParticipant env sta.service u ei cn ds).2, (eventOf env sta.service
        (.assignParticipant u ei cn ds)).toList ++ sta.log⟩ := by
  match hdc : decideAssignment env sta.service u ei cn ds with
  | .error m => simpa [eventOf, assignParticipant, hdc] using hft
  | .ok (.existing v) =>
    obtain ⟨e, assignment, s, hf, rfl⟩ := decideAssignment_existing hdc
    simpa [eventOf, assignParticipant, hdc, s] using faithful_existing hft s hf
  | .ok (.new e v) =>
    obtain ⟨s, hr, first, hm⟩ := decideAssignment_new hdc
    have hu : (sta.service.assignmentsOf ei).find? (·.userId = u) = none := by
      cases hs : e.trafficAllocation.sticky with
      | true => exact first hs
      | false => exact hc e s hs
    simpa [eventOf, assignParticipant, hdc, s] using faithful_joined hft s hu hm

lemma faithful_convert (hft : Faithful sta) (xid u et : String) (v : Rat) :
    Faithful ⟨(recordConversion sta.service xid u et v).2, (eventOf env sta.service
        (.recordConversion xid u et v)).toList ++ sta.log⟩ := by
  cases hs : sta.service.experiments.get? xid with
  | none => simpa [eventOf, recordConversion, hs] using hft
  | some e =>
    cases hf : (sta.service.assignmentsOf xid).find? (·.userId = u) with
    | none => simpa [eventOf, recordConversion, hs, hf] using hft
    | some assignment =>
      have es : (recordConversion sta.service xid u et
          v).2.experiments = sta.service.experiments.set xid
            (e.withVariant assignment.variantId (VariantMetrics.countConversion et v)) := by
        simp [recordConversion, hs, hf]
      have ha : (recordConversion sta.service xid u et
          v).2.assignments = sta.service.assignments := by
        simp [recordConversion, hs, hf]
      have put := (hft.credit hf).put_same hs es ha (variantIds_withVariant _ _ _)
      simpa [eventOf, recordConversion, hs, hf] using put

lemma faithful_observe {c : Call} {t : Observed} (hf : Faithful sta)
    (hc : Careful env sta.service c) (ho : observe env sta c = some t) : Faithful t := by
  obtain ⟨svc, hs, rfl⟩ := map_eq_some_iff.mp ho
  cases c with
  | assignParticipant u ei cn draws =>
    cases hs
    exact faithful_assign hf hc
  | recordConversion ei u e v =>
    cases hs
    exact faithful_convert hf ei u e v
  | createExperiment id experimentData =>
    cases effect_of_step hs with
    | unchanged => exact hf
    | created same =>
      refine hf.put rfl ?_ ?_
      · intro x
        simp only [Service.assignmentsOf, get?_set]
        split
        · rename_i h
          exact h ▸ (hf.stored id hc).symm
        · rfl
      · rw [hf.stored id hc]
        rintro _ ⟨⟩
  | updateExperiment ei us =>
    cases effect_of_step hs with
    | unchanged => exact hf
    | updated s idle hv =>
      refine hf.put rfl (fun _ => rfl) ?_
      intro assignment mem
      cases hg : us.variants with
      | none =>
        have hk := hf.current ei _ s assignment mem
        simpa [Experiment.variantIds, Experiment.updated, hg] using hk
      | some vs =>
        have hk := hc _ s idle hv vs hg assignment mem
        simpa [Experiment.variantIds, Experiment.updated, hg] using hk
  | startExperiment ei =>
    cases effect_of_step hs with
    | unchanged => exact hf
    | started s ready hv =>
      exact hf.put_same s rfl rfl (variantIds_started _)
  | stopExperiment ei =>
    cases effect_of_step hs with
    | unchanged => exact hf
    | stopped s _ | halted s _ => exact hf.put_same s rfl rfl rfl

end

/-- Along every run of careful calls, sticky experiments return one variant to a user, which they
have, and conversions go to what was returned last. -/
theorem consistent_of_careful (env : Environment) {calls : List Call} {state : Observed}
    (run : Run (observe env) (fun state call => Careful env state.service call) start calls state) :
    Consistent state.log :=
  (run.invariant Faithful
    (fun _ _ _ faithful careful observed => faithful_observe faithful careful observed)
    faithful_start).consistent

instance (env : Environment) (service : Service) (call : Call) :
    Decidable (Careful env service call) := by
  induction call using Call.casesOn <;> dsimp only [Careful] <;> infer_instance

open ABTestingMetrics (plainEnvironment plainVariant plainExperiment nobody low join)

def high : Draw := ⟨9 / 10, by norm_num, by norm_num⟩

def joinHigh (userId : String) : Call := .assignParticipant userId "e1" nobody ⟨low, low, high⟩

def ready : ExperimentUpdates := { noUpdates with status := some .ready }

/-- An experiment is stopped, made ready again and restarted. -/
def restart : List Call :=
  [.createExperiment "e1" plainExperiment, .startExperiment "e1", join "u1", joinHigh "u2",
    .recordConversion "e1" "u1" "primary_metric" 1, .stopExperiment "e1",
    .updateExperiment "e1" ready, .startExperiment "e1", joinHigh "u1"]

theorem restart_is_consistent : ∃ state,
    Run (observe plainEnvironment) (fun state call => Careful plainEnvironment state.service call)
      start restart state ∧ state.log =
      [.assigned "u1" "e1" "control" true ["control", "treatment"], .credited "u1" "e1" "control",
        .assigned "u2" "e1" "treatment" true ["control", "treatment"],
        .assigned "u1" "e1" "control" true ["control", "treatment"]] ∧ Consistent state.log :=
  exists_run (by decide +kernel) fun _ run _ => consistent_of_careful plainEnvironment run

def changing : Experiment :=
  { plainExperiment with
    trafficAllocation := { plainExperiment.trafficAllocation with sticky := false } }

/-- The same user is assigned twice and then converts. -/
def secondAssignment : List Call :=
  [.createExperiment "e1" changing, .startExperiment "e1", join "u1", joinHigh "u1",
    .recordConversion "e1" "u1" "primary_metric" 1]

/-- The control is replaced before the restart. -/
def replacedControl : List Call :=
  [.createExperiment "e1" plainExperiment, .startExperiment "e1", join "u1", .stopExperiment "e1",
    .updateExperiment "e1" { ready with
      variants := some [plainVariant "baseline" true 50, plainVariant "treatment" false 50] },
    .startExperiment "e1", join "u1"]

/-- The second assignment goes to the treatment, the conversion to the control. The user of the
other experiment gets a variant that no longer exists. -/
theorem secondAssignment_and_replacedControl_are_inconsistent :
    (∃ state, Run (observe plainEnvironment) Always start secondAssignment state ∧
      state.log = [.credited "u1" "e1" "control",
        .assigned "u1" "e1" "treatment" false ["control", "treatment"],
        .assigned "u1" "e1" "control" false ["control", "treatment"]] ∧ ¬ Consistent state.log) ∧
    ∃ state, Run (observe plainEnvironment) Always start replacedControl state ∧
      state.log = [.assigned "u1" "e1" "control" true ["baseline", "treatment"],
        .assigned "u1" "e1" "control" true ["control", "treatment"]] ∧ ¬ Consistent state.log := by
  constructor
  · refine exists_run (by decide +kernel) fun state _ log hc => ?_
    have hcr := hc.credits
    rw [log] at hcr
    exact absurd hcr.1 (by decide)
  · refine exists_run (by decide +kernel) fun state _ log hc => ?_
    have hct := hc.current "u1" "e1" "control" true ["baseline", "treatment"]
    rw [log] at hct
    exact absurd (hct mem_cons_self) (by decide)

end ABTestingAssignment
