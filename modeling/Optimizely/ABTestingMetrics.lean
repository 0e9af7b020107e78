import Mathlib.Tactic.Linarith
import Optimizely.ABTestingCalls
import Optimizely.TransitionRuns

/-!
# Counters of running experiments

The counters of a running experiment agree with its list of assignments as long as nobody joins a
variant after its first conversion and no experiment is restarted over old assignments.
-/

namespace ABTestingMetrics

open ABTesting TransitionRuns List OrderedMap Service VariantMetrics

/-- The rate that the counters give. -/
def rateOf (metrics : VariantMetrics) : JsNumber :=
  if metrics.participantCount = 0 then .finite 0
  else .finite (metrics.conversionCount / metrics.participantCount)

def assignedTo (assigned : List ParticipantAssignment) (variantId : String) : Nat :=
  assigned.countP fun assignment => assignment.variantId = variantId

def VariantCounted (assigned : List ParticipantAssignment) (variant : ExperimentVariant) : Prop :=
  variant.metrics.participantCount = assignedTo assigned variant.id ∧
  variant.metrics.conversionRate = rateOf variant.metrics

def Counted (assigned : List ParticipantAssignment) (variants : List ExperimentVariant) : Prop :=
  ∀ variant ∈ variants, VariantCounted assigned variant

/-- Every running experiment has counters that agree with its assignments. -/
def CountersAgree (service : Service) : Prop :=
  ∀ experimentId experiment, service.experiments.get? experimentId = some experiment →
    experiment.status = .running →
    Counted (service.assignmentsOf experimentId) experiment.variants

deriving instance Decidable for VariantCounted, Counted

def Valid (env : Environment) (experiment : Experiment) : Prop :=
  validateExperiment env experiment = .ok ()

/-- Created experiments start with zero metrics. -/
def FreshMetrics (_ : Service) : Call → Prop
  | .createExperiment _ experimentData =>
    ∀ variant ∈ experimentData.variants, variant.metrics = zeroMetrics
  | _ => True

/-- An update runs an experiment only with counters that agree. -/
def CarefulUpdate (env : Environment) (assigned : List ParticipantAssignment)
    (updates : ExperimentUpdates) (experiment : Experiment) : Prop :=
  experiment.status ≠ .running → Valid env (experiment.updated updates) →
    (experiment.updated updates).status = .running →
    Counted assigned (experiment.updated updates).variants

/-- No assignment names a variant of an experiment that starts. -/
def CarefulStart (env : Environment) (assigned : List ParticipantAssignment)
    (experiment : Experiment) : Prop :=
  experiment.status = .ready → Valid env experiment →
    ∀ variant ∈ experiment.variants, assignedTo assigned variant.id = 0

/-- A new participant joins a variant without conversions, which alone bears its id. -/
def CarefulAssignment : Except String Decision → Prop
  | .ok (.new experiment variantId) =>
    experiment.variants.countP (·.id = variantId) = 1 ∧
    ∀ variant ∈ experiment.variants, variant.id = variantId → variant.metrics.conversionCount = 0
  | _ => True

def Careful (env : Environment) (service : Service) : Call → Prop
  | .updateExperiment experimentId updates =>
    ∀ experiment ∈ service.experiments.get? experimentId,
      CarefulUpdate env (service.assignmentsOf experimentId) updates experiment
  | .startExperiment experimentId =>
    ∀ experiment ∈ service.experiments.get? experimentId,
      CarefulStart env (service.assignmentsOf experimentId) experiment
  | .assignParticipant userId experimentId context draws =>
    CarefulAssignment (decideAssignment env service userId experimentId context draws)
  | call => FreshMetrics service call

variable {t svc : Service} {e : Experiment} {ps : List ParticipantAssignment} {id : String}
  {new : ParticipantAssignment} {c : Call} {env : Environment} {A : Type} {as : List A}
  {change : A → A} {test : A → Bool}

lemma countersAgree_put (hag : CountersAgree svc) (he : t.experiments = svc.experiments.set id e)
    (ha : t.assignments = svc.assignments) (new : e.status = .running →
      Counted (svc.assignmentsOf id) e.variants) : CountersAgree t := by
  intro x f hfn hr
  rw [he, get?_set] at hfn
  rw [assignmentsOf, ha]
  split at hfn
  · rename_i hs
    cases hfn
    exact hs ▸ new hr
  · exact hag x f hfn hr

lemma countersAgree_set (hag : CountersAgree svc) (he : t.experiments = svc.experiments.set id e)
    (ha : t.assignments = svc.assignments.set id ps)
    (new : e.status = .running → Counted ps e.variants) : CountersAgree t := by
  intro x f hfn hr
  rw [he, get?_set] at hfn
  rw [assignmentsOf, ha, get?_set]
  split at hfn
  · rename_i hs
    cases hfn
    simpa [hs] using new hr
  · rename_i hne
    rw [if_neg hne]
    exact hag x f hfn hr

lemma counted_zero {vs : List ExperimentVariant} (hz : ∀ vr ∈ vs, vr.metrics = zeroMetrics)
    (hu : ∀ vr ∈ vs, assignedTo ps vr.id = 0) : Counted ps vs := by
  intro vr mem
  rw [VariantCounted, hz vr mem, hu vr mem]
  exact ⟨rfl, rfl⟩

lemma assignedTo_append (ps : List ParticipantAssignment) (new : ParticipantAssignment)
    (v : String) : assignedTo (ps ++ [new]) v =
      assignedTo ps v + if new.variantId = v then 1 else 0 := by
  simp [assignedTo, countP_append, countP_singleton]

lemma counted_assignment (hct : Counted ps e.variants)
    (ha : e.variants.countP (·.id = new.variantId) = 1)
    (huv : ∀ vr ∈ e.variants, vr.id = new.variantId →
      vr.metrics.conversionCount = 0) : Counted (ps ++ [new])
      (e.withVariant new.variantId countParticipant).variants := by
  intro vr mem
  rw [VariantCounted, assignedTo_append]
  rcases mem_updateFirst_unique ha mem with ⟨old, x⟩ | ⟨j, hjn, hs, rfl⟩
  · have hne : new.variantId ≠ vr.id := by
      intro h
      simp [h] at x
    rw [if_neg hne, add_zero]
    exact hct vr old
  · have hs : j.id = new.variantId := by simpa using hs
    obtain ⟨hc, hr⟩ := hct j hjn
    have hz := huv j hjn hs
    constructor
    · simp [countParticipant, hc, hs]
    · have hrt : j.metrics.conversionRate = .finite 0 := by
        rw [hr, rateOf, hz]
        simp
      simp [countParticipant, rateOf, hrt, hz]

lemma counted_conversion (hct : Counted ps e.variants) {a : ParticipantAssignment}
    (mem : a ∈ ps) (ty : String) (v : Rat) : Counted ps (e.withVariant a.variantId
      (countConversion ty v)).variants := by
  intro vr hv
  rcases mem_updateFirst hv with old | ⟨cn, hf, rfl⟩
  · exact hct vr old
  · have hc := mem_of_find?_eq_some hf
    have hs : cn.id = a.variantId := by simpa using find?_some hf
    obtain ⟨hco, -⟩ := hct cn hc
    have some_assigned : 0 < assignedTo ps cn.id := countP_pos_iff.mpr ⟨a, mem, by simp [hs]⟩
    have hnz : cn.metrics.participantCount ≠ 0 := by
      rw [hco]
      exact_mod_cast some_assigned.ne'
    refine ⟨by simpa using hco, ?_⟩
    simp only [rateOf, countConversion_counts, if_neg hnz]
    exact JsNumber.div_finite _ hnz

lemma counted_started (hu : ∀ vr ∈ e.variants, assignedTo ps vr.id = 0) :
    Counted ps e.started.variants := by
  refine counted_zero ?_ ?_
  · intro vr mem
    obtain ⟨old, -, rfl⟩ := mem_map.mp mem
    rfl
  · intro vr mem
    obtain ⟨old, ho, rfl⟩ := mem_map.mp mem
    exact hu old ho

lemma countersAgree_step (ha : CountersAgree svc) (hca : Careful env svc c)
    (he : Effect env svc c t) : CountersAgree t := by
  cases he with
  | unchanged => exact ha
  | created hs =>
    refine countersAgree_set ha rfl rfl fun _ => ?_
    rw [hs]
    exact counted_zero hca fun _ _ => rfl
  | updated hf hi hv => exact countersAgree_put ha rfl rfl (hca _ hf hi hv)
  | started hf hrd hv =>
    exact countersAgree_put ha rfl rfl fun _ => counted_started (hca _ hf hrd hv)
  | stopped | halted => exact countersAgree_put ha rfl rfl fun hr => nomatch hr
  | joined hde =>
    rw [Careful, hde] at hca
    obtain ⟨hf, hr, -, -⟩ := decideAssignment_new hde
    refine countersAgree_set ha rfl rfl fun _ => ?_
    exact counted_assignment (ha _ _ hf hr) hca.1 hca.2
  | converted hf has =>
    exact countersAgree_put ha rfl rfl fun hr =>
      counted_conversion (ha _ _ hf hr) (mem_of_find?_eq_some has) _ _

lemma mem_updateFirst_of_untested
    (htw : 1 < as.countP test) : ∃ a ∈ as, test a ∧ a ∈ updateFirst test change as := by
  induction as with
  | nil => simp at htw
  | cons b as ih =>
    by_cases h : test b = true
    · rw [countP_cons_of_pos h] at htw
      obtain ⟨a, mem, ht⟩ := countP_pos_iff.mp (by omega : 0 < as.countP test)
      refine ⟨a, mem_cons_of_mem _ mem, ht, ?_⟩
      rw [updateFirst, if_pos h]
      exact mem_cons_of_mem _ mem
    · rw [countP_cons_of_neg h] at htw
      obtain ⟨a, mem, ht, hk⟩ := ih htw
      refine ⟨a, mem_cons_of_mem _ mem, ht, ?_⟩
      rw [updateFirst, if_neg h]
      exact mem_cons_of_mem _ hk

lemma change_mem_updateFirst {a : A} (hu : as.countP test = 1) (mem : a ∈ as) (ht : test a = true) :
    change a ∈ updateFirst test change as := by
  induction as with
  | nil => cases mem
  | cons b as ih =>
    by_cases h : test b = true
    · rw [updateFirst, if_pos h]
      rcases mem_cons.mp mem with rfl | r
      · exact mem_cons_self
      · rw [countP_cons_of_pos h] at hu
        have some_tested := countP_pos_iff.mpr ⟨a, r, ht⟩
        omega
    · rw [updateFirst, if_neg h]
      rw [countP_cons_of_neg h] at hu
      rcases mem_cons.mp mem with rfl | r
      · exact absurd ht h
      · exact mem_cons_of_mem _ (ih hu r)

lemma unconverted_of_rate {m : VariantMetrics} (nonneg : 0 ≤ m.participantCount)
    (s : m.conversionRate = rateOf m)
    (now : m.countParticipant.conversionRate = rateOf m.countParticipant) :
    m.conversionCount = 0 := by
  have hm : m.participantCount + 1 ≠ 0 := by linarith
  have hs : rateOf m = .finite (m.conversionCount / (m.participantCount + 1)) := by
    rw [← s]
    simpa [countParticipant, rateOf, hm] using now
  by_cases none : m.participantCount = 0
  · simpa [rateOf, none] using hs.symm
  · simp only [rateOf, if_neg none, JsNumber.finite.injEq] at hs
    rw [div_eq_div_iff none hm] at hs
    linarith

lemma careful_of_counted_assignment (hct : Counted ps e.variants)
    (member : ∃ vr ∈ e.variants, vr.id = new.variantId) (t : Counted (ps ++ [new])
      (e.withVariant new.variantId countParticipant).variants) :
    e.variants.countP (·.id = new.variantId) = 1 ∧
    ∀ vr ∈ e.variants, vr.id = new.variantId → vr.metrics.conversionCount = 0 := by
  have alone : e.variants.countP (·.id = new.variantId) = 1 := by
    obtain ⟨vr, mem, same⟩ := member
    have hpos : 0 < e.variants.countP (·.id = new.variantId) :=
      countP_pos_iff.mpr ⟨vr, mem, by simp [same]⟩
    by_contra several
    have twice : 1 < e.variants.countP (·.id = new.variantId) := by omega
    obtain ⟨x, hother, tested, hk⟩ := mem_updateFirst_of_untested twice
    have s := (hct x hother).1
    have now := (t x hk).1
    have same : new.variantId = x.id := by simpa using Eq.symm (by simpa using tested)
    rw [assignedTo_append, if_pos same, s] at now
    push_cast at now
    linarith
  refine ⟨alone, fun vr mem same => ?_⟩
  obtain ⟨hcount, hrate⟩ := hct vr mem
  have changed : ({ vr with metrics := vr.metrics.countParticipant } : ExperimentVariant) ∈
      (e.withVariant new.variantId countParticipant).variants :=
    change_mem_updateFirst alone mem (by simp [same])
  exact unconverted_of_rate (by rw [hcount]; exact Nat.cast_nonneg _) hrate (t _ changed).2

lemma get?_put (svc : Service) (id : String) (e : Experiment) :
    (svc.put id e).experiments.get? id = some e := by
  simp [put, get?_set]

lemma careful_of_countersAgree (ha : CountersAgree svc) (hfr : FreshMetrics svc c)
    (hs : step env svc c = some t) (hk : CountersAgree t) : Careful env svc c := by
  cases c with
  | createExperiment _ _ | stopExperiment _ | recordConversion _ _ _ _ => exact hfr
  | updateExperiment id us =>
    cases hs
    intro e hf idle hv hr
    have hf : svc.experiments.get? id = some e := hf
    have r : (updateExperiment env svc id us).2 = svc.put id (e.updated us) := by
      rw [Valid] at hv
      simp [updateExperiment, hf, idle, hv]
    rw [r] at hk
    exact hk id _ (get?_put svc id _) hr
  | startExperiment id =>
    cases hs
    intro e hf hrd hv vr mem
    have hf : svc.experiments.get? id = some e := hf
    have r : (startExperiment env svc id).2 = svc.put id e.started := by
      rw [Valid] at hv
      simp [startExperiment, hf, hrd, hv]
    rw [r] at hk
    have hct := hk id _ (get?_put svc id _) rfl
      { vr with metrics := zeroMetrics } (mem_map_of_mem mem)
    have zero : (0 : Rat) = assignedTo (svc.assignmentsOf id) vr.id := hct.1
    exact_mod_cast zero.symm
  | assignParticipant u id cn ds =>
    cases hs
    rw [Careful]
    cases hde : decideAssignment env svc u id cn ds with
    | error m => trivial
    | ok d =>
      cases d with
      | existing v => trivial
      | new e v =>
        obtain ⟨hf, hr, -, hm⟩ := decideAssignment_new hde
        have r : (assignParticipant env svc u id cn ds).2 = storeAssignment svc u id cn e v := by
          simp [assignParticipant, hde]
        rw [r] at hk
        have hct := hk id (e.withVariant v
          countParticipant) (by simp [storeAssignment, get?_set]) hr
        rw [assignmentsOf, storeAssignment, get?_set, if_pos rfl, Option.getD_some] at hct
        exact careful_of_counted_assignment (ha id e hf hr) hm hct

/-- Along every run of careful calls the counters of running experiments agree with their
assignments, and the next call keeps that exactly if it is careful too. -/
theorem countersAgree_of_careful (env : Environment) {calls : List Call} {service : Service}
    (run : Run (step env) (Careful env) initial calls service) : CountersAgree service ∧
    ∀ call after, FreshMetrics service call → step env service call = some after →
      (CountersAgree after ↔ Careful env service call) := by
  have ha : CountersAgree service := by
    apply run.invariant CountersAgree
      (fun _ _ _ ha hc hs => countersAgree_step ha hc (effect_of_step hs))
    intro experimentId experiment hf
    cases hf
  refine ⟨ha, fun call after hfr hs => ?_⟩
  constructor
  · exact careful_of_countersAgree ha hfr hs
  · intro hc
    exact countersAgree_step ha hc (effect_of_step hs)

deriving instance Decidable for Valid

instance (service : Service) (call : Call) : Decidable (FreshMetrics service call) := by
  cases call <;> dsimp only [FreshMetrics] <;> infer_instance

deriving instance Decidable for CarefulUpdate, CarefulStart

instance (decision : Except String Decision) : Decidable (CarefulAssignment decision) := by
  unfold CarefulAssignment
  repeat' split
  all_goals infer_instance

instance (env : Environment) (service : Service) (call : Call) :
    Decidable (Careful env service call) := by
  cases call <;> dsimp only [Careful] <;> infer_instance

def plainEnvironment : Environment where
  conversions := .plain
  showNumber := fun q => toString q
  sqrt := fun _ => .finite 0
  normalCDF := fun _ => .finite 0
  inverseNormal := fun _ => 0

def plainVariant (id : String) (isControl : Bool) (allocation : Rat) : ExperimentVariant :=
  ⟨id, isControl, allocation, zeroMetrics⟩

def plainExperiment : Experiment where
  id := "e1"
  industry := none
  status := .ready
  variants := [plainVariant "control" true 50, plainVariant "treatment" false 50]
  trafficAllocation := ⟨.weighted, [], [], true, 100⟩
  statisticalConfig := ⟨95 / 100, 8 / 10, 1 / 10, 5 / 100⟩
  metadata := ⟨.finite 14, .finite 1000⟩
  results := none

def nobody : AssignmentContext := ⟨"", "", "", "", "", fun _ => .undefined⟩

def low : Draw := ⟨0, by norm_num, by norm_num⟩

def join (userId : String) : Call := .assignParticipant userId "e1" nobody ⟨low, low, low⟩

/-- The second participant joins after the first has converted. -/
def lateJoin : List Call :=
  [.createExperiment "e1" plainExperiment, .startExperiment "e1", join "u1",
    .recordConversion "e1" "u1" "primary_metric" 1, join "u2"]

/-- Status of an experiment, and participants, conversions and rate of its variants. -/
def countersOf (service : Service) (experimentId : String) :
    Option (ExperimentStatus × List (Rat × Rat × JsNumber)) :=
  (service.experiments.get? experimentId).map fun experiment =>
    (experiment.status, experiment.variants.map fun variant =>
      (variant.metrics.participantCount, variant.metrics.conversionCount,
        variant.metrics.conversionRate))

theorem lateJoin_rate_is_stale : ∃ service,
    Run (step plainEnvironment) FreshMetrics initial lateJoin service ∧
    countersOf service "e1" = some (.running, [(2, 1, .finite 1), (0, 0, .finite 0)]) ∧
    ¬ CountersAgree service := by
  refine exists_run (by decide +kernel) fun service _ hc ha => ?_
  obtain ⟨e, hf, hvl⟩ := Option.map_eq_some_iff.mp hc
  simp only [Prod.mk.injEq] at hvl
  obtain ⟨hr, ms⟩ := hvl
  have first : ((2 : Rat), (1 : Rat), JsNumber.finite 1) ∈ e.variants.map fun variant =>
      (variant.metrics.participantCount, variant.metrics.conversionCount,
        variant.metrics.conversionRate) := by
    rw [ms]
    exact mem_cons_self
  obtain ⟨variant, mem, hv⟩ := mem_map.mp first
  simp only [Prod.mk.injEq] at hv
  obtain ⟨ps, cs, r⟩ := hv
  have he := (ha "e1" e hf hr variant mem).2
  rw [r, rateOf, ps, cs] at he
  norm_num at he

/-- Both participants join before the first conversion. -/
def earlyJoin : List Call :=
  [.createExperiment "e1" plainExperiment, .startExperiment "e1", join "u1", join "u2",
    .recordConversion "e1" "u1" "primary_metric" 1]

theorem earlyJoin_counters_agree : ∃ service,
    Run (step plainEnvironment) (Careful plainEnvironment) initial earlyJoin service ∧
    countersOf service "e1" = some (.running, [(2, 1, .finite (1 / 2)), (0, 0, .finite 0)]) ∧
    CountersAgree service :=
  exists_run (by decide +kernel) fun _ run _ => (countersAgree_of_careful plainEnvironment run).1

end ABTestingMetrics
