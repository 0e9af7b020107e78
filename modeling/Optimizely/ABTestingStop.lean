import Mathlib.Tactic.Positivity
import Optimizely.ABTestingMetrics

/-!
# Stopped experiments and conversion counts

`recordConversion` looks neither at the status of the experiment nor at what the user did before. A
stopped experiment keeps its metrics, and a variant has at most as many conversions as participants,
if nobody converts on a stopped experiment, or twice for an assignment, or for one that the counters
have not seen.
-/

namespace ABTestingStop

open ABTesting TransitionRuns List Option OrderedMap Service Function JsNumber

/-- The service, and for each experiment the assignments that may still convert: the first of a
user, if the metrics were not reset since and the user has not converted. -/
structure Tracked where
  service : Service
  unconverted : String → List ParticipantAssignment

def unconvertedAfter (env : Environment) (state : Tracked) :
    Call → String → List ParticipantAssignment
  | .createExperiment id experimentData =>
    match (createExperiment env state.service id experimentData).1 with
    | .ok _ => Function.update state.unconverted id []
    | .error _ => state.unconverted
  | .updateExperiment experimentId updates =>
    match (updateExperiment env state.service experimentId updates).1, updates.variants with
    | .ok _, some _ => Function.update state.unconverted experimentId []
    | _, _ => state.unconverted
  | .startExperiment experimentId =>
    match (startExperiment env state.service experimentId).1 with
    | .ok _ => Function.update state.unconverted experimentId []
    | .error _ => state.unconverted
  | .stopExperiment _ => state.unconverted
  | .assignParticipant userId experimentId context draws =>
    match decideAssignment env state.service userId experimentId context draws,
      (state.service.assignmentsOf experimentId).find? (·.userId = userId) with
    | .ok (.new _ variantId), none => Function.update state.unconverted experimentId
        (state.unconverted experimentId ++ [⟨userId, experimentId, variantId, context⟩])
    | _, _ => state.unconverted
  | .recordConversion experimentId userId _ _ => Function.update state.unconverted experimentId
      ((state.unconverted experimentId).filter (·.userId ≠ userId))

def track (env : Environment) (state : Tracked) (call : Call) : Option Tracked :=
  (step env state.service call).map fun after => ⟨after, unconvertedAfter env state call⟩

def start : Tracked := ⟨initial, fun _ => []⟩

/-- New variants come with zero metrics, and a conversion that finds an assignment is made on an
experiment that is not stopped, by a user who may still convert. -/
def Careful (state : Tracked) : Call → Prop
  | .createExperiment _ experimentData =>
    ∀ variant ∈ experimentData.variants, variant.metrics = zeroMetrics
  | .updateExperiment _ updates =>
    ∀ variants ∈ updates.variants, ∀ variant ∈ variants, variant.metrics = zeroMetrics
  | .recordConversion experimentId userId _ _ =>
    ∀ experiment ∈ state.service.experiments.get? experimentId,
      ((state.service.assignmentsOf experimentId).any (·.userId = userId)) →
        experiment.status ≠ .stopped ∧
          (state.unconverted experimentId).any (·.userId = userId)
  | _ => True

/-- The counters and the rate of a variant, as a test expects them. -/
structure Sane (metrics : VariantMetrics) : Prop where
  nonneg : 0 ≤ metrics.conversionCount
  bounded : metrics.conversionCount ≤ metrics.participantCount
  rate : ∃ rate : Rat, metrics.conversionRate = .finite rate ∧ 0 ≤ rate ∧ rate ≤ 1

/-- The first variant with an id has room for the conversions that are still possible. -/
structure Bounded (unconverted : List ParticipantAssignment) (variants : List ExperimentVariant) :
    Prop where
  sane : ∀ variant ∈ variants, Sane variant.metrics
  room : ∀ variantId variant, variants.find? (·.id = variantId) = some variant →
    variant.metrics.conversionCount + unconverted.countP (·.variantId = variantId) ≤
      variant.metrics.participantCount

lemma sane_zero : Sane zeroMetrics := ⟨le_refl 0, le_refl 0, 0, rfl, le_refl 0, zero_le_one⟩

variable {vs : List ExperimentVariant} {state : Tracked} {env : Environment}

lemma bounded_zero (hz : ∀ vr ∈ vs, vr.metrics = zeroMetrics) : Bounded [] vs where
  sane vr mem := by
    rw [hz vr mem]
    exact sane_zero
  room v vr hf := by
    rw [hz vr (mem_of_find?_eq_some hf)]
    simp [zeroMetrics]

variable {un uv : List ParticipantAssignment} {metrics : VariantMetrics}
  {a : ParticipantAssignment} {e : Experiment} {id xid : String} {t : Tracked} {c : Call}

lemma Bounded.mono {fw : List ParticipantAssignment} (hbd : Bounded un vs)
    (le : ∀ v, fw.countP (·.variantId = v) ≤ un.countP (·.variantId = v)) : Bounded fw vs where
  sane := hbd.sane
  room v vr hf := by
    have room := hbd.room v vr hf
    have le : (fw.countP (·.variantId = v) : Rat) ≤
        un.countP (·.variantId = v) := by exact_mod_cast le v
    linarith

lemma find?_updateFirst {v x : String}
    {change : VariantMetrics → VariantMetrics} {vr : ExperimentVariant}
    (hf : (updateFirst (·.id = v) (fun vr : ExperimentVariant =>
      { vr with metrics := change vr.metrics }) vs).find? (·.id = x) = some vr) :
    ∃ old, vs.find? (·.id = x) = some old ∧
      ((x = v ∧ vr = { old with metrics := change old.metrics }) ∨ (x ≠ v ∧ vr = old)) := by
  induction vs with
  | nil => cases hf
  | cons first vs ih =>
    rw [updateFirst] at hf
    by_cases hc : first.id = v
    · rw [if_pos (decide_eq_true hc)] at hf
      by_cases here : first.id = x
      · rw [find?_cons_of_pos (by simpa using here)] at hf ⊢
        cases hf
        exact ⟨first, rfl, .inl ⟨here.symm.trans hc, rfl⟩⟩
      · rw [find?_cons_of_neg (by simpa using here)] at hf ⊢
        exact ⟨vr, hf, .inr ⟨fun h => here (hc.trans h.symm), rfl⟩⟩
    · rw [if_neg (by simpa using hc)] at hf
      by_cases here : first.id = x
      · rw [find?_cons_of_pos (by simpa using here)] at hf ⊢
        cases hf
        exact ⟨_, rfl, .inr ⟨fun h => hc (here.trans h), rfl⟩⟩
      · rw [find?_cons_of_neg (by simpa using here)] at hf ⊢
        exact ih hf

lemma Sane.countParticipant (hs : Sane metrics) : Sane metrics.countParticipant where
  nonneg := hs.nonneg
  bounded := by
    have bounded := hs.bounded
    simp only [VariantMetrics.countParticipant]
    linarith
  rate := hs.rate

lemma Sane.countConversion (hs : Sane metrics)
    (hr : metrics.conversionCount + 1 ≤ metrics.participantCount) (ty : String)
    (v : Rat) : Sane (metrics.countConversion ty v) := by
  have nonneg := hs.nonneg
  have hp : 0 < metrics.participantCount := by linarith
  obtain ⟨ps, cs, r⟩ := countConversion_counts ty v metrics
  constructor
  · rw [cs]
    linarith
  · rwa [cs, ps]
  · refine ⟨(metrics.conversionCount + 1) / metrics.participantCount, ?_, ?_, ?_⟩
    · rw [r, div_finite _ hp.ne']
    · exact div_nonneg (by linarith) hp.le
    · exact (div_le_one hp).mpr hr

section

variable {u uv next : List ParticipantAssignment} {e : Experiment}
  {vi v : String}

lemma Bounded.join (hbd : Bounded u e.variants) (hm : ∀ x, next.countP (·.variantId = x) ≤
      u.countP (·.variantId = x) + if x = v then 1 else 0) :
    Bounded next (e.withVariant v VariantMetrics.countParticipant).variants where
  sane vr mem := by
    rcases mem_updateFirst mem with old | ⟨j, hf, rfl⟩
    · exact hbd.sane vr old
    · exact (hbd.sane j (mem_of_find?_eq_some hf)).countParticipant
  room x vr hf := by
    have hm : (next.countP (·.variantId = x) : Rat) ≤
        u.countP (·.variantId = x) + if x = v then 1 else 0 := by
      exact_mod_cast hm x
    obtain ⟨old, hp, ⟨hs, rfl⟩ | ⟨hne, rfl⟩⟩ := find?_updateFirst hf
    · have room := hbd.room x old hp
      rw [if_pos hs] at hm
      simp only [VariantMetrics.countParticipant]
      linarith
    · have room := hbd.room x vr hp
      rw [if_neg hne] at hm
      linarith

lemma Bounded.convert (hbd : Bounded uv e.variants)
    (hfw : ∀ x, next.countP (·.variantId = x) + (if x = vi then 1 else 0) =
      uv.countP (·.variantId = x)) (ty : String) (v : Rat) : Bounded next (e.withVariant vi
      (VariantMetrics.countConversion ty v)).variants where
  sane vr mem := by
    rcases mem_updateFirst mem with old | ⟨ex, hf, rfl⟩
    · exact hbd.sane vr old
    · refine (hbd.sane ex (mem_of_find?_eq_some hf)).countConversion ?_ _ _
      have room := hbd.room vi ex hf
      have hfw := hfw vi
      rw [if_pos rfl] at hfw
      rw [← hfw] at room
      push_cast at room
      have nonneg : (0 : Rat) ≤ next.countP (·.variantId = vi) := Nat.cast_nonneg _
      linarith
  room x vr hf := by
    have hfw : (next.countP (·.variantId = x) : Rat) +
        (if x = vi then 1 else 0) = uv.countP (·.variantId = x) := by
      exact_mod_cast hfw x
    obtain ⟨old, hp, ⟨hs, rfl⟩ | ⟨hne, rfl⟩⟩ := find?_updateFirst hf
    · have room := hbd.room x old hp
      rw [if_pos hs] at hfw
      simp only [countConversion_counts]
      linarith
    · have room := hbd.room x vr hp
      rw [if_neg hne] at hfw
      linarith

end

/-- The metrics have room for the assignments that may still convert, and these are the first
ones of different users. -/
structure Accounted (state : Tracked) : Prop where
  bounded : ∀ experimentId experiment,
    state.service.experiments.get? experimentId = some experiment →
      Bounded (state.unconverted experimentId) experiment.variants
  first : ∀ experimentId, ∀ assignment ∈ state.unconverted experimentId,
    (state.service.assignmentsOf experimentId).find? (·.userId = assignment.userId) =
      some assignment
  users : ∀ experimentId, ((state.unconverted experimentId).map (·.userId)).Nodup

lemma accounted_start : Accounted start where
  bounded _ _ hf := nomatch hf
  first _ _ mem := nomatch mem
  users _ := nodup_nil

lemma countP_filter_user (mem : a ∈ uv)
    (hu : (uv.map (·.userId)).Nodup) (p : ParticipantAssignment → Bool) :
    (uv.filter (·.userId ≠ a.userId)).countP p + (if p a then 1 else 0) = uv.countP p := by
  obtain ⟨l, r, rfl⟩ := append_of_mem mem
  have perm : l ++ a :: r ~ a :: (l ++ r) := perm_middle
  obtain ⟨hfr, -⟩ := nodup_cons.mp ((perm.map _).nodup_iff.mp hu)
  have ho : (l ++ r).filter (·.userId ≠ a.userId) = l ++ r := by
    refine filter_eq_self.mpr fun x hp => ?_
    have ne : x.userId ≠ a.userId := fun hs => hfr (mem_map.mpr ⟨x, hp, hs⟩)
    simpa using ne
  rw [(perm.filter _).countP_eq, perm.countP_eq, filter_cons_of_neg (by simp), ho, countP_cons]

section

variable {s : Tracked} {t : Service} {xid : String} {e : Experiment}
  {next : List ParticipantAssignment} {a : ParticipantAssignment}

lemma Accounted.put (ha : Accounted s) (he : t.experiments = s.service.experiments.set xid e)
    (has : t.assignments = s.service.assignments) (bounded : Bounded next e.variants)
    (hfw : next.Sublist (s.unconverted xid)) : Accounted ⟨t, update s.unconverted xid next⟩ where
  bounded id st hf := by
    rw [he, get?_set] at hf
    by_cases hs : xid = id
    · rw [if_pos hs] at hf
      cases hf
      subst hs
      simpa using bounded
    · rw [if_neg hs] at hf
      simpa [update_of_ne (Ne.symm hs)] using ha.bounded id st hf
  first id a mem := by
    rw [assignmentsOf, has]
    by_cases hs : id = xid
    · subst hs
      exact ha.first id a (hfw.subset (by simpa using mem))
    · exact ha.first id a (by simpa [update_of_ne hs] using mem)
  users id := by
    by_cases hs : id = xid
    · subst hs
      simpa using (ha.users id).sublist (hfw.map _)
    · simpa [update_of_ne hs] using ha.users id

lemma Accounted.fewer (ha : Accounted s) (hfw : next.Sublist (s.unconverted xid)) :
    Accounted ⟨s.service, update s.unconverted xid next⟩ := by
  have hs : ∀ id, (update s.unconverted xid next id).Sublist (s.unconverted id) := by
    intro id
    by_cases hsm : id = xid
    · subst hsm
      simpa using hfw
    · rw [update_of_ne hsm]
  constructor
  · intro id st hf
    exact (ha.bounded id st hf).mono fun _ => (hs id).countP_le
  · intro id a mem
    exact ha.first id a ((hs id).subset mem)
  · intro id
    exact (ha.users id).sublist ((hs id).map _)

lemma Accounted.put_same (ha : Accounted s) (he : t.experiments = s.service.experiments.set xid e)
    (has : t.assignments = s.service.assignments)
    (hbd : Bounded (s.unconverted xid) e.variants) : Accounted ⟨t, s.unconverted⟩ := by
  have put := ha.put he has hbd (.refl _)
  rwa [update_eq_self] at put

variable {c : AssignmentContext} {u v : String}

lemma find?_storeAssignment {us id : String}
    (hf : (s.service.assignmentsOf id).find? (·.userId = us) = some a) :
    ((storeAssignment s.service u xid c e v).assignmentsOf id).find? (·.userId = us) = some a := by
  rw [assignmentsOf_storeAssignment]
  split
  · rw [find?_append, hf, some_or]
  · exact hf

variable (ha : Accounted s) (hf : s.service.experiments.get? xid = some e)
include ha hf

lemma Accounted.rejoin : Accounted ⟨storeAssignment s.service u xid c e v, s.unconverted⟩ where
  bounded id st hp := by
    simp only [storeAssignment, get?_set] at hp
    split at hp
    · rename_i hs
      cases hp
      subst hs
      exact (ha.bounded xid e hf).join fun x => Nat.le_add_right _ _
    · exact ha.bounded id st hp
  first id a mem := find?_storeAssignment (ha.first id a mem)
  users := ha.users

lemma Accounted.join (new : (s.service.assignmentsOf xid).find? (·.userId = u) = none) :
    Accounted ⟨storeAssignment s.service u xid c e v, update s.unconverted xid
        (s.unconverted xid ++ [⟨u, xid, v, c⟩])⟩ := by
  have hr : Accounted ⟨storeAssignment s.service u xid c e v, s.unconverted⟩ := ha.rejoin hf
  constructor
  · intro id st hp
    dsimp only at hp ⊢
    by_cases hs : id = xid
    · subst hs
      simp only [storeAssignment, get?_set, if_true, some.injEq] at hp
      subst hp
      refine (ha.bounded id e hf).join fun x => ?_
      simp [countP_append, countP_singleton, eq_comm]
    · rw [update_of_ne hs]
      exact hr.bounded id st hp
  · intro id a mem
    dsimp only at mem ⊢
    by_cases hs : id = xid
    · subst hs
      rw [update_self] at mem
      rcases mem_append.mp mem with old | l
      · exact hr.first id a old
      · rw [mem_singleton.mp l, assignmentsOf_storeAssignment, if_pos rfl, find?_append, new]
        simp
    · rw [update_of_ne hs] at mem
      exact hr.first id a mem
  · intro id
    dsimp only
    by_cases hs : id = xid
    · subst hs
      rw [update_self, map_append, nodup_append]
      refine ⟨ha.users id, nodup_singleton _, ?_⟩
      rintro user mem _ l rfl
      obtain ⟨a, hp, hn⟩ := mem_map.mp mem
      have first := ha.first id a hp
      rw [hn, mem_singleton.mp l, new] at first
      cases first
    · rw [update_of_ne hs]
      exact ha.users id

lemma Accounted.convert {ty : String} {v : Rat}
    (has : (s.service.assignmentsOf xid).find? (·.userId = u) =
      some a) (open_ : (s.unconverted xid).any (·.userId = u) = true)
    (he : t.experiments = s.service.experiments.set xid
      (e.withVariant a.variantId (VariantMetrics.countConversion ty v)))
    (hag : t.assignments = s.service.assignments) : Accounted ⟨t, update s.unconverted xid
      ((s.unconverted xid).filter (·.userId ≠ u))⟩ := by
  obtain ⟨en, mem, hs⟩ := any_eq_true.mp open_
  have hs : en.userId = u := by simpa using hs
  have entry_eq : en = a := by
    have first := ha.first xid en mem
    rw [hs, has] at first
    exact (some.inj first).symm
  subst entry_eq
  refine ha.put he hag ?_ filter_sublist
  refine (ha.bounded xid e hf).convert (fun x => ?_) _ _
  have hct := countP_filter_user mem (ha.users xid) (·.variantId = x)
  rw [hs] at hct
  simpa [eq_comm] using hct

end

lemma Accounted.create (ha : Accounted state) (hz : ∀ vr ∈ e.variants, vr.metrics = zeroMetrics) :
    Accounted ⟨{ state.service with
        experiments := state.service.experiments.set id e
        assignments := state.service.assignments.set id [] },
      update state.unconverted id []⟩ := by
  constructor
  · intro x st hp
    dsimp only at hp ⊢
    rw [get?_set] at hp
    split at hp
    · rename_i hs
      cases hp
      rw [← hs, update_self]
      exact bounded_zero hz
    · rename_i hne
      rw [update_of_ne (Ne.symm hne)]
      exact ha.bounded x st hp
  · intro x a mem
    dsimp only at mem ⊢
    by_cases hs : x = id
    · rw [hs, update_self] at mem
      cases mem
    · rw [update_of_ne hs] at mem
      simp only [assignmentsOf, get?_set, if_neg (Ne.symm hs)]
      exact ha.first x a mem
  · intro x
    dsimp only
    by_cases hs : x = id
    · rw [hs, update_self]
      exact nodup_nil
    · rw [update_of_ne hs]
      exact ha.users x

lemma any_of_find {ad : List ParticipantAssignment} {u : String}
    (hf : ad.find? (·.userId = u) = some a) : ad.any (·.userId = u) = true :=
  any_eq_true.mpr ⟨a, mem_of_find?_eq_some hf, by simpa using find?_some hf⟩

lemma accounted_track (ha : Accounted state) (hca : Careful state c)
    (htr : track env state c = some t) : Accounted t := by
  obtain ⟨svc, hs, rfl⟩ := map_eq_some_iff.mp htr
  cases c with
  | createExperiment id ed =>
    cases hs
    simp only [unconvertedAfter]
    rcases createExperiment_cases env state.service id ed with ⟨m, r⟩ | ⟨e, same, r⟩
    · rw [r]
      exact ha
    · rw [r]
      exact ha.create (same ▸ hca)
  | updateExperiment xid us =>
    cases hs
    simp only [unconvertedAfter]
    rcases updateExperiment_cases env state.service xid us with ⟨m, r⟩ | ⟨e, hf, idle, valid, r⟩
    · rw [r]
      exact ha
    · rw [r]
      cases hg : us.variants with
      | none =>
        refine ha.put_same rfl rfl ?_
        simpa [Experiment.updated, hg] using ha.bounded xid e hf
      | some vs =>
        refine ha.put rfl rfl ?_ (nil_sublist _)
        simpa [Experiment.updated, hg] using bounded_zero (hca vs hg)
  | startExperiment xid =>
    cases hs
    simp only [unconvertedAfter]
    rcases startExperiment_cases env state.service xid with ⟨m, r⟩ | ⟨e, hf, hrd, valid, r⟩
    · rw [r]
      exact ha
    · rw [r]
      refine ha.put rfl rfl (bounded_zero ?_) (nil_sublist _)
      intro vr mem
      obtain ⟨old, -, rfl⟩ := mem_map.mp mem
      rfl
  | stopExperiment xid =>
    cases effect_of_step hs with
    | unchanged => exact ha
    | stopped hf _ | halted hf _ =>
      have hbd := ha.bounded xid _ hf
      exact ha.put_same rfl rfl hbd
  | assignParticipant u xid cn ds =>
    cases hs
    simp only [assignParticipant, unconvertedAfter]
    cases hde : decideAssignment env state.service u xid cn ds with
    | error m => exact ha
    | ok d =>
      cases d with
      | existing vi => exact ha
      | new e vi =>
        obtain ⟨hf, -, -, -⟩ := decideAssignment_new hde
        cases has : (state.service.assignmentsOf xid).find? (·.userId = u) with
        | none => exact ha.join hf has
        | some a => exact ha.rejoin hf
  | recordConversion xid u ty v =>
    cases effect_of_step hs with
    | unchanged => exact ha.fewer filter_sublist
    | converted hf has =>
      exact ha.convert hf has (hca _ hf (any_of_find has)).2 rfl rfl

lemma spread_nonneg {p : Rat} (hn : 0 ≤ p) (le_one : p ≤ 1) : 0 ≤ p * (1 + -p) :=
  mul_nonneg hn (by linarith)

/-- On sane metrics the test takes the square root of non-negative numbers only: nothing else
about the square root matters. -/
lemma performStatisticalTest_congr {cn ts : VariantMetrics}
    (hsn : Sane cn) (hs' : Sane ts) (c : StatisticalConfig) {sqrt : JsNumber → JsNumber}
    (ha : ∀ q : Rat, 0 ≤ q → sqrt (.finite q) = env.sqrt (.finite q)) :
    performStatisticalTest { env with sqrt := sqrt } cn ts c =
      performStatisticalTest env cn ts c := by
  obtain ⟨hn, hbn, rate₁, his, hl, hh⟩ := hsn
  obtain ⟨hnn, hb, rate₂, hi₂, hlw, hhg⟩ := hs'
  by_cases hem : cn.participantCount = 0 ∨ ts.participantCount = 0
  · simp only [performStatisticalTest, if_pos hem]
  · have hps : 0 < cn.participantCount := lt_of_le_of_ne (hn.trans hbn) fun h => hem (.inl h.symm)
    have hp : 0 < ts.participantCount := lt_of_le_of_ne (hnn.trans hb) fun h => hem (.inr h.symm)
    have ht : 0 < cn.participantCount + ts.participantCount := by linarith
    have pooled_nonneg : 0 ≤ (cn.conversionCount + ts.conversionCount) /
        (cn.participantCount + ts.participantCount) :=
      div_nonneg (by linarith) ht.le
    have pooled_le : (cn.conversionCount + ts.conversionCount) /
        (cn.participantCount + ts.participantCount) ≤ 1 :=
      (div_le_one ht).mpr (by linarith)
    have hs := spread_nonneg pooled_nonneg pooled_le
    have he : 0 ≤ 1 / cn.participantCount + 1 / ts.participantCount := by positivity
    have hi := add_nonneg (div_nonneg (spread_nonneg hlw hhg) hp.le)
      (div_nonneg (spread_nonneg hl hh) hps.le)
    simp only [performStatisticalTest, if_neg hem, his, hi₂,
      div_finite _ ht.ne', mul, sub, neg, add, div_finite _ hps.ne', div_finite _ hp.ne',
      ha _ hs, ha _ (mul_nonneg hs he), ha _ hi, getInverseNormalCDF]

/-- Neither `updateExperiment` nor `startExperiment` is called on the experiment, and no new
experiment takes its id. -/
def LeavesAlone (experimentId : String) : Call → Prop
  | .createExperiment id _ => id ≠ experimentId
  | .updateExperiment id _ => id ≠ experimentId
  | .startExperiment id => id ≠ experimentId
  | _ => True

lemma get?_put_other (svc : Service) (hne : id ≠ xid)
    (e : Experiment) : (svc.put id e).experiments.get? xid = svc.experiments.get? xid := by
  rw [put, get?_set, if_neg hne]

lemma stopped_track {results : ExperimentResults} (hf : state.service.experiments.get? xid = some e)
    (stopped : e.status = .stopped) (hst : e.results = some results)
    (hc : calculateExperimentResults env e = .ok results)
    (hca : Careful state c) (ha : LeavesAlone xid c) (htr : track env state c = some t) :
    t.service.experiments.get? xid = some e := by
  obtain ⟨svc, hs, rfl⟩ := map_eq_some_iff.mp htr
  cases effect_of_step hs with
  | unchanged => exact hf
  | created hsm => exact (get?_set _ _ _ _).trans ((if_neg ha).trans hf)
  | updated _ _ _ | started _ _ _ => exact (get?_put_other _ ha _).trans hf
  | @stopped id p' r' hp hag =>
    by_cases hsm : id = xid
    · subst hsm
      rw [hf] at hp
      cases hp
      have unchanged : r' = results := by
        have he : calculateExperimentResults env { e with status := .stopped } =
            calculateExperimentResults env e := rfl
        rw [he, hc] at hag
        exact (Except.ok.inj hag).symm
      rw [unchanged, ← hst, ← stopped]
      exact (get?_set _ _ _ _).trans (if_pos rfl)
    · exact (get?_put_other _ hsm _).trans hf
  | @halted id p' m hp hfl =>
    by_cases hsm : id = xid
    · subst hsm
      rw [hf] at hp
      cases hp
      have he : calculateExperimentResults env { e with status := .stopped } =
          calculateExperimentResults env e := rfl
      rw [he, hc] at hfl
      cases hfl
    · exact (get?_put_other _ hsm _).trans hf
  | @joined u id variantId context draws p' hde =>
    obtain ⟨hp, hr, -, -⟩ := decideAssignment_new hde
    have hne : id ≠ xid := by
      rintro rfl
      rw [hf] at hp
      cases hp
      rw [stopped] at hr
      cases hr
    exact (get?_set _ _ _ _).trans ((if_neg hne).trans hf)
  | @converted id u ty v p' a hp has =>
    have hne : id ≠ xid := by
      rintro rfl
      rw [hf] at hp
      cases hp
      exact (hca e hf (any_of_find has)).1 stopped
    exact (get?_set _ _ _ _).trans ((if_neg hne).trans hf)

/-- In every run of careful calls, the metrics of every variant are fit for the test, and an
experiment that has been stopped keeps its metrics and its results. -/
theorem sane_and_stopped (env : Environment) {calls : List Call} {state : Tracked}
    (run : Run (track env) Careful start calls state) :
    (∀ experimentId experiment, state.service.experiments.get? experimentId = some experiment →
      (∀ variant ∈ experiment.variants,
        variant.metrics.conversionCount ≤ variant.metrics.participantCount) ∧
      ∀ control ∈ experiment.variants, ∀ test ∈ experiment.variants,
        ∀ sqrt, (∀ q : Rat, 0 ≤ q → sqrt (.finite q) = env.sqrt (.finite q)) →
          performStatisticalTest { env with sqrt := sqrt } control.metrics test.metrics
              experiment.statisticalConfig =
            performStatisticalTest env control.metrics test.metrics experiment.statisticalConfig) ∧
    ∀ experimentId after, (stopExperiment env state.service experimentId).1 = .ok () →
      track env state (.stopExperiment experimentId) = some after →
      ∃ experiment results, after.service.experiments.get? experimentId = some experiment ∧
        experiment.results = some results ∧
        ∀ rest later, Run (track env)
            (fun state call => Careful state call ∧ LeavesAlone experimentId call)
            after rest later →
          later.service.experiments.get? experimentId = some experiment ∧
            calculateExperimentResults env experiment = .ok results := by
  have ha := run.invariant Accounted (fun _ _ _ ha hcr ht => accounted_track ha hcr ht)
    accounted_start
  constructor
  · intro experimentId experiment hf
    have hb := ha.bounded experimentId experiment hf
    refine ⟨fun variant mem => (hb.sane variant mem).bounded, ?_⟩
    intro control hcn test hts sqrt hag
    exact performStatisticalTest_congr (hb.sane control hcn) (hb.sane test hts) _ hag
  · intro experimentId after hcm ht
    obtain ⟨s, hs, rfl⟩ := map_eq_some_iff.mp ht
    obtain ⟨experiment, results, -, hcd, r⟩ := stopExperiment_ok hcm
    have he : ∃ exp : Experiment, s.experiments.get? experimentId = some exp ∧
        exp.status = .stopped ∧ exp.results = some results ∧
        calculateExperimentResults env exp = .ok results := by
      cases hs
      refine ⟨{ experiment with status := .stopped, results := some results }, ?_, rfl, rfl, hcd⟩
      rw [r, put, get?_set, if_pos rfl]
    obtain ⟨exp, hf, hst, st, hr⟩ := he
    refine ⟨exp, results, hf, st, fun rest later hc => ⟨?_, hr⟩⟩
    exact hc.invariant (fun state => state.service.experiments.get? experimentId = some exp)
      (fun _ _ _ hf ok ht => stopped_track hf hst st hr ok.1 ok.2 ht) hf

instance (state : Tracked) (call : Call) : Decidable (Careful state call) := by
  induction call using Call.casesOn <;> dsimp only [Careful] <;> infer_instance

open ABTestingMetrics (plainEnvironment plainExperiment join)

/-- Participants and conversions of the variants of an experiment. -/
def countsOf (service : Service) (experimentId : String) : Option (List (Rat × Rat)) :=
  (service.experiments.get? experimentId).map fun experiment =>
    experiment.variants.map fun variant =>
      (variant.metrics.participantCount, variant.metrics.conversionCount)

/-- Two users join, one of them converts. -/
def oneConversion : List Call :=
  [.createExperiment "e1" plainExperiment, .startExperiment "e1", join "u1", join "u2",
    .recordConversion "e1" "u1" "primary_metric" 1]

theorem oneConversion_is_sane : ∃ state,
    Run (track plainEnvironment) Careful start oneConversion state ∧
    countsOf state.service "e1" = some [(2, 1), (0, 0)] ∧
    ∀ experiment, state.service.experiments.get? "e1" = some experiment →
      ∀ variant ∈ experiment.variants,
        variant.metrics.conversionCount ≤ variant.metrics.participantCount :=
  exists_run (by decide +kernel) fun _ run _ experiment found =>
    ((sane_and_stopped plainEnvironment run).1 "e1" experiment found).1

/-- One user joins and converts. -/
def lateConversion : List Call :=
  [.createExperiment "e1" plainExperiment, .startExperiment "e1", join "u1",
    .recordConversion "e1" "u1" "primary_metric" 1]

/-- The same user converts again after the experiment was stopped. This changes its metrics, and
the variant has two conversions of one participant. -/
theorem lateConversion_changes_stopped_metrics : ∃ state stopped later,
    Run (track plainEnvironment) Always start lateConversion state ∧
    (stopExperiment plainEnvironment state.service "e1").1 = .ok () ∧
    track plainEnvironment state (.stopExperiment "e1") = some stopped ∧
    countsOf stopped.service "e1" = some [(1, 1), (0, 0)] ∧
    track plainEnvironment stopped (.recordConversion "e1" "u1" "primary_metric" 1) = some later ∧
    countsOf later.service "e1" = some [(1, 2), (0, 0)] := by
  exact ⟨_, _, _, run_of_exec rfl, by decide +kernel, rfl, by decide +kernel, rfl,
    by decide +kernel⟩

end ABTestingStop
