import Mathlib.Algebra.Order.BigOperators.Group.List
import Optimizely.ABTestingMetrics
import Optimizely.UniversalABTesting

/-!
# Traffic allocation

Both services add up the allocations until the sum passes a point, and return the variant where it
does. Integers that sum to 100 cut the residues of a hash exactly; a sum slightly below leaves
points that only the fallback takes.
-/

namespace TrafficAllocation

open List

section

variable {V : Type} (allocation : V → Rat) (passes : Rat → Bool)

/-- The first variant at which the sum of the allocations passes. -/
def scan : Rat → List V → Option V
  | _, [] => none
  | sum, v :: vs => if passes (sum + allocation v) then some v else scan (sum + allocation v) vs

variable {allocation passes} {vs : List V}

lemma of_scan {c : Rat} {v : V} (h : scan allocation passes c vs = some v)
    (s : ¬ passes c) : v ∈ vs ∧ allocation v ≠ 0 := by
  induction vs generalizing c with
  | nil => cases h
  | cons w vs ih =>
    rw [scan] at h
    split at h
    · rename_i hp
      cases h
      refine ⟨mem_cons_self, fun hz => ?_⟩
      rw [hz, add_zero] at hp
      exact s hp
    · rename_i hs
      obtain ⟨mem, hne⟩ := ih h hs
      exact ⟨mem_cons_of_mem _ mem, hne⟩

lemma scan_eq_none_iff {c : Rat} (hu : ∀ x y, x ≤ y → passes x → passes y)
    (hn : ∀ v ∈ vs, 0 ≤ allocation v) (s : ¬ passes c) :
    scan allocation passes c vs = none ↔ ¬ passes (c + (vs.map allocation).sum) := by
  induction vs generalizing c with
  | nil => simpa [scan] using s
  | cons w vs ih =>
    rw [forall_mem_cons] at hn
    rw [scan, map_cons, sum_cons, ← add_assoc]
    split
    · rename_i hp
      have hr : 0 ≤ (vs.map allocation).sum := sum_nonneg (by simpa using hn.2)
      simp [hu _ _ (le_add_of_nonneg_right hr) hp]
    · rename_i hs
      exact ih hn.2 hs

/-- The id belongs to a variant that has traffic. -/
def Serves (id : V → String) (allocation : V → Rat) (vs : List V) (i : String) : Prop :=
  ∃ v ∈ vs, id v = i ∧ allocation v ≠ 0

/-- Either the whole sum passes, or it is up to the fallback. -/
lemma serves_iff_passes {id : V → String} (hu : ∀ x y, x ≤ y → passes x → passes y)
    (hn : ∀ v ∈ vs, 0 ≤ allocation v) (s : ¬ passes 0) (f : Option V) :
    (∀ i ∈ ((scan allocation passes 0 vs).or f).map id, Serves id allocation vs i) ↔
      passes (vs.map allocation).sum ∨ ∀ v ∈ f, Serves id allocation vs (id v) := by
  have none_iff := scan_eq_none_iff hu hn s
  rw [zero_add] at none_iff
  cases h : scan allocation passes 0 vs with
  | none => simp [none_iff.mp h]
  | some v =>
    obtain ⟨mem, hne⟩ := of_scan h s
    have hp : passes (vs.map allocation).sum := by
      by_contra short
      cases h.symm.trans (none_iff.mpr short)
    simp only [hp, true_or, iff_true]
    rintro _ ⟨⟩
    exact ⟨v, mem, rfl, hne⟩

/-- Of the numbers below the sum of integer allocations, each variant gets as many as it has, one
after the other. -/
lemma scan_residues {p : Nat → Rat → Bool} (below : ∀ r n : Nat, p r n ↔ r < n)
    {ns : List Nat} (h : vs.map allocation = ns.map (↑)) (c : Nat) :
    (range' c ns.sum).map (fun r => scan allocation (p r) c vs) =
      (vs.zip ns).flatMap fun p => replicate p.2 (some p.1) := by
  induction vs generalizing ns c with
  | nil =>
    obtain rfl : ns = [] := by simpa using h.symm
    rfl
  | cons v vs ih =>
    cases ns with
    | nil => cases h
    | cons n ns =>
      obtain ⟨hv, hvs⟩ := cons.inj h
      have he : ∀ r, scan allocation (p r) c (v :: vs) =
          if r < c + n then some v else scan allocation (p r) (c + n : Nat) vs := by
        intro r
        simp only [scan, hv, ← Nat.cast_add, below]
      rw [sum_cons, ← range'_append_1, map_append, zip_cons_cons, flatMap_cons, ← ih hvs]
      congr 1
      · rw [eq_replicate_iff]
        refine ⟨by simp, ?_⟩
        simp only [mem_map, mem_range'_1]
        rintro _ ⟨r, hr, rfl⟩
        rw [he, if_pos hr.2]
      · apply map_congr_left
        intro r hr
        rw [he, if_neg (Nat.not_lt.mpr (mem_range'_1.mp hr).1)]

lemma found_of_residues {f : Nat → Option V} {ns : List Nat} {r : Nat} (h : (range 100).map f =
      (vs.zip ns).flatMap fun p => replicate p.2 (some p.1)) (below : r < 100) :
    ∃ v, f r = some v := by
  have mem : f r ∈ (range 100).map f := mem_map_of_mem (mem_range.mpr below)
  rw [h] at mem
  obtain ⟨p, -, hp⟩ := mem_flatMap.mp mem
  exact ⟨p.1, eq_of_mem_replicate hp⟩

end

open ABTesting (Experiment Draw pickVariant variantAt hashBasedAssignment weightedAssignment
  validateExperiment)
open UniversalABTesting (ExperimentVariant reached assignVariant validate)

def bucket (e : Experiment) (userId : String) : Nat :=
  ABTesting.simpleHash (Utf16.ofString userId ++ Utf16.ofString e.id) % 100

def percentage (seed : String) : Nat :=
  UniversalABTesting.hashString (Utf16.ofString seed) % 100 + 1

lemma pickVariant_eq_scan (p c : Rat) (vs : List ABTesting.ExperimentVariant) :
    pickVariant p c vs = scan (·.allocation) (p < ·) c vs := by
  induction vs generalizing c with
  | nil => rfl
  | cons v vs ih => simp only [pickVariant, scan, ih, decide_eq_true_eq]

lemma reached_eq_scan (n : Nat) (c : Rat) (vs : List ExperimentVariant) :
    reached n c vs = scan (·.trafficAllocation) (n ≤ ·) c vs := by
  induction vs generalizing c with
  | nil => rfl
  | cons v vs ih => simp only [reached, scan, ih, decide_eq_true_eq]

lemma variantAt_eq (e : Experiment) (p : Rat) : variantAt e p =
    ((pickVariant p 0 e.variants).or e.variants.head?).map (·.id) := by
  rw [variantAt]
  split <;> rename_i h <;> simp [h]

/-- The control, unless its id is empty. -/
def fallback (vs : List ExperimentVariant) : Option ExperimentVariant :=
  ((vs.find? (·.isControl)).filter (·.id ≠ "")).or vs.head?

lemma assignVariant_eq (vs : List ExperimentVariant) (s : String) : assignVariant vs s =
    ((reached (percentage s) 0 vs).or (fallback vs)).map (·.id) := by
  rw [assignVariant, percentage]
  split <;> rename_i h
  · simp [h]
  · rw [h, Option.none_or, fallback]
    cases vs.find? (·.isControl) with
    | none => rfl
    | some c =>
      by_cases he : c.id = "" <;> simp [truthyText, Option.filter, he]

variable {env : ABTesting.Environment} {e : Experiment} {vs : List ExperimentVariant}

lemma total_of_validateExperiment (hv : validateExperiment env e = .ok ()) :
    |(e.variants.map (·.allocation)).sum - 100| ≤ 1 / 100 := by
  by_contra h
  simp only [validateExperiment, if_pos (not_le.mp h), reduceCtorEq] at hv

lemma total_of_validate (hv : validate vs = .ok ()) :
    |(vs.map (·.trafficAllocation)).sum - 100| ≤ 1 / 100 := by
  by_contra h
  simp only [validate, if_pos (not_le.mp h), reduceCtorEq] at hv

lemma sum_eq_hundred {ns : List Nat} (h : |(ns.map (fun n : Nat => (n : Rat))).sum - 100| ≤
    1 / 100) : ns.sum = 100 := by
  rw [show (ns.map (fun n : Nat => (n : Rat))).sum = ns.sum from
    (map_list_sum (Nat.castRingHom ℚ) ns).symm, abs_le] at h
  have below : (ns.sum : Rat) < 101 := by linarith
  have ha : (99 : Rat) < ns.sum := by linarith
  norm_cast at below ha
  omega

/-- Each variant gets its allocation of the residues, in the order of the list, and what is
returned is what the scan finds. -/
theorem residues_of_valid (valid : validateExperiment env e = .ok ())
    (valid' : validate vs = .ok ())
    {ns ms : List Nat} (hn : e.variants.map (·.allocation) = ns.map (↑))
    (hm : vs.map (·.trafficAllocation) = ms.map (↑)) :
    ((range 100).map (fun r => pickVariant r 0 e.variants) =
        (e.variants.zip ns).flatMap (fun p => replicate p.2 (some p.1)) ∧
      ∀ userId, ∃ v, pickVariant (bucket e userId) 0 e.variants = some v ∧
        hashBasedAssignment e userId = some v.id) ∧
    (range 100).map (fun r => reached (r + 1) 0 vs) =
        (vs.zip ms).flatMap (fun p => replicate p.2 (some p.1)) ∧
      ∀ seed, ∃ v, reached (percentage seed) 0 vs = some v ∧ assignVariant vs seed = some v.id := by
  have ht := scan_residues (p := fun r x => (r : Rat) < x) (by simp) hn 0
  have ht' := scan_residues (p := fun r x => ((r + 1 : Nat) : Rat) ≤ x)
    (by simp only [decide_eq_true_eq, Nat.cast_le, Nat.succ_le_iff, implies_true]) hm 0
  rw [sum_eq_hundred (hn ▸ total_of_validateExperiment valid), ← range_eq_range'] at ht
  rw [sum_eq_hundred (hm ▸ total_of_validate valid'), ← range_eq_range'] at ht'
  simp only [Nat.cast_zero, ← pickVariant_eq_scan] at ht
  simp only [Nat.cast_zero, ← reached_eq_scan] at ht'
  refine ⟨⟨ht, fun userId => ?_⟩, ht', fun seed => ?_⟩
  · obtain ⟨v, hf⟩ := found_of_residues ht (Nat.mod_lt _ (by decide))
    refine ⟨v, hf, ?_⟩
    rw [hashBasedAssignment, variantAt_eq, hf]
    rfl
  · obtain ⟨v, hf⟩ := found_of_residues ht' (Nat.mod_lt _ (by decide))
    refine ⟨v, hf, ?_⟩
    rw [assignVariant_eq, percentage, hf]
    rfl

open ABTestingMetrics (plainEnvironment plainExperiment plainVariant)

theorem residues_of_halves : (range 100).map (fun r => reached (r + 1) 0
    [⟨"control", "", 50, true⟩, ⟨"treatment", "", 50, false⟩]) =
      replicate 50 (some ⟨"control", "", 50, true⟩) ++
        replicate 50 (some ⟨"treatment", "", 50, false⟩) :=
  (@residues_of_valid plainEnvironment plainExperiment _ (by decide +kernel) (by decide +kernel)
    [50, 50] [50, 50] (by decide +kernel) (by decide +kernel)).2.1

/-- A variant without traffic is returned only as a fallback, by the weighted assignment for a draw
not below the sum, by the other service for a percentage above it. -/
theorem serves_iff (valid : validateExperiment env e = .ok ())
    (nonneg : ∀ v ∈ e.variants, 0 ≤ v.allocation) (nonneg' : ∀ v ∈ vs, 0 ≤ v.trafficAllocation)
    (userId seed : String) (draw : Draw) :
    (∀ i ∈ hashBasedAssignment e userId, Serves (·.id) (·.allocation) e.variants i) ∧
    ((∀ i ∈ weightedAssignment e draw, Serves (·.id) (·.allocation) e.variants i) ↔
      draw.value * 100 < (e.variants.map (·.allocation)).sum ∨
        ∀ v ∈ e.variants.head?, Serves (·.id) (·.allocation) e.variants v.id) ∧
    ((∀ i ∈ assignVariant vs seed, Serves (·.id) (·.trafficAllocation) vs i) ↔
      percentage seed ≤ (vs.map (·.trafficAllocation)).sum ∨
        ∀ v ∈ fallback vs, Serves (·.id) (·.trafficAllocation) vs v.id) := by
  have point : ∀ x : Rat, 0 ≤ x →
      ((∀ i ∈ variantAt e x, Serves (·.id) (·.allocation) e.variants i) ↔
        x < (e.variants.map (·.allocation)).sum ∨
          ∀ v ∈ e.variants.head?, Serves (·.id) (·.allocation) e.variants v.id) := by
    intro x hx
    rw [variantAt_eq, pickVariant_eq_scan, serves_iff_passes
      (by simpa using fun _ _ h => (lt_of_lt_of_le · h)) nonneg (by simpa using hx),
      decide_eq_true_eq]
  refine ⟨(point (bucket e userId) (Nat.cast_nonneg _)).mpr (.inl ?_), ?_, ?_⟩
  · have small : (bucket e userId : Rat) ≤ 99 := by
      exact_mod_cast Nat.le_of_lt_succ (Nat.mod_lt _ (by decide))
    have total := (abs_le.mp (total_of_validateExperiment valid)).1
    linarith
  · exact point _ (mul_nonneg draw.nonneg (by norm_num))
  · have positive : ¬ (percentage seed : Rat) ≤ 0 := not_le.mpr (Nat.cast_pos.mpr (Nat.succ_pos _))
    rw [assignVariant_eq, reached_eq_scan, serves_iff_passes
      (by simpa using fun _ _ h => (le_trans · h)) nonneg' (by simpa using positive),
      decide_eq_true_eq]

/-- Nobody should see the draft. -/
def withDraft : Experiment :=
  { plainExperiment with
    variants := [plainVariant "draft" false 0, plainVariant "control" true (99995 / 1000)] }

def high : Draw := ⟨99998 / 100000, by norm_num, by norm_num⟩

theorem withDraft_serves_control : hashBasedAssignment withDraft "c" = some "control" ∧
    ∀ i ∈ hashBasedAssignment withDraft "c", Serves (·.id) (·.allocation) withDraft.variants i :=
  ⟨by decide +kernel, (@serves_iff plainEnvironment withDraft [] (by decide +kernel)
    (by decide +kernel) (by decide +kernel) "c" "c" high).1⟩

theorem draft_is_returned : validateExperiment plainEnvironment withDraft = .ok () ∧
    weightedAssignment withDraft high = some "draft" ∧
    validate [⟨"on", "", 99995 / 1000, false⟩, ⟨"off", "", 0, true⟩] = .ok () ∧
    assignVariant [⟨"on", "", 99995 / 1000, false⟩, ⟨"off", "", 0, true⟩] "c" = some "off" := by
  decide +kernel

end TrafficAllocation
