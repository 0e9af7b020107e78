import Mathlib.Tactic
import Optimizely.JaroSimilarity
import Optimizely.LevenshteinDistance

/-!
# Laws of the field similarities

Every algorithm is symmetric and stays between 0 and 1. A value is not always similar to itself: an
email needs a domain, and frequencies count code points but are divided by code units.
-/

namespace StringSimilarity

open Utf16 List OrderedMap

/-- Symmetric, and between 0 and 1. -/
def Lawful (f : Text → Text → Option Rat) : Prop :=
  ∀ s t, ∃ x, f s t = some x ∧ f t s = some x ∧ 0 ≤ x ∧ x ≤ 1

lemma lawful_some {f : Text → Text → Rat} (symm : ∀ s t, f s t = f t s)
    (h : ∀ s t, 0 ≤ f s t ∧ f s t ≤ 1) : Lawful fun s t => some (f s t) :=
  fun s t => ⟨f s t, rfl, congrArg some (symm t s), h s t⟩

lemma lawful_ite {p : Text → Text → Prop} [∀ s t, Decidable (p s t)]
    (symm : ∀ s t, p s t ↔ p t s) : Lawful fun s t => some (if p s t then 1 else 0) := by
  refine lawful_some (fun s t => by simp [symm s t]) fun s t => ?_
  split <;> norm_num

lemma lawful_levenshtein : Lawful fun s t => some (levenshteinSimilarity s t) :=
  lawful_some levenshteinSimilarity_comm fun s t =>
    ⟨(levenshteinSimilarity_bounds s t).1, (levenshteinSimilarity_bounds s t).2.1⟩

lemma commonStart_comm (bn : Nat) (s t : Text) : commonStart bn s t = commonStart bn t s := by
  induction bn generalizing s t with
  | zero => rfl
  | succ bn ih =>
    cases s with
    | nil => cases t <;> rfl
    | cons a s =>
      cases t with
      | nil => rfl
      | cons b t => simp only [commonStart, ih s t, eq_comm]

lemma lawful_jaroWinkler : Lawful jaroWinklerSimilarity := by
  intro s t
  obtain ⟨x, hx, hl, hu, -⟩ := jaroSimilarity_bounds s t
  obtain ⟨y, hy, hxy, hy1⟩ := jaroWinkler_bounds hx hu
  refine ⟨y, hy, ?_, hl.trans hxy, hy1⟩
  rw [← hy, jaroWinklerSimilarity, jaroSimilarity_swap, jaroWinklerSimilarity, commonStart_comm]

lemma getD_getCharFrequency (s char : Text) :
    ((getCharFrequency s).get? char).getD 0 = (codePoints s).count char := by
  rw [getCharFrequency]
  induction codePoints s using reverseRecOn with
  | nil => rfl
  | append_singleton chars l ih =>
    rw [foldl_concat, addTo, OrderedMap.get?_set, count_append, count_singleton]
    by_cases heq : l = char <;> simp [heq, ih]

lemma mem_keys_getCharFrequency {s char : Text} (h : char ∈ codePoints s) :
    char ∈ (getCharFrequency s).keys := by
  by_contra absent
  have hn := lookup_of_not_mem absent
  have hc := getD_getCharFrequency s char
  rw [get?, hn] at hc
  exact (count_pos_iff.mpr h).ne hc

lemma sum_map_count {α : Type*} [BEq α] [LawfulBEq α] [DecidableEq α] {ks : List α}
    (hds : ks.Nodup) (l : List α) : (ks.map (l.count ·)).sum = l.countP (· ∈ ks) := by
  induction l with
  | nil => simp
  | cons a l ih =>
    have hc : (ks.map fun k => if a = k then 1 else 0).sum = if a ∈ ks then 1 else 0 := by
      simp [← sum_toFinset _ hds]
    simp [count_cons, sum_map_add, ih, countP_cons, hc]

lemma length_codePoints_le (s : Text) : (codePoints s).length ≤ s.length := by
  fun_induction codePoints s with
  | case1 | case2 => simp
  | case3 u v r _ ih =>
    simp only [length_cons]
    omega
  | case4 u v r _ ih =>
    simp only [length_cons] at ih ⊢
    omega

/-- The sum that `fuzzyMatch` divides. -/
def shared (s t : Text) : Nat :=
  (((getCharFrequency s).keys ++ (getCharFrequency t).keys).dedup.map fun char =>
    min ((codePoints s).count char) ((codePoints t).count char)).sum

lemma fuzzyMatch_eq (s t : Text) : fuzzyMatch s t = if 0 < max s.length t.length then
    (shared s t : Rat) / (max s.length t.length : Nat) else 0 := by
  simp only [fuzzyMatch, shared, getD_getCharFrequency]

lemma shared_comm (s t : Text) : shared s t = shared t s := by
  have hp : ((getCharFrequency s).keys ++ (getCharFrequency t).keys).Perm
    ((getCharFrequency t).keys ++ (getCharFrequency s).keys) := perm_append_comm
  rw [shared, (hp.dedup.map _).sum_eq, shared]
  simp only [min_comm]

lemma shared_le (s t : Text) : shared s t ≤ s.length := by
  refine le_trans (sum_le_sum fun _ _ => min_le_left _ _) ?_
  rw [sum_map_count (nodup_dedup _)]
  exact countP_le_length.trans (length_codePoints_le s)

lemma shared_self (s : Text) : shared s s = (codePoints s).length := by
  have all : ∀ char ∈ codePoints s,
      char ∈ ((getCharFrequency s).keys ++ (getCharFrequency s).keys).dedup := by
    intro char h
    simp [mem_keys_getCharFrequency h]
  simp only [shared, min_self]
  rw [sum_map_count (nodup_dedup _), countP_eq_length]
  simpa using all

lemma lawful_fuzzy : Lawful fun s t => some (fuzzyMatch s t) := by
  refine lawful_some (fun s t => ?_) fun s t => ?_
  · rw [fuzzyMatch_eq, fuzzyMatch_eq, shared_comm, max_comm]
  · rw [fuzzyMatch_eq]
    split
    · rename_i hp
      have hq : (0 : Rat) < (max s.length t.length : Nat) := Nat.cast_pos.mpr hp
      have hle : (shared s t : Rat) ≤ (max s.length t.length : Nat) :=
        Nat.cast_le.mpr ((shared_le s t).trans (le_max_left _ _))
      exact ⟨div_nonneg (Nat.cast_nonneg _) hq.le, (div_le_one hq).mpr hle⟩
    · norm_num

lemma fuzzyMatch_self (s : Text) :
    fuzzyMatch s s = 1 ↔ s ≠ [] ∧ (codePoints s).length = s.length := by
  rw [fuzzyMatch_eq, max_self, shared_self]
  by_cases he : s = []
  · simp [he]
  · have hp := length_pos_iff.mpr he
    have hq : (s.length : Rat) ≠ 0 := Nat.cast_ne_zero.mpr hp.ne'
    rw [if_pos hp, div_eq_one_iff_eq hq, Nat.cast_inj]
    exact (and_iff_right he).symm

lemma lawful_email (c : CaseMapping) : Lawful fun s t => some (emailSimilarity c s t) := by
  refine lawful_some (fun s t => ?_) fun s t => ?_
  · simp only [emailSimilarity, levenshteinSimilarity_comm, or_comm, ne_comm]
  · simp only [emailSimilarity]
    split
    · norm_num
    · split
      · norm_num
      · have h := levenshteinSimilarity_bounds (c.toLowerCase (splitEmail s).1)
          (c.toLowerCase (splitEmail t).1)
        exact ⟨h.1, h.2.1⟩

lemma phoneSimilarity_comm (s t : Text) : phoneSimilarity s t = phoneSimilarity t s := by
  simp only [phoneSimilarity, levenshteinSimilarity_comm (s.filter isDigit), @eq_comm Text]
  rcases Nat.lt_trichotomy (s.filter isDigit).length (t.filter isDigit).length with h | h | h
  · simp [h, h.ne, h.ne', Nat.lt_asymm h]
  · simp [h]
  · simp [h, h.ne, h.ne', Nat.lt_asymm h]

lemma lawful_phone : Lawful fun s t => some (phoneSimilarity s t) := by
  refine lawful_some phoneSimilarity_comm fun s t => ?_
  have h := levenshteinSimilarity_bounds (s.filter isDigit) (t.filter isDigit)
  simp only [phoneSimilarity]
  split_ifs <;> constructor <;> linarith [h.1, h.2.1]

/-- When an algorithm finds a text similar to itself. -/
def SelfSimilar (algorithm : String) (text : Text) : Prop :=
  (algorithm = "fuzzy" → text ≠ [] ∧ (codePoints text).length = text.length) ∧
    (algorithm = "email" → (splitEmail text).2 ≠ [])

lemma lawful_applyAlgorithm (c : CaseMapping) (a : String) : Lawful (applyAlgorithm c a) := by
  unfold applyAlgorithm
  split
  · exact lawful_ite fun s t => eq_comm
  · exact lawful_levenshtein
  · exact lawful_jaroWinkler
  · exact lawful_ite fun s t => by simp [soundexMatch, eq_comm]
  · exact lawful_fuzzy
  · exact lawful_email c
  · exact lawful_phone
  · exact lawful_levenshtein

lemma applyAlgorithm_self (c : CaseMapping) (alg : String) (s : Text) :
    applyAlgorithm c alg s s = some 1 ↔ SelfSimilar alg s := by
  have hl : ∀ u, levenshteinSimilarity u u = 1 :=
    fun u => (levenshteinSimilarity_bounds u u).2.2.mpr rfl
  unfold applyAlgorithm
  split
  case h_3 =>
    obtain ⟨x, hx, -, hu, one⟩ := jaroSimilarity_bounds s s
    obtain ⟨y, hy, hxy, hy1⟩ := jaroWinkler_bounds hx hu
    have hy' : y = 1 := le_antisymm hy1 (one.mpr rfl ▸ hxy)
    simp [SelfSimilar, hy, hy']
  case h_5 => simp [SelfSimilar, fuzzyMatch_self]
  case h_6 =>
    by_cases hdm : (splitEmail s).2 = [] <;> simp [SelfSimilar, emailSimilarity, hdm, hl]
  all_goals simp_all [SelfSimilar, soundexMatch, phoneSimilarity]

/-- The similarity of fields is symmetric and between 0 and 1 for every algorithm, and 1 for a value
and itself exactly where the algorithm can see it. -/
theorem calculateFieldSimilarity_laws (casing : CaseMapping) (v w : Value) (algorithm : String)
    (config : FieldMatchingConfig) :
    (∃ x, calculateFieldSimilarity casing v w algorithm config = some x ∧
      calculateFieldSimilarity casing w v algorithm config = some x ∧ 0 ≤ x ∧ x ≤ 1) ∧
    (calculateFieldSimilarity casing v v algorithm config = some 1 ↔
      SelfSimilar algorithm (comparedText casing config v)) :=
  ⟨lawful_applyAlgorithm casing algorithm _ _, applyAlgorithm_self casing algorithm _⟩

/-- Neither a text without a domain nor a character of two code units is similar to itself. -/
theorem sameText_not_similar :
    let config : FieldMatchingConfig := ⟨"name", .string, 1, [], false, true, false, 0⟩
    let similarity (text : String) := calculateFieldSimilarity asciiCaseMapping
      (.string (ofString text)) (.string (ofString text))
    similarity "ada" "email" config = some 0 ∧ similarity "😀" "fuzzy" config = some (1 / 2) := by
  decide +kernel

end StringSimilarity
