import Mathlib.Tactic
import Optimizely.EditDistance
import Optimizely.StringSimilarity

/-!
# The matrix computes the edit distance

The cells of a row are the distances of the starts of the first string from a start of the second.
The distance recurs on first elements, so it is used on reversed starts.
-/

namespace StringSimilarity

open EditDistance Utf16 List

/-- The distance of two starts. -/
def cell (p q : Text) : Nat := distance p.reverse q.reverse

/-- The cells of the row of `q` from the start `p` on, `str1` being what follows it. -/
def cellsFrom (q p : Text) : Text → List Nat
  | [] => [cell p q]
  | unit1 :: str1 => cell p q :: cellsFrom q (p ++ [unit1]) str1

lemma cell_snoc (p q : Text) (a b : CodeUnit) : cell (p ++ [a]) (q ++ [b]) =
    min (min (cell p (q ++ [b]) + 1) (cell (p ++ [a]) q + 1))
      (cell p q + if a = b then 0 else 1) := by
  simp only [cell, reverse_append, reverse_cons, reverse_nil, nil_append, cons_append,
    distance_cons_cons]

lemma cellsFrom_eq_cons (q p s : Text) : ∃ rest, cellsFrom q p s = cell p q :: rest := by
  cases s <;> exact ⟨_, rfl⟩

lemma matrixCells_cellsFrom (q p str1 : Text) (b : CodeUnit) :
    cell p (q ++ [b]) :: matrixCells b str1 (cellsFrom q p str1) (cell p (q ++ [b])) =
      cellsFrom (q ++ [b]) p str1 := by
  induction str1 generalizing p with
  | nil => rfl
  | cons a str1 ih =>
    obtain ⟨rest, hr⟩ := cellsFrom_eq_cons q (p ++ [a]) str1
    rw [cellsFrom, cellsFrom, hr, matrixCells, ← ih (p ++ [a]), ← cell_snoc, hr]

lemma matrixRows_cellsFrom (str1 s q : Text) :
    matrixRows str1 s (q.length + 1) (cellsFrom q [] str1) = cellsFrom (q ++ s) [] str1 := by
  induction s generalizing q with
  | nil => simp [matrixRows]
  | cons b s ih =>
    have hr := matrixCells_cellsFrom q [] str1 b
    have hf : cell [] (q ++ [b]) = q.length + 1 := by simp [cell]
    rw [hf] at hr
    have hl : (q ++ [b]).length = q.length + 1 := by simp
    rw [matrixRows, matrixRow, hr, ← hl, ih, append_assoc]
    rfl

lemma range_eq_cellsFrom (p str1 : Text) :
    range' p.length (str1.length + 1) = cellsFrom [] p str1 := by
  induction str1 generalizing p with
  | nil => simp [cellsFrom, cell]
  | cons a str1 ih =>
    have hl : (p ++ [a]).length = p.length + 1 := by simp
    rw [cellsFrom, ← ih, hl, length_cons, range'_succ]
    simp [cell]

lemma getD_cellsFrom (q p s : Text) : (cellsFrom q p s).getD s.length 0 = cell (p ++ s) q := by
  induction s generalizing p with
  | nil => simp [cellsFrom]
  | cons a s ih => simpa [cellsFrom] using ih (p ++ [a])

section

variable (s t : Text)

lemma levenshteinDistance_eq : levenshteinDistance s t = distance s.reverse t.reverse := by
  have hr := matrixRows_cellsFrom s t []
  rw [← range_eq_cellsFrom [] s] at hr
  rw [levenshteinDistance, range_eq_range']
  exact (congrArg (·.getD s.length 0) hr).trans (getD_cellsFrom t [] s)

lemma isLeast_levenshteinDistance : IsLeast {n | Edits n s t} (levenshteinDistance s t) := by
  have h := isLeast_distance s.reverse t.reverse
  simpa only [levenshteinDistance_eq, edits_reverse_iff] using h

lemma levenshteinDistance_comm : levenshteinDistance s t = levenshteinDistance t s := by
  have hs := isLeast_levenshteinDistance s t
  have ht := isLeast_levenshteinDistance t s
  exact Nat.le_antisymm (hs.2 ht.1.symm) (ht.2 hs.1.symm)

lemma levenshteinDistance_eq_zero : levenshteinDistance s t = 0 ↔ s = t := by
  constructor
  · intro h
    have he := (isLeast_levenshteinDistance s t).1
    rw [h] at he
    cases he
    rfl
  · rintro rfl
    exact Nat.le_zero.mp ((isLeast_levenshteinDistance s s).2 (.refl s))

lemma levenshteinDistance_le_max : levenshteinDistance s t ≤ max s.length t.length := by
  have h := distance_le_max s.reverse t.reverse
  rwa [length_reverse, length_reverse, ← levenshteinDistance_eq] at h

lemma levenshteinSimilarity_comm : levenshteinSimilarity s t = levenshteinSimilarity t s := by
  rw [levenshteinSimilarity, levenshteinSimilarity, max_comm, levenshteinDistance_comm]

lemma levenshteinSimilarity_bounds : 0 ≤ levenshteinSimilarity s t ∧ levenshteinSimilarity s t ≤ 1 ∧
      (levenshteinSimilarity s t = 1 ↔ s = t) := by
  have hle := levenshteinDistance_le_max s t
  rw [← levenshteinDistance_eq_zero, levenshteinSimilarity]
  by_cases hempty : max s.length t.length = 0
  · have hzero : levenshteinDistance s t = 0 := by omega
    simp [hempty, hzero]
  · have hpos : (0 : Rat) < (max s.length t.length : Nat) :=
      Nat.cast_pos.mpr (Nat.pos_of_ne_zero hempty)
    have hq : (levenshteinDistance s t : Rat) ≤ (max s.length t.length : Nat) := Nat.cast_le.mpr hle
    have hn : (0 : Rat) ≤ levenshteinDistance s t := Nat.cast_nonneg _
    rw [if_neg hempty]
    refine ⟨div_nonneg (by linarith) hpos.le, (div_le_one hpos).mpr (by linarith), ?_⟩
    rw [div_eq_one_iff_eq hpos.ne', sub_eq_self, Nat.cast_eq_zero]

end

/-- The distance is the least number of edits, so it is a metric; the similarity is normed. -/
theorem levenshteinDistance_is_metric (s t u : Text) :
    IsLeast {n | Edits n s t} (levenshteinDistance s t) ∧
      levenshteinDistance s t = levenshteinDistance t s ∧
      (levenshteinDistance s t = 0 ↔ s = t) ∧
      levenshteinDistance s u ≤ levenshteinDistance s t + levenshteinDistance t u ∧
      0 ≤ levenshteinSimilarity s t ∧ levenshteinSimilarity s t ≤ 1 ∧
      (levenshteinSimilarity s t = 1 ↔ s = t) := by
  have hst := isLeast_levenshteinDistance s t
  have htu := isLeast_levenshteinDistance t u
  refine ⟨hst, levenshteinDistance_comm s t, levenshteinDistance_eq_zero s t, ?_,
    levenshteinSimilarity_bounds s t⟩
  exact (isLeast_levenshteinDistance s u).2 (hst.1.trans htu.1)

end StringSimilarity
