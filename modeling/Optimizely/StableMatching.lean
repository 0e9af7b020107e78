import Mathlib.Data.List.Nodup

/-!
# Stable matchings of positions

Both sides of a matching prefer the smaller position. A matching of compatible positions that no
compatible pair blocks is the only one, from whichever side it is found.
-/

namespace StableMatching

structure Stable (C M : Nat → Nat → Prop) : Prop where
  compatible : ∀ {i j}, M i j → C i j
  left : ∀ {i j j'}, M i j → M i j' → j = j'
  right : ∀ {i i' j}, M i j → M i' j → i = i'
  unblocked : ∀ {i j}, C i j → (∃ j' ≤ j, M i j') ∨ ∃ i' ≤ i, M i' j

variable {C M M' : Nat → Nat → Prop}

lemma Stable.flip (h : Stable C M) : Stable (fun j i => C i j) fun j i => M i j :=
  ⟨h.compatible, h.right, h.left, fun c => (h.unblocked c).symm⟩

/-- A pair that one stable matching has is in the other, if they agree on all smaller pairs. -/
lemma Stable.mem_of_agree (h : Stable C M) (h' : Stable C M') {i j : Nat}
    (ha : ∀ k l, k + l < i + j → (M k l ↔ M' k l)) (hm : M i j) : M' i j := by
  rcases h'.unblocked (h.compatible hm) with ⟨k, hk, hm'⟩ | ⟨k, hk, hm'⟩
  · by_cases heq : k = j
    · exact heq ▸ hm'
    · exact absurd (h.left ((ha i k (by omega)).mpr hm') hm) heq
  · by_cases heq : k = i
    · exact heq ▸ hm'
    · exact absurd (h.right ((ha k j (by omega)).mpr hm') hm) heq

lemma Stable.unique (h : Stable C M) (h' : Stable C M') (i j : Nat) : M i j ↔ M' i j := by
  have hn : ∀ n i j, i + j = n → (M i j ↔ M' i j) := by
    intro n
    induction n using Nat.strongRecOn with
    | ind n ih =>
      intro i j hij
      have ha : ∀ k l, k + l < i + j → (M k l ↔ M' k l) :=
        fun k l hlt => ih (k + l) (by omega) k l rfl
      exact ⟨h.mem_of_agree h' ha, h'.mem_of_agree h fun k l hlt => (ha k l hlt).symm⟩
  exact hn (i + j) i j rfl

def flagged (n : Nat) (ks : List Nat) : List Bool := (List.range n).map (· ∈ ks)

lemma flagged_nil (n : Nat) : flagged n [] = List.replicate n false := by
  simp [flagged, List.map_const']

lemma set_flagged (n k : Nat) (ks : List Nat) :
    (flagged n ks).set k true = flagged n (k :: ks) := by
  apply List.ext_getElem
  · simp [flagged]
  · intro i _ _
    by_cases heq : k = i
    · simp [flagged, heq]
    · simp [flagged, heq, Ne.symm heq]

lemma getElem?_flagged {n k : Nat} (ks : List Nat) (h : k < n) :
    (flagged n ks)[k]? = some (decide (k ∈ ks)) := by
  simp [flagged, h]

lemma count_flagged {n : Nat} {ks : List Nat} (hds : ks.Nodup) (hw : ∀ k ∈ ks, k < n) :
    (flagged n ks).count true = ks.length := by
  induction ks with
  | nil => simp [flagged_nil, List.count_replicate]
  | cons k ks ih =>
    obtain ⟨hf, hds⟩ := List.nodup_cons.mp hds
    obtain ⟨hk, hw⟩ := List.forall_mem_cons.mp hw
    have hl : k < (flagged n ks).length := by simpa [flagged] using hk
    rw [← set_flagged, List.count_set hl, ih hds hw]
    simp [flagged, hf]

end StableMatching
