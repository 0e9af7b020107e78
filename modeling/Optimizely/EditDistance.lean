import Mathlib.Order.Bounds.Defs
import Mathlib.Tactic.Common

/-!
# Edit distance of lists

Insertions, deletions and substitutions of one element, and the recursion over the first elements
that finds how few of them lead from one list to another.
-/

namespace EditDistance

variable {α : Type*} {s t u : List α} {m n : Nat}

/-- One element is inserted, deleted or replaced. -/
inductive Edit : List α → List α → Prop where
  | insert (l r : List α) (a : α) : Edit (l ++ r) (l ++ a :: r)
  | delete (l r : List α) (a : α) : Edit (l ++ a :: r) (l ++ r)
  | substitute (l r : List α) (a b : α) : Edit (l ++ a :: r) (l ++ b :: r)

inductive Edits : Nat → List α → List α → Prop where
  | refl (s : List α) : Edits 0 s s
  | head {n : Nat} {s t u : List α} : Edit s t → Edits n t u → Edits (n + 1) s u

lemma Edit.symm (h : Edit s t) : Edit t s := by
  cases h with
  | insert l r a => exact .delete l r a
  | delete l r a => exact .insert l r a
  | substitute l r a b => exact .substitute l r b a

lemma Edit.cons (c : α) (h : Edit s t) : Edit (c :: s) (c :: t) := by
  cases h with
  | insert l r a => exact .insert (c :: l) r a
  | delete l r a => exact .delete (c :: l) r a
  | substitute l r a b => exact .substitute (c :: l) r a b

lemma Edit.reverse (h : Edit s t) : Edit s.reverse t.reverse := by
  cases h with
  | insert l r a => simpa using Edit.insert r.reverse l.reverse a
  | delete l r a => simpa using Edit.delete r.reverse l.reverse a
  | substitute l r a b => simpa using Edit.substitute r.reverse l.reverse a b

lemma Edits.trans (h : Edits m s t) (h' : Edits n t u) : Edits (m + n) s u := by
  induction h with
  | refl => simpa using h'
  | head he _ ih =>
    rw [Nat.succ_add]
    exact .head he (ih h')

lemma Edits.symm (h : Edits n s t) : Edits n t s := by
  induction h with
  | refl s => exact .refl s
  | head he _ ih => exact ih.trans (.head he.symm (.refl _))

lemma Edits.map {f : List α → List α} (hf : ∀ s t, Edit s t → Edit (f s) (f t))
    (h : Edits n s t) : Edits n (f s) (f t) := by
  induction h with
  | refl s => exact .refl _
  | head he _ ih => exact .head (hf _ _ he) ih

lemma edits_reverse_iff : Edits n s.reverse t.reverse ↔ Edits n s t := by
  constructor
  · intro h
    simpa using h.map fun _ _ => Edit.reverse
  · exact fun h => h.map fun _ _ => Edit.reverse

lemma edits_length (s : List α) : Edits s.length s [] := by
  induction s with
  | nil => exact .refl []
  | cons a s ih => exact .head (.delete [] s a) ih

lemma edits_min (h : Edits m s t) (h' : Edits n s t) : Edits (min m n) s t := by
  rcases Nat.le_total m n with hle | hle
  · rwa [Nat.min_eq_left hle]
  · rwa [Nat.min_eq_right hle]

variable [DecidableEq α]

def distance : List α → List α → Nat
  | [], t => t.length
  | s, [] => s.length
  | a :: s, b :: t =>
    min (min (distance s (b :: t) + 1) (distance (a :: s) t + 1))
      (distance s t + if a = b then 0 else 1)
termination_by s t => s.length + t.length

@[simp] lemma distance_nil_left (t : List α) : distance [] t = t.length := by
  simp [distance]

@[simp] lemma distance_nil_right (s : List α) : distance s [] = s.length := by
  cases s <;> simp [distance]

lemma distance_cons_cons (a b : α) (s t : List α) : distance (a :: s) (b :: t) =
    min (min (distance s (b :: t) + 1) (distance (a :: s) t + 1))
      (distance s t + if a = b then 0 else 1) := by
  rw [distance]

lemma edits_distance (s t : List α) : Edits (distance s t) s t := by
  induction s generalizing t with
  | nil => simpa using (edits_length t).symm
  | cons a s ih =>
    induction t with
    | nil => simpa using edits_length (a :: s)
    | cons b t iht =>
      rw [distance_cons_cons]
      refine edits_min (edits_min (.head (.delete [] s a) (ih (b :: t))) ?_) ?_
      · exact iht.trans (.head (.insert [] t b) (.refl _))
      · have hk : Edits (distance s t) (a :: s) (a :: t) := (ih t).map fun _ _ => Edit.cons a
        by_cases hab : a = b
        · simpa [hab] using hab ▸ hk
        · simpa [hab] using hk.trans (.head (.substitute [] t a b) (.refl _))

lemma distance_cons_right (s u : List α) (b : α) : distance s (b :: u) ≤ distance s u + 1 := by
  cases s with
  | nil => simp
  | cons a s =>
    rw [distance_cons_cons]
    omega

lemma distance_delete (s u : List α) (a : α) : distance (a :: s) u ≤ distance s u + 1 := by
  cases u with
  | nil => simp
  | cons b u =>
    rw [distance_cons_cons]
    omega

lemma distance_insert (s u : List α) (a : α) : distance s u ≤ distance (a :: s) u + 1 := by
  induction u with
  | nil => simp; omega
  | cons b u ih =>
    have h := distance_cons_right s u b
    rw [distance_cons_cons]
    omega

lemma distance_substitute (s u : List α) (a b : α) :
    distance (a :: s) u ≤ distance (b :: s) u + 1 := by
  induction u with
  | nil => simp
  | cons c u ih =>
    rw [distance_cons_cons, distance_cons_cons]
    split <;> split <;> omega

lemma distance_cons_le (h : ∀ u, distance s u ≤ distance t u + 1) (c : α) (u : List α) :
    distance (c :: s) u ≤ distance (c :: t) u + 1 := by
  induction u with
  | nil => simpa using h []
  | cons b u ih =>
    have hb := h (b :: u)
    have hu := h u
    rw [distance_cons_cons, distance_cons_cons]
    omega

lemma distance_append_le (h : ∀ u, distance s u ≤ distance t u + 1) (l u : List α) :
    distance (l ++ s) u ≤ distance (l ++ t) u + 1 := by
  induction l generalizing u with
  | nil => exact h u
  | cons c l ih => exact distance_cons_le ih c u

/-- An edit changes the distance by one at most. -/
lemma distance_le_of_edit (h : Edit s t) (u : List α) : distance s u ≤ distance t u + 1 := by
  cases h with
  | insert l r a => exact distance_append_le (fun u => distance_insert r u a) l u
  | delete l r a => exact distance_append_le (fun u => distance_delete r u a) l u
  | substitute l r a b => exact distance_append_le (fun u => distance_substitute r u a b) l u

lemma distance_self (s : List α) : distance s s = 0 := by
  induction s with
  | nil => simp
  | cons a s ih =>
    rw [distance_cons_cons, ih, if_pos rfl]
    omega

lemma distance_le_of_edits (h : Edits n s t) : distance s t ≤ n := by
  induction h with
  | refl s => exact Nat.le_of_eq (distance_self s)
  | @head _ _ _ u he _ ih =>
    have hle := distance_le_of_edit he u
    omega

/-- The recursion finds the least number of edits. -/
lemma isLeast_distance (s t : List α) : IsLeast {n | Edits n s t} (distance s t) :=
  ⟨edits_distance s t, fun _ => distance_le_of_edits⟩

lemma distance_le_max (s t : List α) : distance s t ≤ max s.length t.length := by
  induction s generalizing t with
  | nil => simp
  | cons a s ih =>
    cases t with
    | nil => simp
    | cons b t =>
      have hst := ih t
      rw [distance_cons_cons, List.length_cons, List.length_cons]
      split <;> omega

end EditDistance
