import Mathlib.Algebra.BigOperators.Group.List.Basic

/-!
# Lists of suspended tasks

A task is named by its index in a list that only grows. Resuming it replaces the entry at its index,
and starting one appends an entry.
-/

namespace TaskLists

open List

universe u v

variable {Task : Type u} {M : Type v} [AddCommMonoid M] {i : Nat} {old new : Task}
  {tasks : List Task} {P : Task → Prop}

lemma set_perm (hf : tasks[i]? = some old) (new : Task) :
    old :: tasks.set i new ~ new :: tasks := by
  obtain ⟨hi, rfl⟩ := List.getElem?_eq_some_iff.mp hf
  have out := (getElem_cons_eraseIdx_perm hi).cons new
  exact ((set_perm_cons_eraseIdx hi new).cons _).trans ((Perm.swap ..).trans out)

lemma sum_map_set (f : Task → M) (hf : tasks[i]? = some old) (new : Task) :
    ((tasks.set i new).map f).sum + f old = (tasks.map f).sum + f new := by
  simpa [add_comm] using ((set_perm hf new).map f).sum_eq

lemma countP_set (p : Task → Bool) (hf : tasks[i]? = some old) (new : Task) :
    (tasks.set i new).countP p + (if p old then 1 else 0) =
      tasks.countP p + if p new then 1 else 0 := by
  simpa only [countP_cons] using (set_perm hf new).countP_eq p

/-- What the tasks contribute to a list, up to order, after one of them has moved on. -/
lemma filterMap_set_perm {A : Type v} (f : Task → Option A)
    (hf : tasks[i]? = some old) (new : Task) :
    ((tasks.set i new).filterMap f ++ (f old).toList).Perm
      (tasks.filterMap f ++ (f new).toList) := by
  have split : ∀ t r, (t :: r).filterMap f = (f t).toList ++ r.filterMap f := by
    intro t r
    cases h : f t <;> simp [h]
  have hm := (set_perm hf new).filterMap f
  rw [split, split] at hm
  exact perm_append_comm.trans (hm.trans perm_append_comm)

lemma filterMap_set_of_eq {A : Type v} (f : Task → Option A)
    (hf : tasks[i]? = some old) (hs : f new = f old) :
    (tasks.set i new).filterMap f = tasks.filterMap f := by
  induction tasks generalizing i with
  | nil => simp at hf
  | cons t tasks ih =>
    cases i with
    | zero =>
      have hh : t = old := by simpa using hf
      simp only [set_cons_zero, filterMap_cons, hs, hh]
    | succ i =>
      have hr := ih (by simpa using hf)
      simp only [set_cons_succ, filterMap_cons, hr]

lemma forall_set (all : ∀ task ∈ tasks, P task)
    (i : Nat) (hn : P new) : ∀ task ∈ tasks.set i new, P task := by
  intro task mem
  rcases mem_or_eq_of_mem_set mem with old | rfl
  · exact all task old
  · exact hn

lemma forall_set_iff (hf : tasks[i]? = some old) (ho : P old) :
    (∀ task ∈ tasks.set i new, P task) ↔ (∀ task ∈ tasks, P task) ∧ P new := by
  have hs : (∀ task ∈ old :: tasks.set i new, P task) ↔ ∀ task ∈ new :: tasks, P task :=
    forall_congr' fun _ => imp_congr_left (set_perm hf new).mem_iff
  simpa [ho, and_comm] using hs

/-- Tasks are told apart by what `f` gives for them: to resume one leaves only those to be framed
for which `f` gives something else. -/
lemma forall_set_of_distinct {A : Type v} (f : Task → Option A) {Q : Task → Prop}
    (hd : (tasks.filterMap f).Nodup) (hf : tasks[i]? = some old) (all : ∀ task ∈ tasks, P task)
    (hfr : ∀ task, P task → (∀ a, f task = some a → f old ≠ some a) → Q task)
    (hnew : Q new) : ∀ task ∈ tasks.set i new, Q task := by
  have ha := pairwise_iff_getElem.mp (pairwise_filterMap.mp hd)
  obtain ⟨b, hh⟩ := List.getElem?_eq_some_iff.mp hf
  intro task mem
  obtain ⟨j, hj, rfl⟩ := getElem_of_mem mem
  by_cases hs : i = j
  · subst hs
    rwa [getElem_set_self]
  · have hin : j < tasks.length := by simpa using hj
    rw [getElem_set_ne hs]
    refine hfr _ (all _ (getElem_mem hin)) fun a this x => ?_
    rcases Nat.lt_or_gt_of_ne hs with hl | hg
    · exact ha i j b hin hl a (hh ▸ x) a this rfl
    · exact ha j i hin b hg a this a (hh ▸ x) rfl

lemma forall_append (all : ∀ task ∈ tasks, P task)
    (hn : P new) : ∀ task ∈ tasks ++ [new], P task := by
  intro task mem
  rcases mem_append.mp mem with old | l
  · exact all task old
  · exact mem_singleton.mp l ▸ hn

lemma mem_set_of_ne {x : Task} (new : Task)
    (hf : tasks[i]? = some old) (mem : x ∈ tasks) (hne : x ≠ old) : x ∈ tasks.set i new := by
  have hk := (set_perm hf new).mem_iff.mpr (mem_cons_of_mem new mem)
  exact (mem_cons.mp hk).resolve_left hne

lemma mem_set_self (new : Task) (hf : tasks[i]? = some old) : new ∈ tasks.set i new := by
  obtain ⟨hin, -⟩ := List.getElem?_eq_some_iff.mp hf
  exact mem_set hin new

lemma getElem?_set_cases {j : Nat} {t : Task} (hf : (tasks.set i new)[j]? = some t) :
    (j = i ∧ t = new) ∨ (j ≠ i ∧ tasks[j]? = some t) := by
  by_cases h : j = i
  · subst h
    left
    rw [getElem?_set_self'] at hf
    obtain ⟨_, _, rfl⟩ := Option.map_eq_some_iff.mp hf
    exact ⟨rfl, rfl⟩
  · right
    rw [getElem?_set_ne (Ne.symm h)] at hf
    exact ⟨h, hf⟩

lemma getElem?_append_cases {j : Nat} {task : Task} (hf : (tasks ++ [new])[j]? = some task) :
    (j = tasks.length ∧ task = new) ∨ tasks[j]? = some task := by
  by_cases h : j < tasks.length
  · right
    rwa [getElem?_append_left h] at hf
  · left
    rw [getElem?_append_right (by omega), getElem?_singleton] at hf
    by_cases hl : j - tasks.length = 0
    · rw [if_pos hl] at hf
      cases hf
      exact ⟨by omega, rfl⟩
    · rw [if_neg hl] at hf
      cases hf

/-- A task takes its place at `k`, and none of the others has a key of its own. -/
lemma unique_of_cases {A : Type v} {f : Task → Option A} {af : List Task} {k : Nat}
    (hu : ∀ (i j : Nat) (a b : Task) (x : A), tasks[i]? = some a → tasks[j]? = some b →
      f a = some x → f b = some x → i = j)
    (hp : ∀ (i : Nat) (a : Task), af[i]? = some a → i = k ∧ a = new ∨
      tasks[i]? = some a ∧ ∀ x, f a = some x → f new ≠ some x) :
    ∀ (i j : Nat) (a b : Task) (x : A), af[i]? = some a → af[j]? = some b →
      f a = some x → f b = some x → i = j := by
  intro i j a b x ha hb hx hx'
  rcases hp i a ha with ⟨rfl, rfl⟩ | ⟨ha, hf⟩ <;> rcases hp j b hb with ⟨rfl, rfl⟩ | ⟨hb, hf'⟩
  · rfl
  · exact absurd hx (hf' x hx')
  · exact absurd hx' (hf x hx)
  · exact hu i j a b x ha hb hx hx'

end TaskLists
