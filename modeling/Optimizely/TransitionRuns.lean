import Mathlib.Logic.Relation

/-!
# Finite runs of a partial step function

A system is given by `step : State → Label → Option State`, where `none` means that the label is not
enabled. A run may carry a side condition `ok` on every step, read in the state before it; without
one it is `Always`.
-/

namespace TransitionRuns

universe u v

variable {State : Type u} {Label : Type v} {step : State → Label → Option State}
  {ok : State → Label → Prop}

def Always (_ : State) (_ : Label) : Prop := True

/-- The labels `ls` lead from `s` to the last state, every step being enabled and
taken in a state that meets `ok`. -/
inductive Run (step : State → Label → Option State) (ok : State → Label → Prop) :
    State → List Label → State → Prop where
  | nil (s : State) : Run step ok s [] s
  | snoc {s t r : State} {ls : List Label} {l : Label} :
      Run step ok s ls t → ok t l → step t l = some r → Run step ok s (ls ++ [l]) r

namespace Run

variable {s t : State} {ls : List Label}

lemma single {l : Label} (hok : ok s l) (hs : step s l = some t) : Run step ok s [l] t :=
  .snoc (.nil s) hok hs

lemma append {r : State} {ms : List Label} (first : Run step ok s ls t)
    (hs : Run step ok t ms r) : Run step ok s (ls ++ ms) r := by
  induction hs with
  | nil => simpa using first
  | snoc _ hok hst ih =>
    rw [← List.append_assoc]
    exact .snoc ih hok hst

lemma cons {r : State} {l : Label} (hok : ok s l)
    (hs : step s l = some t) (rs : Run step ok t ls r) : Run step ok s (l :: ls) r :=
  (single hok hs).append rs

lemma mono {ok' : State → Label → Prop} (hw : ∀ s l, ok s l → ok' s l)
    (run : Run step ok s ls t) : Run step ok' s ls t := by
  induction run with
  | nil => exact .nil _
  | snoc _ hok hs ih => exact .snoc ih (hw _ _ hok) hs

lemma always (run : Run step ok s ls t) : Run step Always s ls t := run.mono fun _ _ _ => trivial

/-- A property that one admissible step keeps is kept by a whole run. -/
lemma invariant (Inv : State → Prop) (hp : ∀ s l t, Inv s → ok s l → step s l = some t → Inv t)
    (run : Run step ok s ls t) (hi : Inv s) : Inv t := by
  induction run with
  | nil => exact hi
  | snoc _ hok hs ih => exact hp _ _ _ ih hok hs

/-- A preorder that relates the two ends of every step taken from an invariant
state relates the two ends of a run. -/
lemma relates (Inv : State → Prop) (R : State → State → Prop)
    (hrf : ∀ s, R s s) (trans : ∀ s t r, R s t → R t r → R s r)
    (hp : ∀ s l t, Inv s → ok s l → step s l = some t → Inv t)
    (hr : ∀ s l t, Inv s → ok s l → step s l = some t → R s t)
    (run : Run step ok s ls t) (hi : Inv s) : R s t := by
  induction run with
  | nil => exact hrf _
  | snoc b hok hs ih =>
    have mid := b.invariant Inv hp hi
    exact trans _ _ _ ih (hr _ _ _ mid hok hs)

/-- A property that exactly the steps within `ok` keep, and that is never regained, holds at the end
of a run of steps in `base` just if all were within `ok`. -/
lemma iff_within_base {bs : State → Label → Prop} (Inv P : State → Prop)
    (hp : ∀ s l t, Inv s → bs s l → step s l = some t → Inv t)
    (hk : ∀ s l t, Inv s → bs s l → step s l = some t → (P t ↔ P s ∧ ok s l))
    (run : Run step bs s ls t) (hi : Inv s)
    (hh : P s) : P t ↔ Run step (fun s l => bs s l ∧ ok s l) s ls t := by
  constructor
  · intro lt
    induction run with
    | nil => exact .nil _
    | snoc b hb hs ih =>
      have mid := b.invariant Inv hp hi
      obtain ⟨e, hok⟩ := (hk _ _ _ mid hb hs).mp lt
      exact .snoc (ih e) ⟨hb, hok⟩ hs
  · intro hw
    have hbt := hw.invariant (fun s => Inv s ∧ P s) (fun s l t inv hok hs =>
        ⟨hp s l t inv.1 hok.1 hs, (hk s l t inv.1 hok.1 hs).mpr ⟨inv.2, hok.2⟩⟩)
      ⟨hi, hh⟩
    exact hbt.2

lemma iff_within (Inv P : State → Prop) (hp : ∀ s l t, Inv s → step s l = some t → Inv t)
    (hk : ∀ s l t, Inv s → step s l = some t → (P t ↔ P s ∧ ok s l))
    (run : Run step Always s ls t) (hi : Inv s) (hh : P s) : P t ↔ Run step ok s ls t := by
  have hb := run.iff_within_base Inv P (fun s l t inv _ => hp s l t inv)
    (fun s l t inv _ => hk s l t inv) hi hh
  exact hb.trans ⟨fun hw => hw.mono fun _ _ hbt => hbt.2,
    fun hw => hw.mono fun _ _ hok => ⟨trivial, hok⟩⟩

/-- A property that, once it holds, exactly the steps within `ok` keep holds in all states of a run
just if all its steps were within `ok`. -/
lemma throughout_iff (Inv P : State → Prop) (hp : ∀ s l t, Inv s → P s → step s l = some t → Inv t)
    (hk : ∀ s l t, Inv s → P s → step s l = some t → (P t ↔ ok s l)) (hi : Inv s) (hh : P s) :
    Run step (fun s _ => P s) s ls t ∧ P t ↔ Run step ok s ls t := by
  constructor
  · rintro ⟨ht, lt⟩
    induction ht with
    | nil => exact .nil _
    | snoc b hhr hs ih =>
      have mid := b.invariant Inv hp hi
      exact .snoc (ih hhr) ((hk _ _ _ mid hhr hs).mp lt) hs
  · intro hw
    induction hw with
    | nil => exact ⟨.nil _, hh⟩
    | snoc b hok hs ih =>
      obtain ⟨ht, hhr⟩ := ih
      have mid := ht.invariant Inv hp hi
      exact ⟨.snoc ht hhr hs, (hk _ _ _ mid hhr hs).mpr hok⟩

/-- The same with a property of the steps: exactly the steps within `ok` have it and keep `P`. -/
lemma stepwise_iff (P : State → Prop) (Q : State → Label → Prop)
    (hk : ∀ s l t, P s → step s l = some t → (Q s l ∧ P t ↔ ok s l)) (hh : P s) :
    Run step (fun s l => P s ∧ Q s l) s ls t ∧ P t ↔ Run step ok s ls t := by
  constructor
  · rintro ⟨ht, lt⟩
    induction ht with
    | nil => exact .nil _
    | snoc b hhr hs ih =>
      exact .snoc (ih hhr.1) ((hk _ _ _ hhr.1 hs).mp ⟨hhr.2, lt⟩) hs
  · intro hw
    induction hw with
    | nil => exact ⟨.nil _, hh⟩
    | snoc b hok hs ih =>
      obtain ⟨ht, hhr⟩ := ih
      obtain ⟨step, lt⟩ := (hk _ _ _ hhr hs).mpr hok
      exact ⟨.snoc ht ⟨hhr, step⟩ hs, lt⟩

end Run

/-- Execution of a list of labels; `none` as soon as one is not enabled. -/
def exec (step : State → Label → Option State) : State → List Label → Option State
  | s, [] => some s
  | s, l :: ls => (step s l).bind fun t => exec step t ls

lemma exec_concat (s : State) (ls : List Label) (l : Label) :
    exec step s (ls ++ [l]) = (exec step s ls).bind fun t => step t l := by
  induction ls generalizing s with
  | nil => simp [exec]
  | cons first ls ih => simp [exec, ih, Option.bind_assoc]

/-- Execution that also refuses a step taken outside its side condition. -/
def execWithin (step : State → Label → Option State) (ok : State → Label → Prop)
    [∀ s l, Decidable (ok s l)] : State → List Label → Option State
  | s, [] => some s
  | s, l :: ls => if ok s l then (step s l).bind fun t => execWithin step ok t ls else none

lemma run_of_exec {s t : State} {ls : List Label} (h : exec step s ls = some t) :
    Run step Always s ls t := by
  induction ls generalizing s with
  | nil =>
    cases h
    exact .nil _
  | cons l ls ih =>
    obtain ⟨r, hr, rs⟩ := Option.bind_eq_some_iff.mp h
    exact .cons trivial hr (ih rs)

lemma run_of_execWithin [∀ s l, Decidable (ok s l)] {s t : State} {ls : List Label}
    (h : execWithin step ok s ls = some t) : Run step ok s ls t := by
  induction ls generalizing s with
  | nil =>
    cases h
    exact .nil _
  | cons l ls ih =>
    rw [execWithin] at h
    by_cases hok : ok s l
    · rw [if_pos hok] at h
      obtain ⟨r, hr, rs⟩ := Option.bind_eq_some_iff.mp h
      exact .cons hok hr (ih rs)
    · rw [if_neg hok] at h
      cases h

instance (s : State) (l : Label) : Decidable (Always s l) := .isTrue trivial

section

variable [∀ s l, Decidable (ok s l)] {s : State} {ls : List Label} {P P' P'' Q : State → Prop}

/-- An execution finds a run, what is seen at its end is computed, and the rest follows. -/
lemma exists_run_of_seen (Seen : State → Prop) (he : ∃ t ∈ execWithin step ok s ls, Seen t)
    (r : ∀ t, Run step ok s ls t → Seen t → Q t) : ∃ t, Run step ok s ls t ∧ Q t := by
  obtain ⟨t, hf, sn⟩ := he
  have run := run_of_execWithin hf
  exact ⟨t, run, r t run sn⟩

lemma exists_run_seen (he : ∃ t ∈ execWithin step ok s ls, P t) : ∃ t, Run step ok s ls t ∧ P t :=
  exists_run_of_seen P he fun _ _ sn => sn

lemma exists_run (he : ∃ t ∈ execWithin step ok s ls, P t)
    (r : ∀ t, Run step ok s ls t → P t → Q t) : ∃ t, Run step ok s ls t ∧ P t ∧ Q t :=
  exists_run_of_seen P he fun t run sn => ⟨sn, r t run sn⟩

lemma exists_run₂ (he : ∃ t ∈ execWithin step ok s ls, P t ∧ P' t)
    (r : ∀ t, Run step ok s ls t → P t → P' t → Q t) : ∃ t, Run step ok s ls t ∧ P t ∧ P' t ∧ Q t :=
  exists_run_of_seen _ he fun t run ⟨p, p'⟩ => ⟨p, p', r t run p p'⟩

lemma exists_run₃ (he : ∃ t ∈ execWithin step ok s ls, P t ∧ P' t ∧ P'' t)
    (r : ∀ t, Run step ok s ls t → P t → P' t → P'' t → Q t) :
    ∃ t, Run step ok s ls t ∧ P t ∧ P' t ∧ P'' t ∧ Q t :=
  exists_run_of_seen _ he fun t run ⟨p, p', p''⟩ => ⟨p, p', p'', r t run p p' p''⟩

lemma exists_careful_run (he : ∃ t ∈ execWithin step ok s ls, P t)
    (r : ∀ t, Run step Always s ls t → Run step ok s ls t → P t → Q t) :
    ∃ t, Run step Always s ls t ∧ P t ∧ Q t := by
  obtain ⟨t, hf, sn⟩ := he
  have run := run_of_execWithin hf
  exact ⟨t, run.always, sn, r t run.always run sn⟩

lemma exists_two_runs {r t : State} {ms : List Label} {R : State → State → Prop}
    (first : execWithin step ok s ls = some r) (p : P r)
    (hs : execWithin step ok r ms = some t) (p' : P' t)
    (rs : Run step ok s ls r → Run step ok r ms t → R r t) :
    ∃ r t, Run step ok s ls r ∧ P r ∧ Run step ok r ms t ∧ P' t ∧ R r t :=
  have run := run_of_execWithin first
  have next := run_of_execWithin hs
  ⟨r, t, run, p, next, p', rs run next⟩

lemma exists_run_step {l : Label} {R : State → State → Prop} (Seen : State → State → Prop)
    (he : ∃ t ∈ execWithin step ok s ls, ∃ u ∈ step t l, Seen t u)
    (r : ∀ t u, Run step ok s ls t → step t l = some u → Seen t u → R t u) :
    ∃ t u, Run step ok s ls t ∧ step t l = some u ∧ R t u := by
  obtain ⟨t, hf, u, next, sn⟩ := he
  exact ⟨t, u, run_of_execWithin hf, next, r t u (run_of_execWithin hf) next sn⟩

end

end TransitionRuns
