import Optimizely.OrderedMap
import Optimizely.TaskLists
import Optimizely.TransitionRuns

/-!
# Removing a contact from an email sequence

A removal cancels one run of the pair, and none if the contact is not listed. A sequence may
have been triggered for the contact more often, or without listing it.
-/

namespace EmailSequences

open TransitionRuns TaskLists List OrderedMap

/-- What `triggerSequence` asks of a sequence: its status, and what `validateSequence` finds. -/
structure EmailSequence where
  isActive : Bool
  isValid : Bool

structure SequenceRun where
  sequenceId : String
  contactId : String
  deriving DecidableEq

inductive Stage where
  | updatingContact
  | returned (removed : Bool)
  deriving DecidableEq

structure Removal where
  run : SequenceRun
  stage : Stage
  deriving DecidableEq

structure Engine where
  sequences : OrderedMap String EmailSequence
  contacts : OrderedMap String (List String)
  activeSequenceRuns : OrderedMap String SequenceRun
  removals : List Removal

/-- `cancelRun` is a removal that goes on once the contact is saved. -/
inductive Label where
  | triggerSequence (runId : String) (run : SequenceRun)
  | addContactToSequence (run : SequenceRun)
  | removeContactFromSequence (run : SequenceRun)
  | cancelRun (index : Nat)
  | cancelSequenceRun (runId : String)

def Engine.cancelFirst (engine : Engine) (run : SequenceRun) : OrderedMap String SequenceRun :=
  match engine.activeSequenceRuns.entries.find? (·.2 = run) with
  | some active => engine.activeSequenceRuns.erase active.1
  | none => engine.activeSequenceRuns

/-- A call that throws is not enabled. -/
def step (engine : Engine) : Label → Option Engine
  | .triggerSequence runId run =>
    match (engine.sequences.get? run.sequenceId).filter fun s => s.isActive && s.isValid,
      engine.contacts.get? run.contactId with
    | some _, some _ =>
      some { engine with activeSequenceRuns := engine.activeSequenceRuns.set runId run }
    | _, _ => none
  | .addContactToSequence run =>
    match engine.contacts.get? run.contactId, engine.sequences.get? run.sequenceId with
    | some listed, some _ =>
      if run.sequenceId ∈ listed then some engine
      else some { engine with
        contacts := engine.contacts.set run.contactId (listed ++ [run.sequenceId]) }
    | _, _ => none
  | .removeContactFromSequence run =>
    match (engine.contacts.get? run.contactId).filter (run.sequenceId ∈ ·) with
    | none => some { engine with removals := engine.removals ++ [⟨run, .returned false⟩] }
    | some listed => some { engine with
        contacts := engine.contacts.set run.contactId (listed.erase run.sequenceId)
        removals := engine.removals ++ [⟨run, .updatingContact⟩] }
  | .cancelRun index =>
    match engine.removals[index]? with
    | some ⟨run, .updatingContact⟩ => some { engine with
        activeSequenceRuns := engine.cancelFirst run
        removals := engine.removals.set index ⟨run, .returned true⟩ }
    | _ => none
  | .cancelSequenceRun runId =>
    (engine.activeSequenceRuns.get? runId).map fun _ =>
      { engine with activeSequenceRuns := engine.activeSequenceRuns.erase runId }

/-- No run of the pair is active, and the sequence is not listed. -/
def Removed (run : SequenceRun) (engine : Engine) : Prop :=
  run ∉ engine.activeSequenceRuns.values ∧
    ∀ listed ∈ engine.contacts.get? run.contactId, run.sequenceId ∉ listed

/-- The sequence is listed once, and has been triggered once at most. -/
def Single (run : SequenceRun) (engine : Engine) : Prop :=
  (∃ listed ∈ engine.contacts.get? run.contactId, listed.count run.sequenceId = 1) ∧
    engine.activeSequenceRuns.values.count run ≤ 1

/-- No trigger or add of the pair. -/
def Apart (run : SequenceRun) (_ : Engine) : Label → Prop
  | .triggerSequence _ other => other ≠ run
  | .addContactToSequence other => other ≠ run
  | _ => True

deriving instance Decidable for Removed, Single

instance (run : SequenceRun) (engine : Engine) (label : Label) :
    Decidable (Apart run engine label) := by
  cases label <;> dsimp only [Apart] <;> infer_instance

section

variable {run : SequenceRun} {m : OrderedMap String SequenceRun} {s t : Engine} {l : Label}
  {k : String} {i : Nat}

lemma count_erase_le (k : String) : (m.erase k).values.count run ≤ m.values.count run :=
  (filter_sublist.map Prod.snd).count_le run

lemma count_cancelFirst (s : Engine) (run : SequenceRun) :
    (s.cancelFirst run).values.count run = s.activeSequenceRuns.values.count run - 1 := by
  rw [Engine.cancelFirst]
  cases h : s.activeSequenceRuns.entries.find? (·.2 = run) with
  | none =>
    have hz : s.activeSequenceRuns.values.count run = 0 := by
      rw [count_eq_zero, values, mem_map]
      rintro ⟨e, hm, he⟩
      simpa [he] using find?_eq_none.mp h e hm
    simp [hz]
  | some e =>
    obtain ⟨k, v⟩ := e
    have hv : v = run := by simpa using find?_some h
    have hp := perm_cons_erase (m := s.activeSequenceRuns) (get?_of_mem (mem_of_find?_eq_some h))
      fun _ _ => rfl
    rw [values, values, ((hp.map Prod.snd).count_eq run), map_cons, hv, count_cons_self]
    rfl

lemma count_cancelFirst_le (s : Engine) (x : SequenceRun) :
    (s.cancelFirst x).values.count run ≤ s.activeSequenceRuns.values.count run := by
  rw [Engine.cancelFirst]
  split
  · exact count_erase_le _
  · exact le_refl _

/-- The pair is not listed, and its one run is left only while the removal is under way. -/
structure Leaves (run : SequenceRun) (index : Nat) (engine : Engine) : Prop where
  unlisted : ∀ listed ∈ engine.contacts.get? run.contactId, run.sequenceId ∉ listed
  runs : engine.removals[index]? = some ⟨run, .updatingContact⟩ ∧
      engine.activeSequenceRuns.values.count run ≤ 1 ∨
    engine.removals[index]? = some ⟨run, .returned true⟩ ∧
      engine.activeSequenceRuns.values.count run = 0

lemma forall_get?_set {P : List String → Prop} {m : OrderedMap String (List String)} {c k : String}
    {l : List String} (h : ∀ x ∈ m.get? c, P x) (hl : k = c → P l) :
    ∀ x ∈ (m.set k l).get? c, P x := by
  rw [get?_set]
  split
  · rename_i hk
    simpa using hl hk
  · exact h

lemma Leaves.of_le (h : Leaves run i s)
    (hu : ∀ l ∈ t.contacts.get? run.contactId, run.sequenceId ∉ l)
    (hr : ∀ x, s.removals[i]? = some x → t.removals[i]? = some x)
    (hc : t.activeSequenceRuns.values.count run ≤ s.activeSequenceRuns.values.count run) :
    Leaves run i t := by
  refine ⟨hu, h.runs.imp (And.imp (hr _) hc.trans) (And.imp (hr _) fun hz => ?_)⟩
  omega

lemma leaves_step (h : Leaves run i s) (ha : Apart run s l) (hs : step s l = some t) :
    Leaves run i t := by
  cases l with
  | triggerSequence k x =>
    simp only [step] at hs
    split at hs <;> cases hs
    refine h.of_le h.unlisted (fun _ hx => hx) ?_
    have hne : ¬ (x == run) = true := by simpa using (show x ≠ run from ha)
    have hc := countP_values_set (· == run) s.activeSequenceRuns k x
    rw [if_neg hne] at hc
    exact Nat.le.intro hc
  | addContactToSequence x =>
    simp only [step] at hs
    split at hs
    · rename_i l _ hl _
      split at hs <;> cases hs
      · exact h
      · refine h.of_le (forall_get?_set h.unlisted fun hk => ?_) (fun _ hx => hx) (le_refl _)
        have hne : run.sequenceId ≠ x.sequenceId := fun hq => ha (by cases run; cases x; simp_all)
        simpa [hne] using h.unlisted l (hk ▸ hl)
    · cases hs
  | removeContactFromSequence x =>
    have hr : ∀ y r, s.removals[i]? = some y → (s.removals ++ [r])[i]? = some y := fun _ _ hy =>
      (getElem?_append_left (List.getElem?_eq_some_iff.mp hy).1).trans hy
    simp only [step] at hs
    split at hs <;> cases hs
    · exact h.of_le h.unlisted (fun y => hr y _) (le_refl _)
    · rename_i l hl
      refine h.of_le (forall_get?_set h.unlisted fun hk hm => ?_) (fun y => hr y _) (le_refl _)
      exact h.unlisted l (hk ▸ (Option.filter_eq_some_iff.mp hl).1) (mem_of_mem_erase hm)
  | cancelRun j =>
    simp only [step] at hs
    split at hs <;> cases hs
    rename_i x hj
    by_cases hij : j = i
    · subst hij
      obtain ⟨hi, hc⟩ | ⟨hi, -⟩ := h.runs <;> cases hj.symm.trans hi
      refine ⟨h.unlisted, .inr ⟨getElem?_set_self (List.getElem?_eq_some_iff.mp hj).1, ?_⟩⟩
      rw [count_cancelFirst]
      omega
    · exact h.of_le h.unlisted (fun y hy => (getElem?_set_ne hij).trans hy)
        (count_cancelFirst_le s x)
  | cancelSequenceRun k =>
    obtain ⟨-, -, rfl⟩ := Option.map_eq_some_iff.mp hs
    exact h.of_le h.unlisted (fun _ hx => hx) (count_erase_le k)

lemma leaves_remove (h : Single run s) (hs : step s (.removeContactFromSequence run) = some t) :
    Leaves run s.removals.length t := by
  obtain ⟨⟨l, hl, hc⟩, hr⟩ := h
  have hm : run.sequenceId ∈ l := one_le_count_iff.mp hc.ge
  rw [step, hl, Option.filter_some, if_pos (decide_eq_true hm)] at hs
  cases hs
  refine ⟨fun l' hf => ?_, .inl ⟨getElem?_concat_length, hr⟩⟩
  rw [get?_set, if_pos rfl] at hf
  cases hf
  rw [← count_eq_zero, count_erase_self, hc]

end

/-- From a single listing and run, a removal that has returned has removed the pair for good. -/
theorem removed_of_single {run : SequenceRun} {engine started later : Engine}
    {labels : List Label} {result : Bool} (single : Single run engine)
    (stepped : step engine (.removeContactFromSequence run) = some started)
    (rest : Run step (Apart run) started labels later)
    (completed : later.removals[engine.removals.length]? = some ⟨run, .returned result⟩) :
    Removed run later := by
  have hl := rest.invariant (Leaves run engine.removals.length)
    (fun _ _ _ => leaves_step) (leaves_remove single stepped)
  refine ⟨?_, hl.unlisted⟩
  rcases hl.runs with ⟨hh, -⟩ | ⟨-, none⟩
  · rw [completed] at hh
    cases hh
  · exact count_eq_zero.mp none

/-- One active sequence, and one contact that it does not list. -/
def engine : Engine :=
  ⟨empty.set "s" ⟨true, true⟩, empty.set "c" [], empty, []⟩

def pair : SequenceRun := ⟨"s", "c"⟩

def enrolled : List Label := [.addContactToSequence pair, .triggerSequence "1" pair]

theorem listedOnce_is_removed :
    ∃ before ∈ exec step engine enrolled,
      Single pair before ∧ ∃ started ∈ step before (.removeContactFromSequence pair),
        ∃ later ∈ execWithin step (Apart pair) started [.cancelRun 0], Removed pair later := by
  have hr : ∃ before ∈ exec step engine enrolled,
      Single pair before ∧ ∃ started ∈ step before (.removeContactFromSequence pair),
        ∃ later ∈ execWithin step (Apart pair) started [.cancelRun 0],
          later.removals[before.removals.length]? = some ⟨pair, .returned true⟩ := by
    decide +kernel
  obtain ⟨before, he, hsn, started, hs, later, r, hc⟩ := hr
  exact ⟨before, he, hsn, started, hs, later, r, removed_of_single hsn hs (run_of_execWithin r) hc⟩

/-- A second run outlives the removal, and so does the only run of a contact that is not listed. -/
theorem triggered_outlives_removal :
    (∃ t ∈ exec step engine (enrolled ++
      [.triggerSequence "2" pair, .removeContactFromSequence pair, .cancelRun 0]),
      t.removals = [⟨pair, .returned true⟩] ∧ ¬ Removed pair t) ∧
    ∃ t ∈ exec step engine [.triggerSequence "1" pair, .removeContactFromSequence pair],
      t.removals = [⟨pair, .returned false⟩] ∧ ¬ Removed pair t := by
  decide +kernel

end EmailSequences
