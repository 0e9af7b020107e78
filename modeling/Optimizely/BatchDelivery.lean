import Mathlib.Tactic.Abel
import Optimizely.PerformanceOptimizer

/-!
# Requests and the batches that are sent

A batch that has been sent stays open until its flush goes on. A request that joins it then is
removed with it, and a second flush sends its requests again; a flush of all batches removes those
made meanwhile, and `cleanup` those never sent.
-/

namespace PerformanceOptimizer

open TransitionRuns List Option OrderedMap State

/-- No request was sent twice, and one that was added has been sent or waits. -/
structure ExactlyOnce (s : State) : Prop where
  twice : s.sent.flatten.Nodup
  lost : ∀ request < s.added,
    request ∈ s.sent.flatten ∨ ∃ batch ∈ s.requestBatches.values, request ∈ batch.requests

def NoneTooLarge (s : State) : Prop :=
  ∀ requests ∈ s.sent, (requests.length : Rat) ≤ s.config.batchSize

def Unsent (s : State) (batchIds : List Nat) : Prop :=
  ∀ id ∈ batchIds, ∀ batch ∈ s.requestBatches.get? id, batch.isSent = false

def AllSent (s : State) (gone : Nat → RequestBatch → Bool) : Prop :=
  ∀ entry ∈ s.requestBatches.entries, gone entry.1 entry.2 = true → entry.2.isSent = true

deriving instance Decidable for Unsent, AllSent

/-- Requests join and flushes send batches that were not sent, and only sent ones are removed. -/
def Careful (s : State) : Label → Prop
  | .addRequest priority _ now fresh => (s.targetBatch priority now fresh).2.isSent = false
  | .flushBatch (some batchId) => Unsent s [batchId]
  | .flushBatch none => Unsent s s.requestBatches.keys
  | .flushOldBatches now => Unsent s (s.oldBatches now)
  | .cleanup now => AllSent s fun _ batch => s.isExpired now batch
  | .resume index => ∀ gone ∈ s.calls[index]?.bind Call.removes, AllSent s gone

instance (s : State) (label : Label) : Decidable (Careful s label) := by
  unfold Careful
  repeat' split
  all_goals infer_instance

/-- The requests of a batch that have not been sent. -/
def pending (entry : Nat × RequestBatch) : Multiset Nat :=
  if entry.2.isSent then 0 else entry.2.requests

def waiting (s : State) : Multiset Nat := (s.requestBatches.entries.map pending).sum

/-- Every request waits or has been sent, and no batch has more than `n` of them. -/
structure Sound (n : Nat) (s : State) : Prop where
  size : s.config.batchSize = n
  conserved : waiting s + (s.sent.flatten : Multiset Nat) = (List.range s.added : Multiset Nat)
  batches : ∀ entry ∈ s.requestBatches.entries, entry.2.requests.length ≤ n
  sent : ∀ requests ∈ s.sent, requests.length ≤ n

variable {n : Nat} {s : State} {id : Nat} {bh : RequestBatch}

lemma mem_waiting {r : Nat} : r ∈ waiting s ↔ ∃ e ∈ s.requestBatches.entries, r ∈ pending e := by
  rw [waiting]
  induction s.requestBatches.entries with
  | nil => simp
  | cons e entries ih => simp [ih]

section

variable (sn : Sound n s)
include sn

lemma Sound.exactlyOnce : ExactlyOnce s where
  twice := by
    have hds : (waiting s + (s.sent.flatten : Multiset Nat)).Nodup := by
      rw [sn.conserved]
      exact nodup_range
    exact Multiset.coe_nodup.mp (Multiset.nodup_of_le (Multiset.le_add_left _ _) hds)
  lost r bound := by
    have mem : r ∈ waiting s + (s.sent.flatten : Multiset Nat) := by
      rw [sn.conserved]
      exact mem_range.mpr bound
    rcases Multiset.mem_add.mp mem with hw | hs
    · obtain ⟨e, st, hh⟩ := mem_waiting.mp hw
      rw [pending] at hh
      split at hh
      · exact absurd hh (Multiset.notMem_zero _)
      · exact .inr ⟨e.2, mem_map_of_mem st, hh⟩
    · exact .inl hs

lemma Sound.noneTooLarge : NoneTooLarge s := by
  intro rs mem
  rw [sn.size]
  exact Nat.cast_le.mpr (sn.sent rs mem)

lemma Sound.with_calls (calls : List Call) : Sound n { s with calls := calls } := { sn with }

/-- One batch is written: its requests that wait and those that are sent are the ones that waited
in it, and the new ones. -/
lemma Sound.write (id : Nat) (bt : RequestBatch) (added : Nat) (sent : List (List Nat))
    (hsm : bt.requests.length ≤ n) (hs : ∀ rs ∈ sent, rs.length ≤ n)
    (hb : pending (id, bt) + (sent.flatten : Multiset Nat) + range s.added =
      ((s.requestBatches.get? id).map fun old => pending (id, old)).getD 0 + range added) :
    Sound n { s with
      requestBatches := s.requestBatches.set id bt
      sent := s.sent ++ sent
      added := added } where
  size := sn.size
  conserved := by
    have hm := sum_map_set pending s.requestBatches id bt
    generalize ((s.requestBatches.get? id).map fun old => pending (id, old)).getD 0 = old at hb hm
    refine add_right_cancel (b := old) ?_
    rw [waiting, flatten_append, ← Multiset.coe_add, add_right_comm, hm, add_comm _ old,
      ← hb, ← sn.conserved, waiting]
    abel
  batches e mem := by
    rcases mem_entries_set mem with rfl | old
    · exact hsm
    · exact sn.batches e old
  sent rs mem := (mem_append.mp mem).elim (sn.sent rs) (hs rs)

lemma sound_sendBatch (hu : Unsent s [id]) : Sound n (s.sendBatch id) := by
  rw [sendBatch]
  cases hf : s.requestBatches.get? id with
  | none => exact sn
  | some bh =>
    have hs := sn.batches _ (mem_of_get? hf)
    refine sn.write id { bh with isSent := true } s.added [bh.requests] hs (by simpa using hs) ?_
    simp [hf, pending, hu id mem_cons_self bh hf]

end

lemma get?_sendBatch_of_ne {x : Nat} (ne : x ≠ id) :
    (s.sendBatch id).requestBatches.get? x = s.requestBatches.get? x := by
  rw [sendBatch]
  split
  · exact (get?_set _ _ _ _).trans (if_neg ne.symm)
  · rfl

lemma sound_sendBatches {bs : List Nat} (hd : bs.Nodup) (sn : Sound n s)
    (hu : Unsent s bs) : Sound n (s.sendBatches bs) := by
  induction bs generalizing s with
  | nil => exact sn
  | cons id rest ih =>
    obtain ⟨hfr, hd⟩ := nodup_cons.mp hd
    obtain ⟨first, ho⟩ := forall_mem_cons.mp hu
    refine ih hd (sound_sendBatch sn (forall_mem_singleton.mpr first)) ?_
    intro id' mem
    rw [get?_sendBatch_of_ne (ne_of_mem_of_not_mem mem hfr)]
    exact ho id' mem

lemma sound_remove {g : Nat → RequestBatch → Bool} (sn : Sound n s)
    (hs : AllSent s g) : Sound n (s.remove g) := by
  refine ⟨sn.size, ?_, fun e mem => sn.batches e (mem_of_mem_filter mem), sn.sent⟩
  have hsm : waiting (s.remove g) = waiting s := by
    simp only [waiting, remove, OrderedMap.filter]
    rw [AllSent] at hs
    generalize s.requestBatches.entries = es at hs
    induction es with
    | nil => rfl
    | cons e es ih =>
      obtain ⟨first, r⟩ := forall_mem_cons.mp hs
      cases hr : g e.1 e.2 with
      | false => simp [hr, ih r]
      | true => simp [hr, ih r, pending, first hr]
  rw [hsm]
  exact sn.conserved

/-- A request joins a batch that has room, or a new one. -/
lemma targetBatch_spec (s : State) (p : Priority) (now : Rat) {fr : Nat}
    (hu : fr ∉ s.requestBatches.keys) : (s.requestBatches.get? (s.targetBatch p now fr).1 =
        some (s.targetBatch p now fr).2 ∧
      ((s.targetBatch p now fr).2.requests.length : Rat) < s.config.batchSize) ∨
    (s.requestBatches.get? (s.targetBatch p now fr).1 = none ∧
      (s.targetBatch p now fr).2.requests = []) := by
  rw [targetBatch]
  cases hf : s.requestBatches.entries.find? _ with
  | some e =>
    have hr := find?_some hf
    simp only [Bool.and_eq_true, decide_eq_true_eq] at hr
    exact .inl ⟨get?_of_mem (mem_of_find?_eq_some hf), hr.2⟩
  | none => exact .inr ⟨lookup_of_not_mem hu, rfl⟩

lemma sound_addRequest (sn : Sound n s) (hp : 0 < n) {p : Priority}
    {size : Option Nat} {now : Rat} {fr : Nat} (hu : fr ∉ s.requestBatches.keys)
    (hun : (s.targetBatch p now fr).2.isSent = false) : Sound n (s.addRequest p size now fr) := by
  have ht := targetBatch_spec s p now hu
  rw [addRequest]
  generalize s.targetBatch p now fr = joined at ht hun
  obtain ⟨id, bh⟩ := joined
  dsimp only at ht hun ⊢
  have hr : bh.requests.length + 1 ≤ n := by
    rcases ht with ⟨-, hr⟩ | ⟨-, new⟩
    · rw [sn.size, Nat.cast_lt] at hr
      exact hr
    · rw [new]
      exact hp
  have hb : ((s.requestBatches.get? id).map fun old => pending (id, old)).getD 0 =
      (bh.requests : Multiset Nat) := by
    rcases ht with ⟨hf, -⟩ | ⟨hf, new⟩
    · simp [hf, pending, hun]
    · simp [hf, new]
  have hps := sn.write id { bh with
    requests := bh.requests ++ [s.added]
    size := bh.size + size.getD 0 } (s.added + 1) [] (by simpa using hr)
    (fun _ mem => absurd mem not_mem_nil) (by
      rw [hb, range_succ, pending, if_neg (by simp [hun]), ← Multiset.coe_add,
        ← Multiset.coe_add, flatten_nil, Multiset.coe_nil]
      abel)
  rw [append_nil] at hps
  split
  · rw [flushBatch]
    split
    · refine (sound_sendBatch hps ?_).with_calls _
      intro id' mem sent hf
      rw [mem_singleton.mp mem, mem_def, get?_set, if_pos rfl] at hf
      cases hf
      exact hun
    · exact hps
  · exact hps

lemma sound_step (sn : Sound n s) (hp : 0 < n) {l : Label} {t : State}
    (hca : Careful s l) (hs : s.step l = some t) : Sound n t := by
  cases l with
  | addRequest priority size now fr =>
    rw [step] at hs
    split at hs
    · cases hs
    · cases hs
      exact sound_addRequest sn hp (by assumption) hca
  | flushBatch id =>
    cases hs
    cases id with
    | none => exact (sound_sendBatches s.requestBatches.nodup sn hca).with_calls _
    | some id =>
      rw [flushBatch]
      split
      · exact (sound_sendBatch sn hca).with_calls _
      · exact sn
  | flushOldBatches now =>
    cases hs
    exact (sound_sendBatches (nodup _) sn hca).with_calls _
  | cleanup now =>
    cases hs
    exact sound_remove sn hca
  | resume i =>
    obtain ⟨c, hf, hs⟩ := bind_eq_some_iff.mp hs
    obtain ⟨g, hr, hs⟩ := bind_eq_some_iff.mp hs
    cases hs
    refine (sound_remove sn (hca g ?_)).with_calls _
    rw [hf]
    exact hr

/-- For a whole number as the size, a careful run sends no request twice, loses none and sends no
batch that is too large. -/
theorem sends_each_once {config : RequestBatching} {n : Nat} {labels : List Label} {t : State}
    (whole : config.batchSize = n) (positive : 0 < n)
    (run : Run State.step Careful (constructed config) labels t) :
    ExactlyOnce t ∧ NoneTooLarge t := by
  have hsn := run.invariant (Sound n) (fun _ _ _ hsn hc hs => sound_step hsn positive hc hs)
    ⟨whole, rfl, fun _ mem => absurd mem not_mem_nil, fun _ mem => absurd mem not_mem_nil⟩
  exact ⟨hsn.exactlyOnce, hsn.noneTooLarge⟩

def threes : RequestBatching := ⟨3, 1000, 5000⟩

def add (now : Rat) (fresh : Nat) : Label := .addRequest .normal (some 10) now fresh

/-- One batch is sent as it is full, the other by a flush, and both are removed. -/
theorem twoFlushes_deliver : ∃ t,
    Run State.step Careful (constructed threes)
      [add 0 0, add 1 1, add 2 1, .resume 0, add 3 2, .flushBatch none, .resume 1] t ∧
      (t.sent, t.requestBatches.keys) = ([[0, 1, 2], [3]], []) ∧ ExactlyOnce t ∧ NoneTooLarge t :=
  exists_run (by decide +kernel) fun _ run _ => sends_each_once rfl (by decide) run

/-- The second request joins the batch of the first while its flush is awaited, and is removed. -/
theorem joinedLate_is_lost : ∃ t,
    Run State.step Always (constructed threes)
      [add 0 0, .flushBatch (some 0), add 1 1, .resume 0] t ∧
      t.added = 2 ∧ t.sent = [[0]] ∧ t.requestBatches.values = [] ∧ ¬ ExactlyOnce t := by
  refine exists_run₃ (by decide +kernel) fun t _ added hs hb he => ?_
  have hl := he.lost 1 (by omega)
  simp [hs, hb] at hl

end PerformanceOptimizer
