import Mathlib.Algebra.Order.Field.Rat
import Optimizely.OrderedMap
import Optimizely.TransitionRuns

/-!
# Request batching of the tracker

Requests join the first batch of their priority that has room. A batch is sent when it is full or
old, or flushed; it is removed once the send has been awaited. Until then it is open for further
requests and flushes.
-/

namespace PerformanceOptimizer

inductive Priority where
  | low
  | normal
  | high
  | critical
  deriving DecidableEq

structure RequestBatching where
  batchSize : Rat
  flushInterval : Rat
  maxBatchAge : Rat
  deriving DecidableEq

/-- Requests are named by their numbers. `isSent` is a history. -/
structure RequestBatch where
  requests : List Nat
  size : Nat
  priority : Priority
  createdAt : Rat
  flushAt : Rat
  isSent : Bool
  deriving DecidableEq

/-- A call of `flushBatch` after its sends: what is left is to remove one batch, or all. -/
inductive Call where
  | deleting (batchId : Nat)
  | clearing
  | done
  deriving DecidableEq

/-- `flushBatch` after its await removes these batches. -/
def Call.removes : Call → Option (Nat → RequestBatch → Bool)
  | .deleting batchId => some fun id _ => id = batchId
  | .clearing => some fun _ _ => true
  | .done => none

/-- `added`, how many requests there were, and `sent`, the requests of each batch that was sent,
are histories. -/
structure State where
  config : RequestBatching
  requestBatches : OrderedMap Nat RequestBatch
  calls : List Call
  added : Nat
  sent : List (List Nat)
  deriving DecidableEq

def constructed (config : RequestBatching) : State := ⟨config, .empty, [], 0, []⟩

namespace State

/-- `_sendBatch`, which emits an event and does not change the batch. -/
def sendBatch (s : State) (batchId : Nat) : State :=
  match s.requestBatches.get? batchId with
  | some batch => { s with
      requestBatches := s.requestBatches.set batchId { batch with isSent := true }
      sent := s.sent ++ [batch.requests] }
  | none => s

def sendBatches (s : State) (batchIds : List Nat) : State := batchIds.foldl sendBatch s

def remove (s : State) (gone : Nat → RequestBatch → Bool) : State :=
  { s with requestBatches := s.requestBatches.filter fun id batch => !gone id batch }

/-- `flushBatch` up to its await. -/
def flushBatch (s : State) : Option Nat → State
  | some batchId =>
    if (s.requestBatches.get? batchId).isSome then
      { s.sendBatch batchId with calls := s.calls ++ [.deleting batchId] }
    else s
  | none => { s.sendBatches s.requestBatches.keys with calls := s.calls ++ [.clearing] }

/-- The batch that a request joins: one with room, or a new one with the id `fresh`. -/
def targetBatch (s : State) (priority : Priority) (now : Rat) (fresh : Nat) : Nat × RequestBatch :=
  (s.requestBatches.entries.find? fun entry => entry.2.priority = priority &&
    (entry.2.requests.length : Rat) < s.config.batchSize).getD
    (fresh, ⟨[], 0, priority, now, now + s.config.flushInterval, false⟩)

/-- `addRequest`, where `size` is the length of the JSON of the data. There is none for data without
JSON, and the call throws when the request is in the batch. -/
def addRequest (s : State) (priority : Priority) (size : Option Nat) (now : Rat) (fresh : Nat) :
    State :=
  let (batchId, batch) := s.targetBatch priority now fresh
  let pushed : State := { s with
    requestBatches := s.requestBatches.set batchId { batch with
      requests := batch.requests ++ [s.added]
      size := batch.size + size.getD 0 }
    added := s.added + 1 }
  if size.isSome && s.config.batchSize ≤ ((batch.requests.length + 1 : Nat) : Rat) then
    pushed.flushBatch (some batchId)
  else pushed

def oldBatches (s : State) (now : Rat) : List Nat :=
  (s.requestBatches.filter fun _ batch => batch.flushAt ≤ now).keys

/-- `_flushOldBatches` calls `flushBatch` for each of the old batches. -/
def flushOldBatches (s : State) (now : Rat) : State :=
  { s.sendBatches (s.oldBatches now) with
    calls := s.calls ++ (s.oldBatches now).map .deleting }

def isExpired (s : State) (now : Rat) (batch : RequestBatch) : Bool :=
  batch.createdAt < now - s.config.maxBatchAge

end State

inductive Label where
  | addRequest (priority : Priority) (size : Option Nat) (now : Rat) (fresh : Nat)
  | flushBatch (batchId : Option Nat)
  | flushOldBatches (now : Rat)
  | cleanup (now : Rat)
  | resume (index : Nat)
  deriving DecidableEq

/-- `generateId` gives an id that no batch has. -/
def State.step (s : State) : Label → Option State
  | .addRequest priority size now fresh =>
    if fresh ∈ s.requestBatches.keys then none else some (s.addRequest priority size now fresh)
  | .flushBatch batchId => some (s.flushBatch batchId)
  | .flushOldBatches now => some (s.flushOldBatches now)
  | .cleanup now => some (s.remove fun _ batch => s.isExpired now batch)
  | .resume index => do
    let gone ← (← s.calls[index]?).removes
    some { s.remove gone with calls := s.calls.set index .done }

end PerformanceOptimizer
