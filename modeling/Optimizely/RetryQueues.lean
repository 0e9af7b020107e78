import Optimizely.ErrorSteps

/-!
# Retry queues

A retry is scheduled by `recordError`, by the recovery workflow that it executes, and by callers;
nobody asks whether the record is queued already. `processRetryQueue` looks up what is due before it
awaits its writes, so two runs can retry one occurrence. As long as neither happens, a record is
queued at most once, its retry count is the number of times it was taken out of a queue, and stays
within its limit.
-/

namespace RetryQueues

open ErrorHandling TransitionRuns List OrderedMap Service

/-- How often a record occurs in all retry queues together. -/
def occurrences (service : Service) (id : String) : Nat :=
  (service.retryQueues.entries.map fun entry => entry.2.count id).sum

structure RetriesOnce (service : Service) : Prop where
  once : ∀ id, occurrences service id ≤ 1
  counted : ∀ id record, service.errorRecords.get? id = some record →
    record.retryCount = service.removed.count id
  bounded : ∀ id record, service.errorRecords.get? id = some record →
    record.retryCount ≤ record.maxRetries

/-- The record is in no queue, and has a retry left. -/
def Queueable (service : Service) (id : String) : Prop :=
  occurrences service id = 0 ∧
    ∀ record ∈ service.errorRecords.get? id, record.retryCount < record.maxRetries

/-- A record is queued when it is `Queueable`, and what a run found due is still queued when the
run comes to it. -/
def Careful (s : State) : Label → Prop
  | .resume index ok _ _ => ∀ call ∈ s.calls[index]?,
      (∀ id ∈ call.queues ok, Queueable s.service id) ∧
      ∀ next ∈ call.retries ok, next.2 ∈ s.service.queue next.1
  | _ => True

variable {svc t : Service}

lemma occurrences_set (svc : Service) (k : String) (es : List String) (id : String) :
    ((svc.retryQueues.set k es).entries.map fun e => e.2.count id).sum +
      (svc.queue k).count id = occurrences svc id + es.count id := by
  have hs := sum_map_set (fun e : String × List String => e.2.count id) svc.retryQueues k es
  rw [occurrences, ← hs, queue]
  cases svc.retryQueues.get? k <;> simp

lemma count_queue_le_occurrences (svc : Service) (k id : String) :
    (svc.queue k).count id ≤ occurrences svc id := by
  have hs := occurrences_set svc k [] id
  rw [count_nil] at hs
  omega

lemma occurrences_pushRetry (svc : Service) (r : ErrorRecord) (id : String) :
    occurrences (svc.pushRetry r) id = occurrences svc id + if r.id = id then 1 else 0 := by
  have hs := occurrences_set svc r.context.key (svc.queue r.context.key ++ [r.id]) id
  rw [count_append, count_singleton] at hs
  simp only [beq_iff_eq] at hs
  simp only [occurrences, Service.pushRetry] at hs ⊢
  omega

lemma occurrences_retryError {k id : String} (hq : id ∈ svc.queue k) (x : String) :
    occurrences (svc.retryError k id) x + (if id = x then 1 else 0) = occurrences svc x := by
  have hs := occurrences_set svc k ((svc.queue k).erase id) x
  have erased : ((svc.queue k).erase id).count x + (if id = x then 1 else 0) =
      (svc.queue k).count x := by
    have hpos := count_pos_iff.mpr hq
    rw [count_erase]
    by_cases hsm : id = x
    · subst hsm
      simp only [beq_self_eq_true, if_true]
      omega
    · simp [hsm]
  simp only [occurrences, Service.retryError, if_pos hq, same_updateRecord] at hs ⊢
  omega

/-- How often a record has been retried, none if it is not known. -/
def retries (service : Service) (id : String) : Nat :=
  ((service.errorRecords.get? id).map (·.retryCount)).getD 0

/-- Every occurrence in a queue has a retry of its own left. -/
structure Invariant (service : Service) : Prop where
  named : ∀ id record, service.errorRecords.get? id = some record → record.id = id
  known : ∀ id, 0 < occurrences service id → (service.errorRecords.get? id).isSome
  once : ∀ id, occurrences service id ≤ 1
  counted : ∀ id, retries service id = service.removed.count id
  room : ∀ id record, service.errorRecords.get? id = some record →
    record.retryCount + occurrences service id ≤ record.maxRetries

namespace Invariant

variable (inv : Invariant svc)
include inv

lemma retriesOnce : RetriesOnce svc where
  once := inv.once
  counted id r hf := by
    have counted := inv.counted id
    rwa [retries, hf] at counted
  bounded id r hf := by
    have room := inv.room id r hf
    omega

variable {id k : String} {rec r : ErrorRecord} {now : Nat}

lemma of_handles (h : Handles id svc t) : Invariant t := by
  have hs : ∀ x, occurrences t x = occurrences svc x := by
    intro x
    rw [occurrences, occurrences, h.queues]
  constructor
  · exact h.named inv.named
  · intro x hq
    exact h.known (inv.known x (hs x ▸ hq))
  · intro x
    rw [hs]
    exact inv.once x
  · intro x
    rw [h.removed, ← inv.counted x, retries, retries]
    by_cases hh : x = id
    · subst hh
      have hk := congrArg (Option.map fun c => c.2.2.1) h.core
      simp only [Option.map_map] at hk
      exact congrArg (·.getD 0) hk
    · rw [h.others x hh]
  · intro x r hf
    obtain ⟨old, hst, c⟩ := h.found hf
    simp only [ErrorRecord.core, Prod.mk.injEq] at c
    rw [hs, c.2.2.1, c.2.2.2]
    exact inv.room x old hst

lemma pushRetry (hf : svc.errorRecords.get? id = some r) (hqb : Queueable svc id) :
    Invariant (svc.pushRetry r) := by
  have hn := inv.named id r hf
  have hc := occurrences_pushRetry svc r
  simp only [hn] at hc
  constructor
  · exact inv.named
  · intro x hq
    by_cases hs : id = x
    · subst hs
      simp [Service.pushRetry, hf]
    · rw [hc, if_neg hs] at hq
      exact inv.known x hq
  · intro x
    rw [hc]
    by_cases hs : id = x
    · subst hs
      simp [hqb.1]
    · simpa [hs] using inv.once x
  · exact inv.counted
  · intro x r' hf'
    rw [hc]
    by_cases hs : id = x
    · subst hs
      have left := hqb.2 r' hf'
      simp only [hqb.1, if_true]
      omega
    · simpa [hs] using inv.room x r' hf'

lemma retryError (hq : id ∈ svc.queue k) : Invariant (svc.retryError k id) := by
  have hc := occurrences_retryError hq
  have hr : ∀ x, (svc.retryError k id).errorRecords.get? x =
      if id = x then (svc.errorRecords.get? x).map fun r =>
        { r with retryCount := r.retryCount + 1, status := .active, nextRetryAt := none }
      else svc.errorRecords.get? x :=
    get?_updateRecord svc id _
  have hh : 0 < occurrences svc id := by
    have hp := count_pos_iff.mpr hq
    have hb := count_queue_le_occurrences svc k id
    omega
  constructor
  · exact named_retryError inv.named k id
  · intro x hp
    have hb := hc x
    have hkn := inv.known x (by omega)
    rw [hr]
    by_cases hs : id = x <;> simpa [hs] using hkn
  · intro x
    have hb := hc x
    have once := inv.once x
    omega
  · intro x
    have hrm : (svc.retryError k id).removed = svc.removed ++ [id] := by
      simp [Service.retryError, hq]
    have hct := inv.counted x
    rw [hrm, count_append, count_singleton, ← hct, retries, hr]
    by_cases hs : id = x
    · subst hs
      obtain ⟨r, hf⟩ := Option.isSome_iff_exists.mp (inv.known id hh)
      simp [retries, hf]
    · simp [retries, hs]
  · intro x r hf
    have hb := hc x
    rw [hr] at hf
    by_cases hs : id = x
    · subst hs
      rw [if_pos rfl] at hf
      obtain ⟨old, hst, rfl⟩ := Option.map_eq_some_iff.mp hf
      have hro := inv.room id old hst
      simp only [if_true] at hb
      dsimp only
      omega
    · rw [if_neg hs] at hf
      have hro := inv.room x r hf
      omega

lemma recordError (hfr : svc.errorRecords.get? id = none) (n : r.id = id) (hu : r.retryCount = 0) :
    Invariant { svc with errorRecords := svc.errorRecords.set id r } := by
  have hn : occurrences svc id = 0 := by
    by_contra hq
    have hkn := inv.known id (by omega)
    simp [hfr] at hkn
  have hnv : svc.removed.count id = 0 := by
    rw [← inv.counted id, retries, hfr]
    rfl
  constructor
  · intro x r' hf
    rw [get?_set] at hf
    by_cases hs : id = x
    · rw [if_pos hs] at hf
      cases hf
      exact n.trans hs
    · rw [if_neg hs] at hf
      exact inv.named x r' hf
  · intro x hq
    rw [get?_set]
    by_cases hs : id = x
    · simp [hs]
    · simpa [hs] using inv.known x hq
  · exact inv.once
  · intro x
    rw [retries, get?_set]
    by_cases hs : id = x
    · subst hs
      simp [hu, hnv]
    · rw [if_neg hs]
      exact inv.counted x
  · intro x r' hf
    rw [get?_set] at hf
    by_cases hs : id = x
    · subst hs
      rw [if_pos rfl] at hf
      cases hf
      have none' : occurrences { svc with errorRecords := svc.errorRecords.set id r } id = 0 := hn
      rw [hu, none']
      exact Nat.zero_le _
    · rw [if_neg hs] at hf
      exact inv.room x r' hf

lemma continueRun {rd : List String} {pos : Nat}
    (hca : ∀ id rs, rd = id :: rs → id ∈ svc.queue k) :
    Invariant (svc.continueRun now k rd pos).1 := by
  rcases continueRun_cases k rd pos with hs | ⟨f, id, hq, r⟩ | ⟨id, rs, next, r⟩
  · rwa [hs]
  · rw [r]
    exact inv.retryError hq
  · rw [r]
    exact inv.retryError (hca id rs next)

lemma resumeCall {c next : Call} {ok : Bool} {rn : Rat} (hqb : ∀ id ∈ c.queues ok, Queueable svc id)
    (hq : ∀ next ∈ c.retries ok, next.2 ∈ svc.queue next.1)
    (hr : svc.resumeCall c ok now rn = some (t, next)) : Invariant t := by
  rcases resumeCall_cases hr with ⟨id, ho⟩ | ⟨run, rfl, rs⟩
  · obtain ⟨r, hf, hwo⟩ := works_resumeCall ho hr
    cases hp : c.queues ok with
    | none =>
      rw [afterQueueing_of_none hp] at hwo
      exact inv.of_handles hwo.toHandles
    | some id' =>
      have hs : id' = id := Call.owner_of_queues hp ho
      subst hs
      rw [afterQueueing_of_some hp] at hwo
      exact (inv.pushRetry hf (hqb id' hp)).of_handles hwo.toHandles
  · rcases resumeRun_cases rs with ⟨rfl, -⟩ | ⟨w, rfl, rfl, rfl⟩
    · exact inv
    · refine inv.continueRun fun id rest next => ?_
      obtain ⟨now', k, rd, pos, write'⟩ := run
      cases w
      cases next
      exact hq (k, id) rfl

end Invariant

lemma invariant_step {s t : State} {l : Label} (inv : Invariant s.service)
    (hca : Careful s l) (hs : s.step l = some t) : Invariant t.service := by
  cases steps_of_step hs with
  | recordError hfr => exact inv.recordError hfr rfl rfl
  | scheduleRetry => exact inv.of_handles (works_scheduleRetry ..).toHandles
  | resolveNothing => exact inv
  | resolveError => exact inv.of_handles (handles_resolveError ..)
  | escalateError => exact inv.of_handles (works_escalateError ..).toHandles
  | executeRecoveryWorkflow =>
    exact inv.of_handles (piece_executeRecoveryWorkflow ..).works.toHandles
  | processRetryQueue => exact inv.continueRun fun id rest none' => by cases none'
  | addFallbackStrategy | addRecoveryWorkflow => exact inv.of_handles (.of_records "" rfl rfl rfl)
  | resume hp hr =>
    obtain ⟨hqb, hq⟩ := hca _ hp
    exact inv.resumeCall hqb hq hr

lemma invariant_launched (ss : OrderedMap String FallbackStrategy)
    (ws : OrderedMap String RecoveryWorkflow) : Invariant (launched ss ws).service := by
  have hu : ∀ id, (launched ss ws).service.errorRecords.get? id = none := fun _ => rfl
  constructor
  · intro id r hf
    simp [hu] at hf
  · intro id hq
    simp [occurrences, launched, empty] at hq
  · intro id
    simp [occurrences, launched, empty]
  · intro id
    rfl
  · intro id r hf
    simp [hu] at hf

theorem retriesOnce_of_careful (strategies : OrderedMap String FallbackStrategy)
    (workflows : OrderedMap String RecoveryWorkflow) {labels : List Label} {t : State}
    (run : Run State.step Careful (launched strategies workflows) labels t) :
    RetriesOnce t.service := by
  have inv := run.invariant (fun s => Invariant s.service)
    (fun _ _ _ inv hc hs => invariant_step inv hc hs)
    (invariant_launched strategies workflows)
  exact inv.retriesOnce

deriving instance Decidable for Queueable

instance (s : State) (label : Label) : Decidable (Careful s label) := by
  induction label using Label.casesOn <;> dsimp only [Careful] <;> infer_instance

/-- Occurrences in the queues, retry counts and limits. -/
def retriesOf (s : State) (id : String) : Nat × Option (Nat × Nat) :=
  (occurrences s.service id,
    (s.service.errorRecords.get? id).map fun record => (record.retryCount, record.maxRetries))

/-- An error of the default category is recorded and retried when it is due. -/
def recordAndRetry : List Label := List.flatten
  [[.recordError "e1" (.text "boom") crmSync none 1000], replies 0 5 1000,
    [.processRetryQueue 2000], replies 1 2 2000]

theorem recordAndRetry_retries_once : ∃ t,
    Run State.step Careful defaults recordAndRetry t ∧ retriesOf t "e1" = (0, some (1, 3)) ∧
      RetriesOnce t.service :=
  exists_run (by decide +kernel) fun _ run _ => retriesOnce_of_careful _ _ run

/-- A network error is recorded: `recordError` schedules a retry, and so does the recovery
workflow for network errors. -/
def recordNetworkError : List Label := List.flatten
  [[.recordError "e1" (.text "Connection refused") crmSync none 1000], replies 0 8 1000]

theorem recordNetworkError_queues_twice : ∃ t,
    Run State.step Always defaults recordNetworkError t ∧ occurrences t.service "e1" = 2 ∧
      ¬ RetriesOnce t.service := by
  refine exists_run (by decide +kernel) fun t _ twice hr => ?_
  have once := hr.once "e1"
  omega

end RetryQueues
