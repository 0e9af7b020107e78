import Optimizely.ErrorHandling
import Optimizely.TaskLists

/-!
# What the calls of the error handling service do to records and queues

Up to its next await a call handles a single record. It may mark it, and leaves the retry counts and
the queues alone, but for the moment at which `scheduleRetry` queues the record. Only
`processRetryQueue` counts a retry and takes a record out of a queue.
-/

namespace ErrorHandling

open List Option OrderedMap Service

/-- What no call changes in a record that it handles. -/
def ErrorRecord.core (record : ErrorRecord) : String × ErrorContext × Nat × Nat :=
  (record.id, record.context, record.retryCount, record.maxRetries)

def Service.statusOf (service : Service) (id : String) : Option RecordStatus :=
  (service.errorRecords.get? id).map (·.status)

structure Handles (id : String) (before after : Service) : Prop where
  queues : after.retryQueues = before.retryQueues
  removed : after.removed = before.removed
  others : ∀ other, other ≠ id →
    after.errorRecords.get? other = before.errorRecords.get? other
  core : (after.errorRecords.get? id).map (·.core) = (before.errorRecords.get? id).map (·.core)

namespace Handles

variable {a b : Service} {id x : String}

lemma of_records (id : String) (hr : a.errorRecords = b.errorRecords)
    (queues : a.retryQueues = b.retryQueues) (removed : a.removed = b.removed) :
    Handles id b a where
  queues := queues
  removed := removed
  others := by simp [hr]
  core := by simp [hr]

lemma trans {first se t : Service} (h : Handles id first se)
    (h' : Handles id se t) : Handles id first t where
  queues := h'.queues.trans h.queues
  removed := h'.removed.trans h.removed
  others x hne := (h'.others x hne).trans (h.others x hne)
  core := h'.core.trans h.core

lemma found (h : Handles id b a) {rec : ErrorRecord} (hf : a.errorRecords.get? x = some rec) :
    ∃ old, b.errorRecords.get? x = some old ∧ rec.core = old.core := by
  by_cases hs : x = id
  · subst hs
    have hk := h.core
    simp only [hf, map_some] at hk
    obtain ⟨old, hst, hc⟩ := map_eq_some_iff.mp hk.symm
    exact ⟨old, hst, hc.symm⟩
  · exact ⟨rec, (h.others x hs) ▸ hf, rfl⟩

lemma known (h : Handles id b a) (hkn : (b.errorRecords.get? x).isSome) :
    (a.errorRecords.get? x).isSome := by
  by_cases hs : x = id
  · subst hs
    have hk := congrArg isSome h.core
    simp only [isSome_map] at hk
    exact hk ▸ hkn
  · exact (h.others x hs) ▸ hkn

end Handles

def Service.Named (service : Service) : Prop :=
  ∀ id record, service.errorRecords.get? id = some record → record.id = id

lemma Handles.named {id : String} {b a : Service} (h : Handles id b a)
    (hn : b.Named) : a.Named := by
  intro x rec hf
  obtain ⟨old, hst, hc⟩ := h.found hf
  simp only [ErrorRecord.core, Prod.mk.injEq] at hc
  exact hc.1.trans (hn x old hst)

/-- A piece of work on a record, which does not resolve it. -/
structure Works (id : String) (before after : Service) : Prop extends Handles id before after where
  unresolved : after.statusOf id = some .resolved → before.statusOf id = some .resolved

namespace Works

variable {a b : Service}

lemma of_records (id : String) (hr : a.errorRecords = b.errorRecords)
    (hq : a.retryQueues = b.retryQueues) (hrm : a.removed = b.removed) : Works id b a where
  toHandles := .of_records id hr hq hrm
  unresolved := by simp [statusOf, hr]

lemma refl (id : String) (svc : Service) : Works id svc svc := of_records id rfl rfl rfl

lemma resolved {id : String} (h : Works id b a) {x : String} (hrs : a.statusOf x = some .resolved) :
    b.statusOf x = some .resolved := by
  by_cases hs : x = id
  · subst hs
    exact h.unresolved hrs
  · rwa [statusOf, h.others x hs] at hrs

end Works

namespace Service

section

variable (svc : Service) (id : String) (change : ErrorRecord → ErrorRecord)

lemma get?_updateRecord (x : String) : (svc.updateRecord id change).errorRecords.get? x =
      if id = x then (svc.errorRecords.get? x).map change else svc.errorRecords.get? x := by
  rw [updateRecord]
  split
  · rename_i hab
    by_cases hs : id = x
    · subst hs
      simp [hab]
    · simp [hs]
  · rename_i rec hst
    by_cases hs : id = x
    · subst hs
      simp [get?_set, hst]
    · simp [get?_set, hs]

@[simp] lemma same_updateRecord : (svc.updateRecord id change).retryQueues = svc.retryQueues ∧
      (svc.updateRecord id change).removed = svc.removed ∧
      (svc.updateRecord id change).fallbacks = svc.fallbacks := by
  rw [updateRecord]
  split <;> exact ⟨rfl, rfl, rfl⟩

lemma handles_updateRecord (core : ∀ rec, (change rec).core = rec.core) :
    Handles id svc (svc.updateRecord id change) where
  queues := (same_updateRecord svc id change).1
  removed := (same_updateRecord svc id change).2.1
  others := by
    intro x hne
    rw [get?_updateRecord, if_neg (Ne.symm hne)]
  core := by
    rw [get?_updateRecord, if_pos rfl, Option.map_map]
    cases svc.errorRecords.get? id with
    | none => rfl
    | some rec => exact congrArg some (core rec)

lemma statusOf_updateRecord (x : String) : (svc.updateRecord id change).statusOf x =
      if id = x then (svc.errorRecords.get? x).map fun rec => (change rec).status
      else svc.statusOf x := by
  rw [statusOf, get?_updateRecord]
  by_cases hs : id = x
  · simp [hs, Function.comp_def]
  · simp [hs, statusOf]

end

variable (svc : Service) (rec : ErrorRecord)

lemma works_scheduleRetry (s : PartialStrategy) (now : Nat) (r : Rat) :
    Works rec.id svc (svc.scheduleRetry rec s now r).1 := by
  rw [scheduleRetry]
  split <;>
    · refine ⟨handles_updateRecord svc rec.id _ fun _ => rfl, ?_⟩
      simp [statusOf_updateRecord]

lemma handles_resolveError (r : String) (now : Nat) :
    Handles rec.id svc (svc.resolveError rec r now).1 :=
  handles_updateRecord svc rec.id _ fun _ => rfl

lemma statusOf_escalateError (id : String) :
    (svc.escalateError rec).statusOf id = svc.statusOf id := by
  refine (statusOf_updateRecord svc rec.id _ id).trans ?_
  by_cases hh : rec.id = id
  · rw [if_pos hh]
    rfl
  · rw [if_neg hh]

lemma works_escalateError : Works rec.id svc (svc.escalateError rec) := by
  refine ⟨.trans (handles_updateRecord svc rec.id _ ?_) (.of_records rec.id rfl rfl rfl), ?_⟩
  · exact fun _ => rfl
  · rw [statusOf_escalateError]
    exact id

lemma works_executeRecoveryStep (s : RecoveryStep) (now : Nat) (r : Rat) :
    Works rec.id svc (svc.executeRecoveryStep rec s now r).1 := by
  rw [executeRecoveryStep]
  split
  · exact works_scheduleRetry svc rec noStrategy now r
  · exact .of_records rec.id rfl rfl rfl
  · exact .of_records rec.id rfl rfl rfl
  · exact works_escalateError svc rec
  · exact .refl rec.id svc

/-- The calls that work on a record leads to. -/
inductive WorkingOn (id : String) : Call → Prop where
  | record (stage : RecordStage) : WorkingOn id (.record id stage)
  | recovering (recovery : Recovery) (wait : StepWait) : WorkingOn id (.recovering id recovery wait)
  | scheduling (stage : RetryStage) : WorkingOn id (.scheduling id stage)
  | recovered (request : Request) (ran : List (RecoveryWorkflow × List Bool)) :
    WorkingOn id (.recovered id request ran)
  | ended : WorkingOn id .ended

structure Piece (record : ErrorRecord) (before : Service) (result : Service × Call) : Prop where
  works : Works record.id before result.1
  working : WorkingOn record.id result.2

lemma piece_continueRecovery (c : Cursor) (now : Nat) (rn : Rat) :
    Piece rec svc (svc.continueRecovery rec c now rn) := by
  cases c with
  | finished r ran => exact ⟨.refl rec.id svc, .recovered r ran⟩
  | inside rv => exact ⟨works_executeRecoveryStep svc rec rv.step now rn, .recovering rv _⟩

lemma piece_executeRecoveryWorkflow (now : Nat) (r : Rat) :
    Piece rec svc (svc.executeRecoveryWorkflow rec now r) :=
  piece_continueRecovery svc rec _ now r

lemma piece_retryOrRecover (now : Nat) (r : Rat) :
    Piece rec svc (svc.retryOrRecover rec now r) := by
  rw [retryOrRecover]
  split
  · exact ⟨works_scheduleRetry svc rec noStrategy now r, .record _⟩
  · exact piece_executeRecoveryWorkflow svc rec now r

end Service

namespace Call

def owner : Call → Option String
  | .record id _ => some id
  | .recovering id _ _ => some id
  | .scheduling id _ => some id
  | .resolving id _ => some id
  | _ => none

/-- The record that the call queues when it goes on with this reply. -/
def queues : Call → Bool → Option String
  | .record id (.scheduling (.queueing .expire)), true => some id
  | .recovering id _ (.retry (.queueing .expire)), true => some id
  | .scheduling id (.queueing .expire), true => some id
  | _, _ => none

lemma owner_of_queues {c : Call} {ok : Bool} {q id : String}
    (hqs : c.queues ok = some q) (ho : c.owner = some id) : q = id := by
  unfold Call.queues at hqs
  split at hqs <;> cases hqs <;> cases ho <;> rfl

/-- What a run of `processRetryQueue` found due before its last await and still has to retry. -/
def ready : Call → List String
  | .processing run => run.ready
  | _ => []

/-- The queue and the error that a run goes on with, chosen before its last await. -/
def retries : Call → Bool → Option (String × String)
  | .processing ⟨_, key, id :: _, _, .expire⟩, true => some (key, id)
  | _, _ => none

end Call

namespace Service

variable {s svc after : Service} {record rec : ErrorRecord} {ok : Bool} {now : Nat}
  {rn : Rat}

/-- The service once the call has queued what it queues with this reply. -/
def afterQueueing (service : Service) (call : Call) (ok : Bool) (record : ErrorRecord) : Service :=
  if (call.queues ok).isSome then service.pushRetry record else service

variable {call c next : Call} {id : String}

lemma afterQueueing_of_none (hqu : c.queues ok = none) : svc.afterQueueing c ok rec = svc := by
  simp [afterQueueing, hqu]

lemma afterQueueing_of_some (hq : c.queues ok = some id) :
    svc.afterQueueing c ok rec = svc.pushRetry rec := by
  simp [afterQueueing, hq]

/-- `scheduleRetry` queues the record with its last reply and changes nothing otherwise. -/
lemma resumeRetry_fst (id : String) (sg : RetryStage) : (svc.resumeRetry rec sg ok).1 =
      svc.afterQueueing (.scheduling id sg) ok rec := by
  cases sg with
  | failing write | queueing write => cases write <;> cases ok <;> rfl

lemma piece_resumeRecord (id : String) (sg : RecordStage) :
    Piece rec (svc.afterQueueing (.record id sg) ok rec) (svc.resumeRecord rec sg ok now rn) := by
  cases sg with
  | persisting w =>
    cases ok with
    | false => cases w <;> exact ⟨.refl rec.id svc, .ended⟩
    | true => cases w <;> exact ⟨.of_records rec.id rfl rfl rfl, .record _⟩
  | updatingBreaker =>
    rw [afterQueueing_of_none rfl]
    cases ok with
    | false => exact ⟨.refl rec.id svc, .ended⟩
    | true =>
      simp only [resumeRecord]
      split
      · exact ⟨.of_records rec.id rfl rfl rfl, .record _⟩
      · exact piece_retryOrRecover svc rec now rn
  | notifying =>
    cases ok <;> exact piece_retryOrRecover svc rec now rn
  | scheduling sg =>
    have hq : (svc.resumeRetry rec sg ok).1 =
        svc.afterQueueing (.record id (.scheduling sg)) ok rec := by
      rw [resumeRetry_fst id]
      cases sg with
      | failing w => cases ok <;> rfl
      | queueing w => cases w <;> cases ok <;> rfl
    rw [← hq]
    simp only [resumeRecord]
    split <;> rename_i hr <;> rw [hr]
    · exact ⟨.refl rec.id _, .record _⟩
    · exact piece_executeRecoveryWorkflow _ rec now rn
    · exact ⟨.refl rec.id _, .ended⟩

lemma resumeStep_fst (id : String) (rv : Recovery) (w : StepWait) :
    (svc.resumeStep rec w ok).1 = svc.afterQueueing (.recovering id rv w) ok rec := by
  cases w with
  | retry sg =>
    cases sg with
    | failing write | queueing write => cases write <;> cases ok <;> rfl
  | command | turn _ => rfl

lemma piece_resumeRecovery (id : String) (rv : Recovery) (w : StepWait) :
    Piece rec (svc.afterQueueing (.recovering id rv w) ok rec)
      (svc.resumeRecovery rec rv w ok now rn) := by
  rw [← resumeStep_fst]
  simp only [resumeRecovery]
  split <;> rename_i hr <;> rw [hr]
  · exact ⟨.refl rec.id _, .recovering rv _⟩
  · exact piece_continueRecovery _ rec _ now rn

section

variable (ho : c.owner = some id) (hr : svc.resumeCall c ok now rn = some (after, next))
include ho hr

/-- A call about a record handles that record, and may have queued it before; `resolveError` only
waits. -/
lemma piece_resumeCall : ∃ record, svc.errorRecords.get? id = some record ∧
      (Works record.id (svc.afterQueueing c ok record) after ∧
          (WorkingOn record.id next ∨ WorkingOn id next) ∨
        (∃ w, c = .resolving id w) ∧ after = svc ∧ (next = .ended ∨
          next = .resolving id .expire ∨ next = .resolved id record.retryCount)) := by
  cases c with
  | record id' sg =>
    cases ho
    obtain ⟨record, hf, r⟩ := map_eq_some_iff.mp hr
    have p : Piece record _ (svc.resumeRecord record sg ok now rn) := piece_resumeRecord id sg
    rw [r] at p
    exact ⟨record, hf, .inl ⟨p.works, .inl p.working⟩⟩
  | recovering id' rv wt =>
    cases ho
    obtain ⟨record, hf, r⟩ := map_eq_some_iff.mp hr
    have p : Piece record _ (svc.resumeRecovery record rv wt ok now rn) :=
      piece_resumeRecovery id rv wt
    rw [r] at p
    exact ⟨record, hf, .inl ⟨p.works, .inl p.working⟩⟩
  | scheduling id' sg =>
    cases ho
    obtain ⟨record, hf, r⟩ := map_eq_some_iff.mp hr
    refine ⟨record, hf, .inl ?_⟩
    rw [← resumeRetry_fst id]
    split at r <;> rename_i hs <;> rw [hs] <;> cases r
    · exact ⟨.refl record.id _, .inr (.scheduling _)⟩
    · exact ⟨.refl record.id _, .inr .ended⟩
  | resolving id' w =>
    cases ho
    obtain ⟨record, hf, r⟩ := map_eq_some_iff.mp hr
    refine ⟨record, hf, .inr ⟨⟨w, rfl⟩, ?_⟩⟩
    cases w <;> cases ok <;> cases r <;> simp
  | processing _ | recovered _ _ _ | resolved _ _ | ended => cases ho

lemma works_resumeCall : ∃ r, svc.errorRecords.get? id = some r ∧
      Works r.id (svc.afterQueueing c ok r) after := by
  obtain ⟨r, hf, ⟨hwo, -⟩ | ⟨⟨write, rfl⟩, rfl, -⟩⟩ := piece_resumeCall ho hr
  · exact ⟨r, hf, hwo⟩
  · exact ⟨r, hf, .refl r.id after⟩

end

lemma findReady_mem {pos p' : Nat} {q : List (String × List String)}
    {k : String} {rd : List String} (hf : svc.findReady now pos q = some (p', k, id, rd)) :
    ∃ errors, (k, errors) ∈ q ∧ id ∈ errors ∧ ∀ x ∈ rd, x ∈ errors := by
  induction q generalizing pos with
  | nil => cases hf
  | cons e q ih =>
    obtain ⟨key', errors⟩ := e
    simp only [findReady] at hf
    split at hf
    · obtain ⟨e', mem, r⟩ := ih hf
      exact ⟨e', mem_cons_of_mem _ mem, r⟩
    · rename_i due
      cases hf
      have mem : ∀ x ∈ id :: rd, x ∈ errors := by
        intro x hin
        rw [← due] at hin
        exact mem_of_mem_filter hin
      exact ⟨errors, mem_cons_self, mem id mem_cons_self,
        fun x hin => mem x (mem_cons_of_mem _ hin)⟩

/-- What a run of `processRetryQueue` does up to its next await: nothing, or it retries an error
that it has just found in a queue, or one it has found there before. -/
lemma continueRun_cases (k : String) (rd : List String) (pos : Nat) :
    (svc.continueRun now k rd pos).1 = svc ∨ (∃ f id, id ∈ svc.queue f ∧
      (svc.continueRun now k rd pos).1 = svc.retryError f id) ∨ (∃ id r, rd = id :: r ∧
      (svc.continueRun now k rd pos).1 = svc.retryError k id) := by
  cases rd with
  | cons id r => exact .inr (.inr ⟨id, r, rfl, rfl⟩)
  | nil =>
    simp only [continueRun]
    split
    · exact .inl rfl
    · rename_i position' key' id r f
      obtain ⟨errors, mem, hin, -⟩ := findReady_mem f
      have hst := get?_of_mem (mem_of_mem_drop mem)
      exact .inr (.inl ⟨key', id, by simpa [queue, hst] using hin, rfl⟩)

lemma resumeRun_cases {run : RetryRun} (r : svc.resumeRun run ok = (after, next)) :
    after = svc ∧ (next = .ended ∨ next = .processing { run with write := .expire }) ∨
      run.write = .expire ∧ ok = true ∧
        after = (svc.continueRun run.now run.key run.ready run.position).1 ∧
        next = (svc.continueRun run.now run.key run.ready run.position).2 := by
  obtain ⟨now, k, rd, pos, write⟩ := run
  cases ok with
  | false =>
    cases r
    exact .inl ⟨rfl, .inl rfl⟩
  | true =>
    cases write with
    | hset =>
      cases r
      exact .inl ⟨rfl, .inr rfl⟩
    | expire => exact .inr ⟨rfl, rfl, (congrArg Prod.fst r).symm, (congrArg Prod.snd r).symm⟩

/-- A call that goes on is about one error, or is a run over the retry queues. -/
lemma resumeCall_cases (hr : svc.resumeCall c ok now rn = some (after, next)) :
    (∃ id, c.owner = some id) ∨
      ∃ run, c = .processing run ∧ svc.resumeRun run ok = (after, next) := by
  cases c with
  | record id _ | recovering id _ _ | scheduling id _ | resolving id _ => exact .inl ⟨id, rfl⟩
  | processing run => exact .inr ⟨run, rfl, some.inj hr⟩
  | recovered | resolved | ended => cases hr

lemma named_retryError (hn : svc.Named) (k id : String) : (svc.retryError k id).Named := by
  intro x rec hf
  have hst := hf.symm.trans (get?_updateRecord svc id _ x)
  split at hst
  · obtain ⟨old, b, rfl⟩ := map_eq_some_iff.mp hst.symm
    exact hn x old b
  · exact hn x rec hst.symm

lemma named_continueRun (hn : svc.Named) (k : String) (rd : List String)
    (pos : Nat) : (svc.continueRun now k rd pos).1.Named := by
  rcases continueRun_cases k rd pos with hs | ⟨f, id, -, r⟩ | ⟨id, rest, -, r⟩
  · rwa [hs]
  · rw [r]
    exact named_retryError hn f id
  · rw [r]
    exact named_retryError hn k id

lemma named_resumeCall (hn : svc.Named)
    (hr : svc.resumeCall c ok now rn = some (after, next)) : after.Named := by
  rcases resumeCall_cases hr with ⟨id, ho⟩ | ⟨run, rfl, r⟩
  · obtain ⟨rec, found, hwo⟩ := works_resumeCall ho hr
    refine hwo.toHandles.named ?_
    rw [afterQueueing]
    split <;> exact hn
  · rcases resumeRun_cases r with ⟨rfl, -⟩ | ⟨-, -, rfl, rfl⟩
    · exact hn
    · exact named_continueRun hn run.key run.ready run.position

end Service

inductive Steps (s : State) : Label → State → Prop where
  | recordError {id : String} {error : ErrorInput} {context : ErrorContext}
      {classification : Option PartialClassification} {now : Nat}
      (fresh : s.service.errorRecords.get? id = none) :
      Steps s (.recordError id error context classification now)
        (s.begin ({ s.service with
          errorRecords := s.service.errorRecords.set id
            (newRecord id error context classification now) },
          .record id (.persisting .hset)))
  | scheduleRetry {id : String} {strategy : PartialStrategy} {now : Nat} {random : Rat}
      {record : ErrorRecord} (found : s.service.errorRecords.get? id = some record) :
      Steps s (.scheduleRetry id strategy now random)
        (s.begin ((s.service.scheduleRetry record strategy now random).1,
          .scheduling id (s.service.scheduleRetry record strategy now random).2))
  | resolveNothing {id resolution : String} {now : Nat} :
      Steps s (.resolveError id resolution now) s
  | resolveError {id resolution : String} {now : Nat} {record : ErrorRecord}
      (found : s.service.errorRecords.get? id = some record) :
      Steps s (.resolveError id resolution now)
        (s.begin (s.service.resolveError record resolution now))
  | escalateError {id : String} {record : ErrorRecord}
      (found : s.service.errorRecords.get? id = some record) :
      Steps s (.escalateError id) (s.begin (s.service.escalateError record, .ended))
  | executeRecoveryWorkflow {id : String} {now : Nat} {random : Rat} {record : ErrorRecord}
      (found : s.service.errorRecords.get? id = some record) :
      Steps s (.executeRecoveryWorkflow id now random)
        (s.begin (s.service.executeRecoveryWorkflow record now random))
  | processRetryQueue {now : Nat} :
      Steps s (.processRetryQueue now) (s.begin (s.service.continueRun now "" [] 0))
  | addFallbackStrategy {strategy : FallbackStrategy} :
      Steps s (.addFallbackStrategy strategy) { s with service := { s.service with
        fallbackStrategies := s.service.fallbackStrategies.set strategy.id strategy } }
  | addRecoveryWorkflow {workflow : RecoveryWorkflow} :
      Steps s (.addRecoveryWorkflow workflow) { s with service := { s.service with
        recoveryWorkflows := s.service.recoveryWorkflows.set workflow.id workflow } }
  | resume {index : Nat} {ok : Bool} {now : Nat} {random : Rat} {call next : Call}
      {after : Service} (present : s.calls[index]? = some call)
      (resumed : s.service.resumeCall call ok now random = some (after, next)) :
      Steps s (.resume index ok now random) ⟨after, s.calls.set index next⟩

variable {l : Label} {s t : State}

lemma steps_of_step (hs : s.step l = some t) : Steps s l t := by
  cases l with
  | recordError id error context classification now =>
    simp only [State.step] at hs
    split at hs
    · cases hs
    · rename_i hfr
      cases hs
      exact .recordError hfr
  | scheduleRetry id st now r =>
    obtain ⟨rec, hf, rfl⟩ := map_eq_some_iff.mp hs
    exact .scheduleRetry hf
  | resolveError id resolution now =>
    simp only [State.step] at hs
    split at hs
    · cases hs
      exact .resolveNothing
    · rename_i rec hf
      cases hs
      exact .resolveError hf
  | escalateError id =>
    obtain ⟨rec, hf, rfl⟩ := map_eq_some_iff.mp hs
    exact .escalateError hf
  | executeRecoveryWorkflow id now r =>
    obtain ⟨rec, hf, rfl⟩ := map_eq_some_iff.mp hs
    exact .executeRecoveryWorkflow hf
  | processRetryQueue now =>
    cases hs
    exact .processRetryQueue
  | addFallbackStrategy st =>
    cases hs
    exact .addFallbackStrategy
  | addRecoveryWorkflow w =>
    cases hs
    exact .addRecoveryWorkflow
  | resume i ok now r =>
    obtain ⟨c, hp, hmo⟩ := bind_eq_some_iff.mp hs
    obtain ⟨⟨after, next⟩, hr, rfl⟩ := map_eq_some_iff.mp hmo
    exact .resume hp hr

lemma named_step (hn : s.service.Named) (hs : s.step l = some t) : t.service.Named := by
  cases steps_of_step hs with
  | @recordError id =>
    intro x rec hf
    have hst := hf.symm.trans (get?_set _ id _ x)
    split at hst
    · rename_i hsm
      cases hst
      exact hsm
    · exact hn x rec hst.symm
  | scheduleRetry => exact (works_scheduleRetry ..).toHandles.named hn
  | resolveNothing => exact hn
  | resolveError => exact (handles_resolveError ..).named hn
  | escalateError => exact (works_escalateError ..).toHandles.named hn
  | executeRecoveryWorkflow =>
    exact (piece_executeRecoveryWorkflow ..).works.toHandles.named hn
  | processRetryQueue => exact named_continueRun hn "" [] 0
  | addFallbackStrategy | addRecoveryWorkflow => exact hn
  | resume hp hr => exact named_resumeCall hn hr

end ErrorHandling
