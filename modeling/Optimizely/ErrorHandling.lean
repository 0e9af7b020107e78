import Mathlib.Data.List.Sort
import Optimizely.CircuitBreaker
import Optimizely.ErrorClassification
import Optimizely.JsValue
import Optimizely.OrderedMap

/-!
# Recording, retrying and resolving errors

`UniversalErrorHandlingService` without circuit breakers. A record is one object, shared by the map
of records and the retry queues, so a queue holds ids. Methods are split at their awaits; the
replies of Redis, the clock, the drawn ids and random numbers are inputs.
-/

namespace ErrorHandling

structure ErrorContext where
  service : String
  operation : String
  deriving DecidableEq

/-- `${service}:${operation}`. -/
def ErrorContext.key (context : ErrorContext) : String :=
  context.service ++ ":" ++ context.operation

inductive RecordStatus where
  | active
  | retrying
  | resolved
  | failed
  | ignored
  deriving DecidableEq

/-- A date that is invalid is not told from one that is missing: neither is ever due. -/
structure ErrorRecord where
  id : String
  errorCode : String
  errorMessage : String
  classification : ErrorClassification
  context : ErrorContext
  timestamp : Nat
  resolvedAt : Option Nat
  resolution : Option String
  retryCount : Nat
  maxRetries : Nat
  nextRetryAt : Option Int
  status : RecordStatus
  deriving DecidableEq

inductive BackoffType where
  | exponential
  | linear
  | fixed
  | custom
  deriving DecidableEq

structure RetryStrategy where
  type : BackoffType
  baseDelay : Rat
  maxDelay : Rat
  multiplier : Rat
  jitter : Bool
  customBackoffFunction : Option (Nat → Rat → Rat)

structure PartialStrategy where
  type : Option BackoffType
  baseDelay : Option Rat
  maxDelay : Option Rat
  multiplier : Option Rat
  jitter : Option Bool
  customBackoffFunction : Option (Nat → Rat → Rat)

def defaultRetryStrategy : RetryStrategy where
  type := .exponential
  baseDelay := 1000
  maxDelay := 60000
  multiplier := 2
  jitter := true
  customBackoffFunction := none

def noStrategy : PartialStrategy := ⟨none, none, none, none, none, none⟩

def mergeStrategy (strategy : PartialStrategy) : RetryStrategy where
  type := strategy.type.getD defaultRetryStrategy.type
  baseDelay := strategy.baseDelay.getD defaultRetryStrategy.baseDelay
  maxDelay := strategy.maxDelay.getD defaultRetryStrategy.maxDelay
  multiplier := strategy.multiplier.getD defaultRetryStrategy.multiplier
  jitter := strategy.jitter.getD defaultRetryStrategy.jitter
  customBackoffFunction := strategy.customBackoffFunction

def calculateRetryDelay (attempt : Nat) (strategy : RetryStrategy) (random : Rat) : Rat :=
  let delay := match strategy.type with
    | .exponential => strategy.baseDelay * strategy.multiplier ^ attempt
    | .linear => strategy.baseDelay * (attempt + 1)
    | .fixed => strategy.baseDelay
    | .custom => match strategy.customBackoffFunction with
      | some backoff => backoff attempt strategy.baseDelay
      | none => strategy.baseDelay
  min (if strategy.jitter then delay * (1 / 2 + random * (1 / 2)) else delay) strategy.maxDelay

/-- The time of `new Date(ms)`, none if the date is invalid. -/
def toDate (ms : Rat) : Option Int :=
  if |ms| ≤ 8640000000000000 then some (ms.num.tdiv ms.den) else none

inductive FallbackType where
  | cache
  | defaultValue
  | alternativeService
  | queueForLater
  | gracefulDegradation
  | custom
  deriving DecidableEq

structure FallbackConfig where
  cacheKey : Option String
  alternativeService : Option String
  queueName : Option String
  deriving DecidableEq

structure FallbackStrategy where
  id : String
  service : String
  operation : String
  type : FallbackType
  config : FallbackConfig
  isActive : Bool
  deriving DecidableEq

inductive StepType where
  | retry
  | fallback
  | notification
  | escalation
  | dataCorrection
  | serviceRestart
  | custom
  deriving DecidableEq

structure RecoveryStep where
  id : String
  type : StepType
  onFailure : Option String
  deriving DecidableEq

structure RecoveryWorkflow where
  id : String
  errorCategories : List ErrorCategory
  steps : List RecoveryStep
  isActive : Bool
  autoExecute : Bool
  priority : Rat
  deriving DecidableEq

/-- The step to which the failure of a step leads. -/
def RecoveryWorkflow.handlerOf (workflow : RecoveryWorkflow) (step : RecoveryStep) :
    Option RecoveryStep :=
  (truthyText step.onFailure).bind fun id => workflow.steps.find? fun next => next.id = id

/-- What a call of `executeRecoveryWorkflow` starts from: the workflows then registered and the
category of the error. It is kept for the record of the call only. -/
structure Request where
  registered : List RecoveryWorkflow
  category : ErrorCategory
  deriving DecidableEq

/-- Where `executeRecoveryWorkflow` stands: the workflows that failed with the outcomes of their
steps, the one it is in, those that may follow, and the awaited step. -/
structure Recovery where
  request : Request
  ran : List (RecoveryWorkflow × List Bool)
  workflow : RecoveryWorkflow
  outcomes : List Bool
  later : List RecoveryWorkflow
  step : RecoveryStep
  rest : List RecoveryStep
  /-- the step handles the failure of another -/
  handling : Bool
  deriving DecidableEq

inductive Cursor where
  | inside (recovery : Recovery)
  | finished (request : Request) (ran : List (RecoveryWorkflow × List Bool))
  deriving DecidableEq

/-- The loop of `executeRecoveryWorkflow` from the next workflow on. -/
def enterWorkflow (request : Request) (ran : List (RecoveryWorkflow × List Bool)) :
    List RecoveryWorkflow → Cursor
  | [] => .finished request ran
  | workflow :: later =>
    match workflow.steps with
    | [] => .finished request (ran ++ [(workflow, [])])
    | step :: rest => .inside ⟨request, ran, workflow, [], later, step, rest, false⟩

/-- The step has completed or thrown. A failure without a handler ends the loop over the steps, and
the workflow counts as done; so does a handler that completes. Only one that throws leads on to the
next workflow. -/
def Recovery.advance (recovery : Recovery) (ok : Bool) : Cursor :=
  let outcomes := recovery.outcomes ++ [ok]
  let ran := recovery.ran ++ [(recovery.workflow, outcomes)]
  match recovery.handling, ok with
  | true, true => .finished recovery.request ran
  | true, false => enterWorkflow recovery.request ran recovery.later
  | false, true =>
    match recovery.rest with
    | [] => .finished recovery.request ran
    | step :: rest => .inside { recovery with outcomes := outcomes, step := step, rest := rest }
  | false, false =>
    match recovery.workflow.handlerOf recovery.step with
    | none => .finished recovery.request ran
    | some next => .inside { recovery with outcomes := outcomes, step := next, handling := true }

inductive Channel where
  | email
  | slack
  | dashboard
  deriving DecidableEq

inductive NotificationPriority where
  | low
  | medium
  | high
  | urgent
  deriving DecidableEq

structure ErrorNotification where
  errorId : String
  channel : Channel
  recipients : List String
  template : String
  priority : NotificationPriority
  deriving DecidableEq

def getNotificationChannel : Severity → Channel
  | .critical => .slack
  | .high => .email
  | _ => .dashboard

def getNotificationRecipients : Severity → List String
  | .critical => ["critical-alerts@company.com"]
  | .high => ["alerts@company.com"]
  | _ => ["monitoring@company.com"]

def mapSeverityToPriority : Severity → NotificationPriority
  | .critical => .urgent
  | .high => .high
  | .medium => .medium
  | .low => .low

def getEscalationRecipients : Nat → List String
  | 1 => ["support@company.com"]
  | 2 => ["support@company.com", "engineering@company.com"]
  | 3 => ["support@company.com", "engineering@company.com", "management@company.com"]
  | _ => ["critical@company.com"]

/-- A fallback step: the error's context, what was registered then and what was found. -/
structure FallbackUse where
  context : ErrorContext
  registered : List FallbackStrategy
  used : Option FallbackStrategy
  deriving DecidableEq

/-- The last two fields are histories that no method reads: the ids removed from a retry queue,
and the fallback steps executed. -/
structure Service where
  errorRecords : OrderedMap String ErrorRecord
  circuitBreakers : OrderedMap String CircuitBreaker.CircuitBreakerState
  fallbackStrategies : OrderedMap String FallbackStrategy
  recoveryWorkflows : OrderedMap String RecoveryWorkflow
  retryQueues : OrderedMap String (List String)
  notificationQueue : List ErrorNotification
  removed : List String
  fallbacks : List FallbackUse
  deriving DecidableEq

namespace Service

def updateRecord (service : Service) (id : String) (change : ErrorRecord → ErrorRecord) :
    Service :=
  match service.errorRecords.get? id with
  | none => service
  | some record => { service with errorRecords := service.errorRecords.set id (change record) }

def queue (service : Service) (key : String) : List String :=
  (service.retryQueues.get? key).getD []

/-- `updateCircuitBreaker(service, operation, false)`. -/
def recordFailure (service : Service) (context : ErrorContext) (now : Nat) : Service :=
  let breaker := (service.circuitBreakers.get? context.key).getD
    (CircuitBreaker.createCircuitBreaker CircuitBreaker.noConfig)
  { service with
    circuitBreakers := service.circuitBreakers.set context.key (breaker.recordFailure now) }

def queueNotification (service : Service) (record : ErrorRecord) : Service :=
  let severity := record.classification.severity
  { service with
    notificationQueue := service.notificationQueue ++
      [⟨record.id, getNotificationChannel severity, getNotificationRecipients severity,
        "error_notification", mapSeverityToPriority severity⟩] }

def escalateError (service : Service) (record : ErrorRecord) : Service :=
  let level := record.classification.escalationLevel + 1
  let service := service.updateRecord record.id fun record =>
    { record with classification := { record.classification with escalationLevel := level } }
  { service with
    notificationQueue := service.notificationQueue ++
      [⟨record.id, .email, getEscalationRecipients level, "error_escalation", .urgent⟩] }

end Service

/-- The command of `persistErrorRecord` whose reply is awaited. -/
inductive Write where
  | hset
  | expire
  deriving DecidableEq

/-- Where `scheduleRetry` waits: it has given the record up, or will queue it. -/
inductive RetryStage where
  | failing (write : Write)
  | queueing (write : Write)
  deriving DecidableEq

/-- How an asynchronous piece of work goes on. -/
inductive Progress (Stage : Type) where
  | waits (stage : Stage)
  | settled (ok : Bool)

namespace Service

def scheduleRetry (service : Service) (record : ErrorRecord) (strategy : PartialStrategy)
    (now : Nat) (random : Rat) : Service × RetryStage :=
  if record.maxRetries ≤ record.retryCount then
    (service.updateRecord record.id fun record => { record with status := .failed },
      .failing .hset)
  else
    let delay := calculateRetryDelay record.retryCount (mergeStrategy strategy) random
    (service.updateRecord record.id fun record =>
      { record with nextRetryAt := toDate (now + delay), status := .retrying },
      .queueing .hset)

def pushRetry (service : Service) (record : ErrorRecord) : Service :=
  let key := record.context.key
  { service with
    retryQueues := service.retryQueues.set key (service.queue key ++ [record.id]) }

def resumeRetry (service : Service) (record : ErrorRecord) (stage : RetryStage) (ok : Bool) :
    Service × Progress RetryStage :=
  match stage, ok with
  | _, false => (service, .settled false)
  | .failing .hset, true => (service, .waits (.failing .expire))
  | .failing .expire, true => (service, .settled true)
  | .queueing .hset, true => (service, .waits (.queueing .expire))
  | .queueing .expire, true => (service.pushRetry record, .settled true)

end Service

/-- What a recovery step waits for: its `scheduleRetry`, a command of a fallback, or nothing but
its turn. -/
inductive StepWait where
  | retry (stage : RetryStage)
  | command
  | turn (ok : Bool)
  deriving DecidableEq

def Service.findFallback (service : Service) (context : ErrorContext) : Option FallbackStrategy :=
  (service.fallbackStrategies.get? context.key).filter (·.isActive)

/-- How a fallback goes on that has found its strategy. -/
def FallbackStrategy.start (strategy : FallbackStrategy) : StepWait :=
  match strategy.type with
  | .cache => if (truthyText strategy.config.cacheKey).isSome then .command else .turn false
  | .defaultValue => .turn true
  | .alternativeService => .turn (truthyText strategy.config.alternativeService).isSome
  | .queueForLater =>
    if (truthyText strategy.config.queueName).isSome then .command else .turn false
  | .gracefulDegradation => .turn true
  | .custom => .turn false

namespace Service

def executeFallback (service : Service) (context : ErrorContext) : Service × StepWait :=
  let found := service.findFallback context
  ({ service with
    fallbacks := service.fallbacks ++ [⟨context, service.fallbackStrategies.values, found⟩] },
    match found with
    | none => .turn false
    | some strategy => strategy.start)

/-- `executeRecoveryStep` up to its first await. -/
def executeRecoveryStep (service : Service) (record : ErrorRecord) (step : RecoveryStep)
    (now : Nat) (random : Rat) : Service × StepWait :=
  match step.type with
  | .retry =>
    let scheduled := service.scheduleRetry record noStrategy now random
    (scheduled.1, .retry scheduled.2)
  | .fallback => service.executeFallback record.context
  | .notification => (service.queueNotification record, .turn true)
  | .escalation => (service.escalateError record, .turn true)
  | _ => (service, .turn true)

def resumeStep (service : Service) (record : ErrorRecord) (wait : StepWait) (ok : Bool) :
    Service × Progress StepWait :=
  match wait with
  | .retry stage =>
    match service.resumeRetry record stage ok with
    | (service, .waits stage) => (service, .waits (.retry stage))
    | (service, .settled ok) => (service, .settled ok)
  | .command => (service, .settled ok)
  | .turn ok => (service, .settled ok)

/-- The workflows that `executeRecoveryWorkflow` goes through. -/
def recoveryOrder (service : Service) (category : ErrorCategory) : List RecoveryWorkflow :=
  ((service.recoveryWorkflows.values.filter fun workflow =>
    workflow.isActive && workflow.errorCategories.contains category).insertionSort
      fun a b => a.priority ≤ b.priority).filter (·.autoExecute)

def startRecovery (service : Service) (category : ErrorCategory) : Cursor :=
  enterWorkflow ⟨service.recoveryWorkflows.values, category⟩ [] (service.recoveryOrder category)

end Service

/-- Where `recordError` waits, before its recovery workflow. -/
inductive RecordStage where
  | persisting (write : Write)
  | updatingBreaker
  | notifying
  | scheduling (stage : RetryStage)
  deriving DecidableEq

/-- A run of `processRetryQueue`: the time it began, the queue it is in with what it still has
to retry there, and the number of the next queue. -/
structure RetryRun where
  now : Nat
  key : String
  ready : List String
  position : Nat
  write : Write
  deriving DecidableEq

/-- A call under way. `recovered` is a call of `recordError` or `executeRecoveryWorkflow` that has
returned, `resolved` one of `resolveError` that returned true, with the retry count at that time. -/
inductive Call where
  | record (id : String) (stage : RecordStage)
  | recovering (id : String) (recovery : Recovery) (wait : StepWait)
  | scheduling (id : String) (stage : RetryStage)
  | resolving (id : String) (write : Write)
  | processing (run : RetryRun)
  | recovered (id : String) (request : Request) (ran : List (RecoveryWorkflow × List Bool))
  | resolved (id : String) (retryCount : Nat)
  | ended
  deriving DecidableEq

namespace Service

/-- A recovery that has arrived at a step executes it. -/
def continueRecovery (service : Service) (record : ErrorRecord) (cursor : Cursor) (now : Nat)
    (random : Rat) : Service × Call :=
  match cursor with
  | .finished request ran => (service, .recovered record.id request ran)
  | .inside recovery =>
    let entered := service.executeRecoveryStep record recovery.step now random
    (entered.1, .recovering record.id recovery entered.2)

def executeRecoveryWorkflow (service : Service) (record : ErrorRecord) (now : Nat)
    (random : Rat) : Service × Call :=
  service.continueRecovery record (service.startRecovery record.classification.category) now random

/-- `recordError` after its notification. -/
def retryOrRecover (service : Service) (record : ErrorRecord) (now : Nat) (random : Rat) :
    Service × Call :=
  if record.classification.isRetryable && record.retryCount < record.maxRetries then
    let scheduled := service.scheduleRetry record noStrategy now random
    (scheduled.1, .record record.id (.scheduling scheduled.2))
  else service.executeRecoveryWorkflow record now random

def resumeRecord (service : Service) (record : ErrorRecord) (stage : RecordStage) (ok : Bool)
    (now : Nat) (random : Rat) : Service × Call :=
  match stage, ok with
  | .persisting .hset, true => (service, .record record.id (.persisting .expire))
  | .persisting .expire, true =>
    (service.recordFailure record.context now, .record record.id .updatingBreaker)
  | .updatingBreaker, true =>
    if record.classification.severity = .high ∨ record.classification.severity = .critical then
      (service.queueNotification record, .record record.id .notifying)
    else service.retryOrRecover record now random
  | .notifying, _ => service.retryOrRecover record now random
  | .scheduling stage, ok =>
    match service.resumeRetry record stage ok with
    | (service, .waits stage) => (service, .record record.id (.scheduling stage))
    | (service, .settled true) => service.executeRecoveryWorkflow record now random
    | (service, .settled false) => (service, .ended)
  | _, false => (service, .ended)

def resumeRecovery (service : Service) (record : ErrorRecord) (recovery : Recovery)
    (wait : StepWait) (ok : Bool) (now : Nat) (random : Rat) : Service × Call :=
  match service.resumeStep record wait ok with
  | (service, .waits wait) => (service, .recovering record.id recovery wait)
  | (service, .settled ok) => service.continueRecovery record (recovery.advance ok) now random

def isDue (service : Service) (now : Nat) (id : String) : Bool :=
  match (service.errorRecords.get? id).bind (·.nextRetryAt) with
  | some time => time ≤ now
  | none => false

/-- The first queue from a position on with an error that is due: the number of the queue after
it, its key, the error and the others that are due there. -/
def findReady (service : Service) (now : Nat) :
    Nat → List (String × List String) → Option (Nat × String × String × List String)
  | _, [] => none
  | position, (key, errors) :: queues =>
    match errors.filter (service.isDue now) with
    | [] => findReady service now (position + 1) queues
    | id :: ready => some (position + 1, key, id, ready)

/-- The body of the loop over the errors that are due. -/
def retryError (service : Service) (key id : String) : Service :=
  let queue := service.queue key
  let updated := service.updateRecord id fun record =>
    { record with retryCount := record.retryCount + 1, status := .active, nextRetryAt := none }
  { updated with
    retryQueues := if id ∈ queue then updated.retryQueues.set key (queue.erase id)
      else updated.retryQueues
    removed := if id ∈ queue then updated.removed ++ [id] else updated.removed }

/-- `processRetryQueue` up to the next write. -/
def continueRun (service : Service) (now : Nat) (key : String) (ready : List String)
    (position : Nat) : Service × Call :=
  match ready with
  | id :: ready =>
    (service.retryError key id, .processing ⟨now, key, ready, position, .hset⟩)
  | [] =>
    match service.findReady now position (service.retryQueues.entries.drop position) with
    | none => (service, .ended)
    | some (position, key, id, ready) =>
      (service.retryError key id, .processing ⟨now, key, ready, position, .hset⟩)

def resumeRun (service : Service) (run : RetryRun) (ok : Bool) : Service × Call :=
  match run.write, ok with
  | _, false => (service, .ended)
  | .hset, true => (service, .processing { run with write := .expire })
  | .expire, true => service.continueRun run.now run.key run.ready run.position

def resolveError (service : Service) (record : ErrorRecord) (resolution : String) (now : Nat) :
    Service × Call :=
  (service.updateRecord record.id fun record =>
    { record with status := .resolved, resolvedAt := some now, resolution := some resolution },
    .resolving record.id .hset)

def resumeCall (service : Service) (call : Call) (ok : Bool) (now : Nat) (random : Rat) :
    Option (Service × Call) :=
  match call with
  | .record id stage => (service.errorRecords.get? id).map fun record =>
    service.resumeRecord record stage ok now random
  | .recovering id recovery wait => (service.errorRecords.get? id).map fun record =>
    service.resumeRecovery record recovery wait ok now random
  | .scheduling id stage => (service.errorRecords.get? id).map fun record =>
    match service.resumeRetry record stage ok with
    | (service, .waits stage) => (service, .scheduling id stage)
    | (service, .settled _) => (service, .ended)
  | .resolving id write => (service.errorRecords.get? id).map fun record =>
    match write, ok with
    | _, false => (service, .ended)
    | .hset, true => (service, .resolving id .expire)
    | .expire, true => (service, .resolved id record.retryCount)
  | .processing run => some (service.resumeRun run ok)
  | .recovered _ _ _ => none
  | .resolved _ _ => none
  | .ended => none

end Service

structure State where
  service : Service
  calls : List Call
  deriving DecidableEq

inductive Label where
  | recordError (id : String) (error : ErrorInput) (context : ErrorContext)
      (classification : Option PartialClassification) (now : Nat)
  | scheduleRetry (id : String) (strategy : PartialStrategy) (now : Nat) (random : Rat)
  | resolveError (id resolution : String) (now : Nat)
  | escalateError (id : String)
  | executeRecoveryWorkflow (id : String) (now : Nat) (random : Rat)
  | processRetryQueue (now : Nat)
  | addFallbackStrategy (strategy : FallbackStrategy)
  | addRecoveryWorkflow (workflow : RecoveryWorkflow)
  | resume (index : Nat) (ok : Bool) (now : Nat) (random : Rat)

def newRecord (id : String) (error : ErrorInput) (context : ErrorContext)
    (classification : Option PartialClassification) (now : Nat) : ErrorRecord :=
  let errorClassification := match classification with
    | some given => (classifyError error).overridden given
    | none => classifyError error
  { id := id
    errorCode := extractErrorCode error
    errorMessage := error.message
    classification := errorClassification
    context := context
    timestamp := now
    resolvedAt := none
    resolution := none
    retryCount := 0
    maxRetries := getMaxRetries errorClassification
    nextRetryAt := none
    status := .active }

namespace State

/-- A new call suspends for the first time. -/
def begin (s : State) (result : Service × Call) : State :=
  ⟨result.1, s.calls ++ [result.2]⟩

def callOn (s : State) (id : String) (start : ErrorRecord → Service × Call) : Option State :=
  (s.service.errorRecords.get? id).map fun record => s.begin (start record)

/-- `resolveError` returns false at once for an id it does not know. Every id is drawn once. -/
def step (s : State) : Label → Option State
  | .recordError id error context classification now =>
    match s.service.errorRecords.get? id with
    | some _ => none
    | none =>
      let record := newRecord id error context classification now
      some (s.begin
        ({ s.service with errorRecords := s.service.errorRecords.set id record },
          .record id (.persisting .hset)))
  | .scheduleRetry id strategy now random => s.callOn id fun record =>
    let scheduled := s.service.scheduleRetry record strategy now random
    (scheduled.1, .scheduling id scheduled.2)
  | .resolveError id resolution now =>
    match s.service.errorRecords.get? id with
    | none => some s
    | some record => some (s.begin (s.service.resolveError record resolution now))
  | .escalateError id => s.callOn id fun record => (s.service.escalateError record, .ended)
  | .executeRecoveryWorkflow id now random => s.callOn id fun record =>
    s.service.executeRecoveryWorkflow record now random
  | .processRetryQueue now => some (s.begin (s.service.continueRun now "" [] 0))
  | .addFallbackStrategy strategy => some { s with service := { s.service with
      fallbackStrategies := s.service.fallbackStrategies.set strategy.id strategy } }
  | .addRecoveryWorkflow workflow => some { s with service := { s.service with
      recoveryWorkflows := s.service.recoveryWorkflows.set workflow.id workflow } }
  | .resume index ok now random =>
    (s.calls[index]?).bind fun call =>
      (s.service.resumeCall call ok now random).map fun result =>
        ⟨result.1, s.calls.set index result.2⟩

end State

def launched (strategies : OrderedMap String FallbackStrategy)
    (workflows : OrderedMap String RecoveryWorkflow) : State where
  service :=
    { errorRecords := .empty
      circuitBreakers := .empty
      fallbackStrategies := strategies
      recoveryWorkflows := workflows
      retryQueues := .empty
      notificationQueue := []
      removed := []
      fallbacks := [] }
  calls := []

def crmSyncCacheFallback : FallbackStrategy where
  id := "crm_sync_cache_fallback"
  service := "sync-engine"
  operation := "sync_data"
  type := .cache
  config := ⟨some "last_successful_sync", none, none⟩
  isActive := true

def webhookQueueFallback : FallbackStrategy where
  id := "webhook_queue_fallback"
  service := "webhook-processing"
  operation := "process_webhook"
  type := .queueForLater
  config := ⟨none, none, some "failed_webhooks"⟩
  isActive := true

def networkErrorRecovery : RecoveryWorkflow where
  id := "network_error_recovery"
  errorCategories := [.network, .timeout]
  steps := [⟨"step_1", .retry, none⟩, ⟨"step_2", .fallback, none⟩]
  isActive := true
  autoExecute := true
  priority := 1

/-- The service as `initializeDefaultStrategies` leaves it. -/
def defaults : State :=
  launched ((OrderedMap.empty.set crmSyncCacheFallback.id crmSyncCacheFallback).set
      webhookQueueFallback.id webhookQueueFallback)
    (OrderedMap.empty.set networkErrorRecovery.id networkErrorRecovery)

/-- The context for which there is a default strategy. -/
def crmSync : ErrorContext := ⟨"sync-engine", "sync_data"⟩

/-- The replies to a call, all of them good. -/
def replies (index count now : Nat) : List Label :=
  List.replicate count (.resume index true now 0)

end ErrorHandling
