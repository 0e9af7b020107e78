import Optimizely.JsValue
import Optimizely.OrderedMap

/-!
# The workflow engine

Executions of workflows, as a system of suspended tasks. `runExecution`, `executeStep` and the
functions they await run from one `await` to the next. A task records the `await` at which it stands
and the `try` blocks around it. As `executeStep` awaits the next step inside the `try` block of the
current one, these pile up along an execution. The id of an execution is the key of the map only.
-/

namespace WorkflowEngine

inductive Operator where
  | equals
  | notEquals
  | greaterThan
  | lessThan
  | contains
  | exists
  deriving DecidableEq

inductive LogicalOperator where
  | and
  | or
  deriving DecidableEq

structure WorkflowCondition where
  field : String
  operator : Operator
  value : JsValue
  logicalOperator : Option LogicalOperator

inductive ActionType where
  | apiCall
  | email
  | webhook
  | dataUpdate
  | notification
  | custom
  deriving DecidableEq

structure WorkflowAction where
  id : String
  type : ActionType
  deriving DecidableEq

structure WorkflowStep where
  id : String
  name : String
  action : WorkflowAction
  conditions : Option (List WorkflowCondition)
  onSuccess : Option String
  onFailure : Option String
  delay : Option JsNumber

structure WorkflowAnalytics where
  executionCount : Nat
  successRate : Rat
  averageExecutionTime : Rat
  lastExecuted : Option Int
  deriving DecidableEq

structure Workflow where
  steps : List WorkflowStep
  startStepId : String
  isActive : Bool
  analytics : WorkflowAnalytics

inductive ExecutionStatus where
  | pending
  | running
  | completed
  | failed
  | cancelled
  deriving DecidableEq

/-- The two statuses that `cancelExecution` and `shutdown` act on. -/
def ExecutionStatus.isActive (status : ExecutionStatus) : Bool :=
  status = .running || status = .pending

inductive LogLevel where
  | info
  | warn
  | error
  | debug
  deriving DecidableEq

/-- What a rejected promise carries: an `Error`, or another value given by its text. -/
inductive Thrown where
  | error (message : String)
  | value (text : String)
  deriving DecidableEq

namespace Thrown

/-- `error instanceof Error ? error.message : 'Unknown error'`. -/
def messageOrUnknown : Thrown → String
  | error message => message
  | value _ => "Unknown error"

/-- `error instanceof Error ? error.message : error`. -/
def messageOrText : Thrown → String
  | error message => message
  | value text => text

end Thrown

inductive LogData where
  | result (value : JsValue)
  | error (text : String)

structure WorkflowExecutionLog where
  timestamp : Int
  level : LogLevel
  stepId : Option String
  message : String
  data : Option LogData

abbrev Context := String → JsValue

structure WorkflowExecution where
  workflowId : String
  triggerId : String
  status : ExecutionStatus
  currentStepId : Option String
  context : Context
  startTime : Int
  endTime : Option Int
  duration : Option Int
  error : Option String
  logs : List WorkflowExecutionLog

/-- A `try` block that is still open: the one of `runExecution`, or the one of
`executeStep` around a step and everything after it. -/
inductive Handler where
  | run
  | step (step : WorkflowStep)

/-- The `await` at which a run is suspended. -/
inductive Await where
  | startPersist
  | delay (step : WorkflowStep)
  | action (step : WorkflowStep)
  | stepPersist
  | completePersist
  | failPersist
  | analyticsPersist

inductive Task where
  /-- `executeWorkflow` waits for its write. -/
  | starting (executionId : String)
  /-- The `setImmediate` callback of `executeWorkflow`. -/
  | queued (executionId : String)
  /-- `runExecution`, which keeps the steps of the workflow it found. -/
  | running (executionId : String) (steps : List WorkflowStep) (handlers : List Handler)
      (awaiting : Await)
  | cancelling (executionId : String)
  /-- `shutdown` goes on with the execution at this place of the map. -/
  | shuttingDown (position : Nat)
  | ended

structure Engine where
  workflows : OrderedMap String Workflow
  executions : OrderedMap String WorkflowExecution
  tasks : List Task
  /-- The actions started so far, as execution and step. -/
  actions : List (String × String)

/-- The host: conversions of values, and how deep calls may nest. -/
structure Host where
  conversions : JsConversions
  callStackLimit : Nat

def conditionHolds (conversions : JsConversions) (condition : WorkflowCondition)
    (fieldValue : JsValue) : Bool :=
  match condition.operator with
  | .equals => fieldValue.strictEquals condition.value
  | .notEquals => !fieldValue.strictEquals condition.value
  | .greaterThan => conversions.numberLess condition.value fieldValue
  | .lessThan => conversions.numberLess fieldValue condition.value
  | .contains => conversions.textIncludes fieldValue condition.value
  | .exists => !fieldValue.strictEquals .undefined && !fieldValue.strictEquals .null

/-- The operator written at a condition joins it to the condition after it. -/
def evaluateConditions (conversions : JsConversions) (conditions : List WorkflowCondition)
    (context : Context) : Bool :=
  let joined := conditions.foldl
    (fun (acc : Bool × LogicalOperator) condition =>
      let conditionResult := conditionHolds conversions condition (context condition.field)
      let result := match acc.2 with
        | .and => acc.1 && conditionResult
        | .or => acc.1 || conditionResult
      (result, condition.logicalOperator.getD .and))
    (true, .and)
  joined.1

def WorkflowStep.conditionsMet (host : Host) (step : WorkflowStep) (context : Context) : Bool :=
  match step.conditions with
  | none => true
  | some conditions => evaluateConditions host.conversions conditions context

/-- `step.delay && step.delay > 0`. -/
def WorkflowStep.positiveDelay (step : WorkflowStep) : Option JsNumber :=
  step.delay.filter fun delay => (JsNumber.finite 0).lt delay

/-- Where a failed step goes on; without a target, or with the target `end`, the
execution fails. -/
def WorkflowStep.failureTarget (step : WorkflowStep) : Option String :=
  (truthyText step.onFailure).filter (· ≠ "end")

namespace WorkflowExecution

def addExecutionLog (execution : WorkflowExecution) (now : Int) (level : LogLevel)
    (stepId : String) (message : String) (data : Option LogData) : WorkflowExecution :=
  { execution with
    logs := execution.logs ++ [⟨now, level, some stepId, message, data⟩] }

def goTo (execution : WorkflowExecution) (stepId : Option String) : WorkflowExecution :=
  { execution with currentStepId := stepId }

/-- The fields that completing, failing and cancelling set alike. -/
def finish (execution : WorkflowExecution) (status : ExecutionStatus) (now : Int) :
    WorkflowExecution :=
  { execution with
    status := status
    endTime := some now
    duration := some (now - execution.startTime) }

def recordResult (execution : WorkflowExecution) (now : Int) (step : WorkflowStep)
    (result : JsValue) : WorkflowExecution :=
  let logged := execution.addExecutionLog now .info step.id "Step completed successfully"
    (some (.result result))
  { logged with
    context := fun key => if key = "step_" ++ step.id ++ "_result" then result
      else execution.context key
    currentStepId := truthyText step.onSuccess }

end WorkflowExecution

/-- What `executeStep` awaits first, after the steps it skips. -/
inductive NextAwait where
  | complete
  | fail (error : String)
  | delay (step : WorkflowStep)
  | act (step : WorkflowStep)
  | overflow

/-- `executeStep` up to its first `await`. A skipped step calls `executeStep` again
within the same call stack. -/
def enterStep (host : Host) (steps : List WorkflowStep) (now : Int) :
    Nat → WorkflowExecution → WorkflowExecution × NextAwait
  | 0, execution => (execution, .overflow)
  | depth + 1, execution =>
    match truthyText execution.currentStepId with
    | none => (execution, .complete)
    | some stepId =>
      match steps.find? (·.id = stepId) with
      | none => (execution, .fail ("Step " ++ stepId ++ " not found"))
      | some step =>
        let execution := execution.addExecutionLog now .info step.id
          ("Executing step: " ++ step.name) none
        if step.conditionsMet host execution.context then
          match step.positiveDelay with
          | none => (execution, .act step)
          | some delay =>
            (execution.addExecutionLog now .info step.id
              ("Delaying execution by " ++ host.conversions.toText (.number delay) ++ "ms") none,
              .delay step)
        else
          let skipped := execution.addExecutionLog now .info step.id
            "Step conditions not met, skipping" none
          enterStep host steps now depth (skipped.goTo (truthyText step.onSuccess))

namespace Engine

def updateExecution (engine : Engine) (executionId : String)
    (change : WorkflowExecution → WorkflowExecution) : Engine :=
  match engine.executions.get? executionId with
  | none => engine
  | some execution =>
    { engine with executions := engine.executions.set executionId (change execution) }

/-- `completeExecution` and `failExecution` up to the write that both await. -/
def endExecution (engine : Engine) (executionId : String) (steps : List WorkflowStep)
    (handlers : List Handler) (awaiting : Await)
    (change : WorkflowExecution → WorkflowExecution) : Engine × Task :=
  match engine.executions.get? executionId with
  | none => (engine, .ended)
  | some _ =>
    (engine.updateExecution executionId change,
      .running executionId steps handlers awaiting)

def completeExecution (engine : Engine) (executionId : String) (steps : List WorkflowStep)
    (handlers : List Handler) (now : Int) : Engine × Task :=
  engine.endExecution executionId steps handlers .completePersist (·.finish .completed now)

def failExecution (engine : Engine) (executionId : String) (steps : List WorkflowStep)
    (handlers : List Handler) (error : String) (now : Int) : Engine × Task :=
  engine.endExecution executionId steps handlers .failPersist fun execution =>
    { execution.finish .failed now with error := some error }

/-- The call of `executeAction`, made inside the `try` block of its step. -/
def startAction (engine : Engine) (executionId : String) (steps : List WorkflowStep)
    (handlers : List Handler) (step : WorkflowStep) : Engine × Task :=
  ({ engine with actions := engine.actions ++ [(executionId, step.id)] },
    .running executionId steps (.step step :: handlers) (.action step))

/-- `executeStep` as far as its first `await`; `overflow` says what an exhausted call
stack does. -/
def executeStepOr (host : Host) (executionId : String) (steps : List WorkflowStep) (now : Int)
    (handlers : List Handler) (overflow : Engine → Engine × Task) (engine : Engine) :
    Engine × Task :=
  match engine.executions.get? executionId with
  | none => (engine, .ended)
  | some execution =>
    let entered := enterStep host steps now host.callStackLimit execution
    let engine := engine.updateExecution executionId fun _ => entered.1
    match entered.2 with
    | .complete => engine.completeExecution executionId steps handlers now
    | .fail error => engine.failExecution executionId steps handlers error now
    | .delay step => (engine, .running executionId steps handlers (.delay step))
    | .act step => engine.startAction executionId steps handlers step
    | .overflow => overflow engine

def stackOverflow : Thrown := .error "Maximum call stack size exceeded"

/-- A rejection reaches the innermost open `try` block. With none left it ends the
callback of `setImmediate` unhandled. -/
def throwTo (host : Host) (executionId : String) (steps : List WorkflowStep) (now : Int) :
    List Handler → Thrown → Engine → Engine × Task
  | [], _, engine => (engine, .ended)
  | .run :: handlers, thrown, engine =>
    engine.failExecution executionId steps handlers thrown.messageOrUnknown now
  | .step step :: handlers, thrown, engine =>
    let engine := engine.updateExecution executionId fun execution =>
      execution.addExecutionLog now .error step.id "Step failed"
        (some (.error thrown.messageOrText))
    match step.failureTarget with
    | none =>
      engine.failExecution executionId steps handlers
        ("Step " ++ step.id ++ " failed: " ++ thrown.messageOrText) now
    | some next =>
      executeStepOr host executionId steps now handlers
        (throwTo host executionId steps now handlers stackOverflow)
        (engine.updateExecution executionId (·.goTo (some next)))

def executeStep (host : Host) (executionId : String) (steps : List WorkflowStep) (now : Int)
    (handlers : List Handler) (engine : Engine) : Engine × Task :=
  executeStepOr host executionId steps now handlers
    (throwTo host executionId steps now handlers stackOverflow) engine

/-- The `setImmediate` callback. A missing workflow is reported outside the `try`
block, and no step is taken after it. -/
def runExecution (engine : Engine) (executionId : String) (now : Int) : Engine × Task :=
  match engine.executions.get? executionId with
  | none => (engine, .ended)
  | some execution =>
    match engine.workflows.get? execution.workflowId with
    | none =>
      engine.failExecution executionId [] [] "Workflow not found" now
    | some workflow =>
      (engine.updateExecution executionId fun execution => { execution with status := .running },
        .running executionId workflow.steps [.run] .startPersist)

def executionsOf (engine : Engine) (workflowId : String) : List WorkflowExecution :=
  engine.executions.values.filter (·.workflowId = workflowId)

/-- `updateWorkflowAnalytics` reads neither of its arguments `success` and `duration`. -/
def analyticsAfter (engine : Engine) (workflowId : String) (analytics : WorkflowAnalytics)
    (now : Int) : WorkflowAnalytics :=
  let executionCount := analytics.executionCount + 1
  let successfulExecutions :=
    ((engine.executionsOf workflowId).filter (·.status = .completed)).length
  let totalDuration := (((engine.executionsOf workflowId).filter (·.duration.getD 0 ≠ 0)).map
    (·.duration.getD 0)).sum
  { executionCount := executionCount
    successRate := successfulExecutions / executionCount * 100
    averageExecutionTime := totalDuration / executionCount
    lastExecuted := some now }

/-- The last `await` of an execution that has ended. -/
def updateWorkflowAnalytics (engine : Engine) (executionId : String)
    (steps : List WorkflowStep) (handlers : List Handler) (now : Int) : Engine × Task :=
  match engine.executions.get? executionId with
  | none => (engine, .ended)
  | some execution =>
    match engine.workflows.get? execution.workflowId with
    | none => (engine, .ended)
    | some workflow =>
      let updated := { workflow with
        analytics := engine.analyticsAfter execution.workflowId workflow.analytics now }
      ({ engine with workflows := engine.workflows.set execution.workflowId updated },
        .running executionId steps handlers .analyticsPersist)

lemma updateWorkflowAnalytics_rule {P : Engine × Task → Prop} {s : Engine} {id : String}
    {ss : List WorkflowStep} {ds : List Handler} {now : Int} (he : P (s, .ended))
    (hs : ∀ workflows,
      P ({ s with workflows := workflows }, .running id ss ds .analyticsPersist)) :
    P (s.updateWorkflowAnalytics id ss ds now) := by
  rw [updateWorkflowAnalytics]
  split
  · exact he
  · split
    · exact he
    · exact hs _

/-- What a run does when the promise it awaits is settled. -/
def continueRun (host : Host) (engine : Engine) (executionId : String)
    (steps : List WorkflowStep) (handlers : List Handler) (now : Int) :
    Await → Except Thrown JsValue → Option (Engine × Task)
  | .startPersist, .ok _ => some (executeStep host executionId steps now handlers engine)
  | .delay step, .ok _ => some (engine.startAction executionId steps handlers step)
  | .delay _, .error _ => none
  | .action step, .ok result =>
    some (engine.updateExecution executionId (·.recordResult now step result),
      .running executionId steps handlers .stepPersist)
  | .stepPersist, .ok _ => some (executeStep host executionId steps now handlers engine)
  | .completePersist, .ok _ =>
    some (engine.updateWorkflowAnalytics executionId steps handlers now)
  | .failPersist, .ok _ => some (engine.updateWorkflowAnalytics executionId steps handlers now)
  | .analyticsPersist, .ok _ => some (engine, .ended)
  | _, .error thrown => some (throwTo host executionId steps now handlers thrown engine)

def cancelledAt (engine : Engine) (executionId : String) (now : Int) : Engine :=
  engine.updateExecution executionId (·.finish .cancelled now)

/-- The first execution from a place of the map on that is running or pending. -/
def firstActive : List (String × WorkflowExecution) → Nat → Option (Nat × String)
  | [], _ => none
  | entry :: entries, position =>
    if entry.2.status.isActive then some (position, entry.1)
    else firstActive entries (position + 1)

def nextToCancel (engine : Engine) (position : Nat) : Option (Nat × String) :=
  firstActive (engine.executions.entries.drop position) position

/-- The loop of `shutdown` up to its next `await`. The iterator of the map also reaches
executions that are added while the loop is suspended. -/
def continueShutdown (engine : Engine) (position : Nat) (now : Int) : Engine × Task :=
  match engine.nextToCancel position with
  | none => (engine, .ended)
  | some (found, executionId) =>
    (engine.cancelledAt executionId now, .shuttingDown (found + 1))

def resumeTask (host : Host) (engine : Engine) (now : Int) :
    Task → Except Thrown JsValue → Option (Engine × Task)
  | .starting executionId, .ok _ => some (engine, .queued executionId)
  | .starting _, .error _ => some (engine, .ended)
  | .queued executionId, .ok _ => some (engine.runExecution executionId now)
  | .queued _, .error _ => none
  | .running executionId steps handlers awaiting, outcome =>
    engine.continueRun host executionId steps handlers now awaiting outcome
  | .cancelling _, _ => some (engine, .ended)
  | .shuttingDown position, .ok _ => some (engine.continueShutdown position now)
  | .shuttingDown _, .error _ => some (engine, .ended)
  | .ended, _ => none

end Engine

/-- The context handed to `executeWorkflow`, with the four keys it writes over it. -/
def startContext (executionId workflowId triggerId : String) (platform : Option String)
    (context : Context) : Context := fun key =>
  if key = "executionId" then .string executionId
  else if key = "workflowId" then .string workflowId
  else if key = "triggerId" then .string triggerId
  else if key = "platform" then platform.elim .undefined .string
  else context key

inductive Label where
  /-- `createWorkflow` and `updateWorkflow` store a workflow object. -/
  | storeWorkflow (workflowId : String) (workflow : Workflow)
  | deleteWorkflow (workflowId : String)
  | executeWorkflow (executionId workflowId triggerId : String) (context : Context)
      (platform : Option String) (now : Int)
  | cancelExecution (executionId : String) (now : Int)
  | shutdown (now : Int)
  /-- The promise that a task awaits is settled. -/
  | resume (task : Nat) (outcome : Except Thrown JsValue) (now : Int)

namespace Engine

def addTask (result : Engine × Task) : Engine :=
  { result.1 with tasks := result.1.tasks ++ [result.2] }

def setTask (index : Nat) (result : Engine × Task) : Engine :=
  { result.1 with tasks := result.1.tasks.set index result.2 }

def newExecution (executionId workflowId triggerId : String) (workflow : Workflow)
    (context : Context) (platform : Option String) (now : Int) : WorkflowExecution where
  workflowId := workflowId
  triggerId := triggerId
  status := .pending
  currentStepId := some workflow.startStepId
  context := startContext executionId workflowId triggerId platform context
  startTime := now
  endTime := none
  duration := none
  error := none
  logs := []

/-- One uninterrupted piece of work. A call that throws changes nothing. The ids that
`executeWorkflow` draws are fresh. -/
def step (host : Host) (engine : Engine) : Label → Option Engine
  | .storeWorkflow workflowId workflow =>
    some { engine with workflows := engine.workflows.set workflowId workflow }
  | .deleteWorkflow workflowId =>
    some { engine with workflows := engine.workflows.filter fun key _ => key ≠ workflowId }
  | .executeWorkflow executionId workflowId triggerId context platform now =>
    match engine.workflows.get? workflowId with
    | none => some engine
    | some workflow =>
      if !workflow.isActive then some engine
      else if (engine.executions.get? executionId).isSome then none
      else
        let execution :=
          newExecution executionId workflowId triggerId workflow context platform now
        some (addTask
          ({ engine with executions := engine.executions.set executionId execution },
            .starting executionId))
  | .cancelExecution executionId now =>
    match engine.executions.get? executionId with
    | none => some engine
    | some execution =>
      if execution.status.isActive then
        some (addTask (engine.cancelledAt executionId now, .cancelling executionId))
      else some engine
  | .shutdown now => some (addTask (engine.continueShutdown 0 now))
  | .resume index outcome now =>
    (engine.tasks[index]?).bind fun task =>
      (engine.resumeTask host now task outcome).map (setTask index)

/-- An engine with no work under way. The start times of its executions are dates; an
execution that was read back from Redis has a text there. -/
def loaded (workflows : OrderedMap String Workflow)
    (executions : OrderedMap String WorkflowExecution) : Engine where
  workflows := workflows
  executions := executions
  tasks := []
  actions := []

end Engine

end WorkflowEngine
