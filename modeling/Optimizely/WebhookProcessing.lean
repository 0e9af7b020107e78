import Mathlib.Data.List.Sort
import Mathlib.Algebra.Order.Field.Rat
import Optimizely.OrderedMap

/-!
# The webhook processing service

Received webhooks wait in a queue from which batches are processed. A webhook is in one of four
queues; its status, its queue and the statistics of its endpoint are updated when its processors
have run, and again if an error is thrown after that. Any save may be rejected.
-/

namespace WebhookProcessing

open Option

inductive CrmType where
  | salesforce
  | hubspot
  | pipedrive
  | zoho
  | custom
  deriving DecidableEq

inductive Status where
  | pending
  | processing
  | completed
  | failed
  | retrying
  deriving DecidableEq

structure WebhookStats where
  totalReceived : Nat
  totalProcessed : Nat
  totalFailed : Nat
  deriving DecidableEq

def WebhookStats.count (stats : WebhookStats) : Status → WebhookStats
  | .completed => { stats with totalProcessed := stats.totalProcessed + 1 }
  | .failed => { stats with totalFailed := stats.totalFailed + 1 }
  | _ => stats

structure WebhookEndpoint where
  crmType : CrmType
  isActive : Bool
  stats : WebhookStats
  deriving DecidableEq

structure WebhookProcessor where
  eventTypes : List String
  crmTypes : List CrmType
  priority : Rat
  isActive : Bool
  deriving DecidableEq

/-- Of the payload it matters only whether `parseWebhookEvent` accepts it. -/
structure IncomingWebhook where
  endpointId : String
  event : String
  parses : Bool
  timestamp : Nat
  status : Status
  processingAttempts : Nat
  deriving DecidableEq

inductive QueueName where
  | pending
  | processing
  | failed
  | completed
  deriving DecidableEq

/-- The ids of the webhooks in each queue. -/
abbrev WebhookQueue := QueueName → List String

/-- The statistics of an endpoint were updated for a webhook with this status. -/
structure Count where
  webhookId : String
  endpointId : String
  status : Status
  deriving DecidableEq

/-- The last three fields are histories: the ids of the webhooks pushed to the queue, of those
trimmed, and the updates of the statistics. -/
structure Service where
  endpoints : OrderedMap String WebhookEndpoint
  processors : OrderedMap String WebhookProcessor
  webhooks : OrderedMap String IncomingWebhook
  queues : WebhookQueue
  received : List String
  trimmed : List String
  counts : List Count

def maxConcurrentProcessing : Nat := 10

def maxQueueSize : Nat := 1000

/-- How many webhooks `moveWebhookToQueue` keeps in a queue. -/
def queueLimit : Nat := 1000

/-- The order in which `moveWebhookToQueue` looks for a webhook. -/
def searchOrder : List QueueName := [.pending, .processing, .failed, .completed]

def removeWebhook (queues : WebhookQueue) (id : String) : WebhookQueue :=
  match searchOrder.find? fun name => id ∈ queues name with
  | some name => Function.update queues name ((queues name).erase id)
  | none => queues

namespace Service

def timestampOf (service : Service) (id : String) : Nat :=
  ((service.webhooks.get? id).map (·.timestamp)).getD 0

def newestFirst (service : Service) (ids : List String) : List String :=
  ids.insertionSort fun a b => service.timestampOf b ≤ service.timestampOf a

def moveWebhookToQueue (service : Service) (id : String) (target : QueueName) : Service :=
  let queues := removeWebhook service.queues id
  let pushed := queues target ++ [id]
  if queueLimit < pushed.length then
    let sorted := service.newestFirst pushed
    { service with
      queues := Function.update queues target (sorted.take queueLimit)
      trimmed := service.trimmed ++ sorted.drop queueLimit }
  else { service with queues := Function.update queues target pushed }

/-- `processIncomingWebhook` up to its first save, after its checks. -/
def receive (service : Service) (id : String) (webhook : IncomingWebhook) : Service :=
  { service with
    webhooks := service.webhooks.set id webhook
    queues := Function.update service.queues .pending (service.queues .pending ++ [id])
    received := service.received ++ [id] }

def endpointOf (service : Service) (id : String) : Option WebhookEndpoint :=
  (service.webhooks.get? id).bind fun webhook => service.endpoints.get? webhook.endpointId

/-- `updateEndpointStats` up to its save. -/
def updateEndpointStats (service : Service) (id : String) : Service :=
  match service.webhooks.get? id with
  | none => service
  | some webhook =>
    match service.endpoints.get? webhook.endpointId with
    | none => service
    | some endpoint =>
      { service with
        endpoints := service.endpoints.set webhook.endpointId
          { endpoint with stats := endpoint.stats.count webhook.status }
        counts := service.counts ++ [⟨id, webhook.endpointId, webhook.status⟩] }

def countReceived (service : Service) (endpointId : String) : Service :=
  match service.endpoints.get? endpointId with
  | none => service
  | some endpoint =>
    let stats := { endpoint.stats with totalReceived := endpoint.stats.totalReceived + 1 }
    { service with
      endpoints := service.endpoints.set endpointId { endpoint with stats := stats } }

def updateWebhook (service : Service) (id : String)
    (change : IncomingWebhook → IncomingWebhook) : Service :=
  match service.webhooks.get? id with
  | none => service
  | some webhook => { service with webhooks := service.webhooks.set id (change webhook) }

/-- Status, queue and statistics. -/
def settle (service : Service) (id : String) (status : Status) (target : QueueName) : Service :=
  ((service.updateWebhook id fun webhook => { webhook with status := status }).moveWebhookToQueue
    id target).updateEndpointStats id

end Service

inductive ReceiveStage where
  | savingWebhook
  | savingEndpoint
  deriving DecidableEq

/-- A call under way. For `processWebhook`: the results of the processors so far and the number of
those that follow the awaited one; the save of the statistics, in the try or in the catch block; the
last save. From the statistics on a call carries whether the payload was parsed and all processors
succeeded. -/
inductive Call where
  | receiving (id : String) (stage : ReceiveStage)
  | processing (id : String) (results : List Bool) (following : Nat)
  | counting (id : String) (succeeded caught : Bool)
  | saving (id : String) (succeeded : Bool)
  | finished (id : String) (succeeded : Bool)
  | rejected (id : String) (succeeded : Bool)
  | ended
  deriving DecidableEq

namespace Service

/-- What is awaited after `updateEndpointStats`, which saves an endpoint that it knows. -/
def afterStats (service : Service) (id : String) (succeeded caught : Bool) : Call :=
  if (service.endpointOf id).isSome then .counting id succeeded caught else .saving id succeeded

/-- The catch block of `processWebhook`. -/
def catchError (service : Service) (id : String) (succeeded : Bool) : Service × Call :=
  let service := service.settle id .failed .failed
  (service, service.afterStats id succeeded true)

/-- The try block after the last processor. -/
def conclude (service : Service) (id : String) (results : List Bool) : Service × Call :=
  let allSuccessful := results.all (· = true)
  let service := if allSuccessful then service.settle id .completed .completed
    else service.settle id .failed .failed
  (service, service.afterStats id allSuccessful false)

def getApplicableProcessors (service : Service) (webhook : IncomingWebhook)
    (endpoint : WebhookEndpoint) : List WebhookProcessor :=
  (service.processors.values.filter fun processor =>
    processor.isActive && processor.crmTypes.contains endpoint.crmType &&
      processor.eventTypes.contains webhook.event).insertionSort
        fun a b => a.priority ≤ b.priority

/-- `processWebhookQueue` takes the first webhook that waits. -/
def take (service : Service) (id : String) (rest : List String) : Service :=
  let queues := Function.update service.queues .pending rest
  { service with queues := Function.update queues .processing (queues .processing ++ [id]) }

/-- `processWebhook` up to its first await. -/
def processWebhook (service : Service) (id : String) (webhook : IncomingWebhook) :
    Service × Call :=
  let service := service.updateWebhook id fun webhook =>
    { webhook with
      status := .processing
      processingAttempts := webhook.processingAttempts + 1 }
  match service.endpoints.get? webhook.endpointId with
  | none => service.catchError id false
  | some endpoint =>
    if webhook.parses then
      match (service.getApplicableProcessors webhook endpoint).length with
      | 0 => service.conclude id []
      | following + 1 => (service, .processing id [] following)
    else service.catchError id false

/-- The reply or the result arrives for which a call has waited. -/
def resumeCall (service : Service) (call : Call) (ok : Bool) : Option (Service × Call) :=
  match call with
  | .receiving id .savingWebhook =>
    if ok then
      match service.webhooks.get? id with
      | none => some (service, .ended)
      | some webhook =>
        some (service.countReceived webhook.endpointId, .receiving id .savingEndpoint)
    else some (service, .ended)
  | .receiving _ .savingEndpoint => some (service, .ended)
  | .processing id results following =>
    match following with
    | 0 => some (service.conclude id (results ++ [ok]))
    | following + 1 => some (service, .processing id (results ++ [ok]) following)
  | .counting id succeeded caught =>
    match caught, ok with
    | _, true => some (service, .saving id succeeded)
    | false, false => some (service.catchError id succeeded)
    | true, false => some (service, .rejected id succeeded)
  | .saving id succeeded =>
    some (service, if ok then .finished id succeeded else .rejected id succeeded)
  | .finished _ _ => none
  | .rejected _ _ => none
  | .ended => none

end Service

/-- The indices of the calls that `processWebhookQueue` awaits; there are some while
`isProcessing`. -/
structure State where
  service : Service
  calls : List Call
  batch : Option (List Nat)

inductive Label where
  | processIncomingWebhook (id endpointId event : String) (parses : Bool) (timestamp : Nat)
  | processWebhookQueue
  | resume (index : Nat) (ok : Bool)
  | release

namespace State

/-- One round of the loop of `processWebhookQueue`. -/
def startNext (s : State) : State :=
  match s.service.queues .pending with
  | [] => s
  | id :: rest =>
    let service := s.service.take id rest
    match service.webhooks.get? id with
    | none => { s with service := service }
    | some webhook =>
      let started := service.processWebhook id webhook
      { s with service := started.1, calls := s.calls ++ [started.2] }

def startBatch (s : State) : Nat → State
  | 0 => s
  | rounds + 1 => s.startNext.startBatch rounds

def isOver : Call → Bool
  | .finished _ _ => true
  | .rejected _ _ => true
  | _ => false

def isRejected : Call → Bool
  | .rejected _ _ => true
  | _ => false

/-- `Promise.all` settles when all calls have returned or one has thrown. -/
def settled (s : State) (batch : List Nat) : Bool :=
  batch.all (fun index => (s.calls[index]?).all isOver) ||
    batch.any fun index => (s.calls[index]?).any isRejected

/-- Ids are drawn once. Calls of `processIncomingWebhook` that throw before they have pushed a
webhook are left out. -/
def step (s : State) : Label → Option State
  | .processIncomingWebhook id endpointId event parses timestamp =>
    match s.service.endpoints.get? endpointId with
    | none => none
    | some endpoint =>
      if endpoint.isActive && (s.service.webhooks.get? id).isNone &&
          (s.service.queues .pending).length < maxQueueSize then
        some { s with
          service := s.service.receive id ⟨endpointId, event, parses, timestamp, .pending, 0⟩
          calls := s.calls ++ [.receiving id .savingWebhook] }
      else none
  | .processWebhookQueue =>
    let waiting := (s.service.queues .pending).length
    if s.batch.isSome || waiting = 0 then some s
    else
      let size := min maxConcurrentProcessing waiting
      let started := s.startBatch size
      some { started with batch := some (List.range' s.calls.length size) }
  | .resume index ok =>
    (s.calls[index]?).bind fun call => (s.service.resumeCall call ok).map fun result =>
      { s with service := result.1, calls := s.calls.set index result.2 }
  | .release =>
    match s.batch with
    | none => none
    | some batch => if s.settled batch then some { s with batch := none } else none

end State

inductive Resumes (service : Service) (ok : Bool) : Call → Service × Call → Prop where
  | countReceived {id endpointId : String} {stage : ReceiveStage} :
      Resumes service ok (.receiving id stage)
        (service.countReceived endpointId, .receiving id .savingEndpoint)
  | received {id : String} {stage : ReceiveStage} :
      Resumes service ok (.receiving id stage) (service, .ended)
  | processed {id : String} {results : List Bool} {following : Nat} :
      Resumes service ok (.processing id results (following + 1))
        (service, .processing id (results ++ [ok]) following)
  | conclude {id : String} {results : List Bool} :
      Resumes service ok (.processing id results 0) (service.conclude id (results ++ [ok]))
  | counted {id : String} {succeeded caught : Bool} :
      Resumes service ok (.counting id succeeded caught) (service, .saving id succeeded)
  | caught {id : String} {succeeded : Bool} (uncounted : ok = false) :
      Resumes service ok (.counting id succeeded false) (service.catchError id succeeded)
  | thrown {id : String} {succeeded : Bool} :
      Resumes service ok (.counting id succeeded true) (service, .rejected id succeeded)
  | saved {id : String} {succeeded : Bool} :
      Resumes service ok (.saving id succeeded) (service, .finished id succeeded)
  | unsaved {id : String} {succeeded : Bool} :
      Resumes service ok (.saving id succeeded) (service, .rejected id succeeded)

lemma resumes_of_resumeCall {svc : Service} {c : Call} {ok : Bool}
    {r : Service × Call} (hr : svc.resumeCall c ok = some r) : Resumes svc ok c r := by
  cases c with
  | receiving id sg =>
    cases sg with
    | savingWebhook =>
      rw [Service.resumeCall] at hr
      split at hr
      · split at hr
        · cases hr
          exact .received
        · cases hr
          exact .countReceived
      · cases hr
        exact .received
    | savingEndpoint =>
      cases hr
      exact .received
  | processing id results f =>
    cases f with
    | zero =>
      cases hr
      exact .conclude
    | succ f =>
      cases hr
      exact .processed
  | counting id su cg =>
    cases cg <;> cases ok <;> cases hr
    · exact .caught rfl
    · exact .counted
    · exact .thrown
    · exact .counted
  | saving id su =>
    cases ok <;> cases hr
    · exact .unsaved
    · exact .saved
  | finished | rejected | ended => cases hr

inductive Steps (s : State) : Label → State → Prop where
  | receive {id event : String} {parses : Bool} {timestamp : Nat} {endpointId : String}
      {endpoint : WebhookEndpoint} (known : s.service.endpoints.get? endpointId = some endpoint)
      (fresh : s.service.webhooks.get? id = none) :
      Steps s (.processIncomingWebhook id endpointId event parses timestamp) { s with
        service := s.service.receive id ⟨endpointId, event, parses, timestamp, .pending, 0⟩
        calls := s.calls ++ [.receiving id .savingWebhook] }
  | pass : Steps s .processWebhookQueue s
  | start {size : Nat} {batch : List Nat} (idle : s.batch = none)
      (bounded : size ≤ maxConcurrentProcessing) :
      Steps s .processWebhookQueue { s.startBatch size with batch := some batch }
  | resume {index : Nat} {ok : Bool} {call : Call} {result : Service × Call}
      (found : s.calls[index]? = some call) (replied : Resumes s.service ok call result) :
      Steps s (.resume index ok)
        { s with service := result.1, calls := s.calls.set index result.2 }
  | release : Steps s .release { s with batch := none }

lemma steps_of_step {s t : State} {l : Label} (hmo : s.step l = some t) : Steps s l t := by
  cases l with
  | processIncomingWebhook id endpointId e parses timestamp =>
    simp only [State.step] at hmo
    split at hmo
    · cases hmo
    · rename_i endpoint hkn
      simp only [ite_none_right_eq_some, Bool.and_eq_true, isNone_iff_eq_none] at hmo
      obtain ⟨⟨⟨-, hfr⟩, -⟩, hmo⟩ := hmo
      cases hmo
      exact .receive hkn hfr
  | processWebhookQueue =>
    simp only [State.step] at hmo
    split at hmo
    · cases hmo
      exact .pass
    · rename_i hi
      simp only [Bool.or_eq_true, not_or] at hi
      cases hmo
      exact .start (by simpa using hi.1) (Nat.min_le_left _ _)
  | resume i ok =>
    obtain ⟨c, hf, hcn⟩ := bind_eq_some_iff.mp hmo
    obtain ⟨r, hrp, rfl⟩ := map_eq_some_iff.mp hcn
    exact .resume hf (resumes_of_resumeCall hrp)
  | release =>
    simp only [State.step] at hmo
    split at hmo
    · cases hmo
    · simp only [ite_none_right_eq_some] at hmo
      cases hmo.2
      exact .release

def launched (endpoints : OrderedMap String WebhookEndpoint)
    (processors : OrderedMap String WebhookProcessor) : State where
  service :=
    { endpoints := endpoints
      processors := processors
      webhooks := .empty
      queues := fun _ => []
      received := []
      trimmed := []
      counts := [] }
  calls := []
  batch := none

end WebhookProcessing
