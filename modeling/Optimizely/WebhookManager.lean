import Mathlib.Data.List.Sort
import Optimizely.OrderedMap

/-!
# The webhook manager

Webhook endpoints are kept in memory and in the Redis hash `webhooks`. A delivery is attempted by
`sendWebhook`, by the timer of a failed attempt, and by the retry processor. An attempt holds on to
its endpoint across the request and then writes it to Redis, registered or not. Redis commands take
effect in the order of issue; any may be lost, and the reply of one that took effect may be an
error.
-/

namespace WebhookManager

open Option OrderedMap

structure WebhookEndpoint where
  id : String
  clientId : String
  url : String
  events : List String
  active : Bool
  failureCount : Nat
  maxRetries : Nat
  deriving DecidableEq

/-- `Partial<WebhookEndpoint>`. -/
structure WebhookUpdates where
  id : Option String
  clientId : Option String
  url : Option String
  events : Option (List String)
  active : Option Bool
  failureCount : Option Nat
  maxRetries : Option Nat
  deriving DecidableEq

def WebhookEndpoint.assign (webhook : WebhookEndpoint) (updates : WebhookUpdates) :
    WebhookEndpoint where
  id := updates.id.getD webhook.id
  clientId := updates.clientId.getD webhook.clientId
  url := updates.url.getD webhook.url
  events := updates.events.getD webhook.events
  active := updates.active.getD webhook.active
  failureCount := updates.failureCount.getD webhook.failureCount
  maxRetries := updates.maxRetries.getD webhook.maxRetries

inductive Status where
  | pending
  | success
  | failed
  | retrying
  deriving DecidableEq

structure WebhookDelivery where
  webhookId : String
  event : String
  status : Status
  attempts : Nat
  createdAt : Nat
  deriving DecidableEq

structure Post where
  deliveryId : String
  url : String
  deriving DecidableEq

/-- `objects` are the endpoints that were ever registered, under their keys, and `webhooks` the keys
still in the map; an attempt refers to an object. Deliveries are named by their ids, in the queue
and by timers. `posts` is a history. -/
structure Manager where
  objects : OrderedMap String WebhookEndpoint
  webhooks : List String
  deliveries : OrderedMap String WebhookDelivery
  deliveryQueue : List String
  timers : List String
  redis : OrderedMap String WebhookEndpoint
  posts : List Post

def maxDeliveries : Nat := 1000

/-- The number of failures after which an endpoint is disabled. -/
def failureLimit : Nat := 10

def loadWebhooks (redis : OrderedMap String WebhookEndpoint) : Manager where
  objects := redis
  webhooks := redis.keys
  deliveries := .empty
  deliveryQueue := []
  timers := []
  redis := redis
  posts := []

namespace Manager

def getWebhook (manager : Manager) (webhookId : String) : Option WebhookEndpoint :=
  if webhookId ∈ manager.webhooks then manager.objects.get? webhookId else none

def setObject (manager : Manager) (webhookId : String) (webhook : WebhookEndpoint) : Manager :=
  { manager with objects := manager.objects.set webhookId webhook }

def setDelivery (manager : Manager) (deliveryId : String) (delivery : WebhookDelivery) :
    Manager :=
  { manager with deliveries := manager.deliveries.set deliveryId delivery }

/-- `deliveryQueue.push`, for a new delivery. -/
def enqueue (manager : Manager) (deliveryId : String) (delivery : WebhookDelivery) : Manager :=
  { manager.setDelivery deliveryId delivery with
    deliveryQueue := manager.deliveryQueue ++ [deliveryId] }

/-- A timer that fires is no longer set. -/
def dropTimer (manager : Manager) (index : Nat) : Manager :=
  { manager with timers := manager.timers.eraseIdx index }

/-- `hset`, if the command takes effect. -/
def hset (manager : Manager) (field : String) (webhook : WebhookEndpoint) (applied : Bool) :
    Manager :=
  if applied then { manager with redis := manager.redis.set field webhook } else manager

def hdel (manager : Manager) (field : String) (applied : Bool) : Manager :=
  if applied then { manager with redis := manager.redis.erase field } else manager

end Manager

/-- What an attempt waits for. -/
inductive Stage where
  | fetching
  | disabling (applied : Bool)
  | updating (applied : Bool)
  | returning
  deriving DecidableEq

/-- A call under way. An attempt belongs to a call of `sendWebhook` that goes on with its other
endpoints, or to a timer or the retry processor, which do not wait. -/
inductive Call where
  | attempting (deliveryId : String) (stage : Stage) (event : String) (rest : List String)
  | registering (webhookId : String) (applied : Bool)
  | updating (webhookId : String) (applied : Bool)
  | deleting (webhookId : String) (applied : Bool)
  | deleted (webhookId : String)
  | ended
  deriving DecidableEq

namespace Manager

/-- `attemptDelivery` up to its request. -/
def attemptDelivery (manager : Manager) (deliveryId : String) : Manager × Stage :=
  match manager.deliveries.get? deliveryId with
  | none => (manager, .returning)
  | some delivery =>
    match manager.getWebhook delivery.webhookId with
    | none => (manager.setDelivery deliveryId { delivery with status := .failed }, .returning)
    | some webhook =>
      if webhook.active then
        let manager := manager.setDelivery deliveryId
          { delivery with status := .pending, attempts := delivery.attempts + 1 }
        ({ manager with posts := manager.posts ++ [⟨deliveryId, webhook.url⟩] }, .fetching)
      else (manager.setDelivery deliveryId { delivery with status := .failed }, .returning)

/-- The last write of an attempt. -/
def updateData (manager : Manager) (webhookId : String) (applied : Bool) : Manager × Stage :=
  match manager.objects.get? webhookId with
  | none => (manager, .returning)
  | some webhook => (manager.hset webhook.id webhook applied, .updating applied)

def deliver (manager : Manager) (deliveryId : String) (delivery : WebhookDelivery)
    (webhook : WebhookEndpoint) (applied : Bool) : Manager × Stage :=
  ((manager.setDelivery deliveryId { delivery with status := .success }).setObject
    delivery.webhookId { webhook with failureCount := 0 }).updateData delivery.webhookId applied

/-- The catch block. -/
def fail (manager : Manager) (deliveryId : String) (delivery : WebhookDelivery)
    (webhook : WebhookEndpoint) (applied : Bool) : Manager × Stage :=
  let webhook := { webhook with failureCount := webhook.failureCount + 1 }
  let manager := manager.setObject delivery.webhookId webhook
  if delivery.attempts < webhook.maxRetries then
    let manager := manager.setDelivery deliveryId { delivery with status := .retrying }
    ({ manager with timers := manager.timers ++ [deliveryId] }).updateData
      delivery.webhookId applied
  else
    let manager := manager.setDelivery deliveryId { delivery with status := .failed }
    if failureLimit ≤ webhook.failureCount then
      let webhook := { webhook with active := false }
      ((manager.setObject delivery.webhookId webhook).hset webhook.id webhook applied,
        .disabling applied)
    else manager.updateData delivery.webhookId applied

def completeRequest (manager : Manager) (deliveryId : String) (ok applied : Bool) :
    Manager × Stage :=
  match manager.deliveries.get? deliveryId with
  | none => (manager, .returning)
  | some delivery =>
    match manager.objects.get? delivery.webhookId with
    | none => (manager, .returning)
    | some webhook =>
      if ok then manager.deliver deliveryId delivery webhook applied
      else manager.fail deliveryId delivery webhook applied

/-- The loop of `sendWebhook`; the id and the time are those of the next delivery. -/
def sendNext (manager : Manager) (event : String) (webhooks : List String) (deliveryId : String)
    (now : Nat) : Manager × Call :=
  match webhooks with
  | [] => (manager, .ended)
  | webhookId :: rest =>
    match manager.objects.get? webhookId with
    | none => (manager, .ended)
    | some webhook =>
      let started := (manager.enqueue deliveryId
        ⟨webhook.id, event, .pending, 0, now⟩).attemptDelivery deliveryId
      (started.1, .attempting deliveryId started.2 event rest)

/-- The endpoints that `sendWebhook` selects. -/
def clientWebhooks (manager : Manager) (clientId event : String) : List String :=
  manager.webhooks.filter fun webhookId => (manager.objects.get? webhookId).any fun webhook =>
    webhook.clientId = clientId && webhook.active && webhook.events.contains event

/-- `this.webhooks.get(delivery.webhookId)?.maxRetries || 3`. -/
def retryLimit (manager : Manager) (webhookId : String) : Nat :=
  match manager.getWebhook webhookId with
  | none => 3
  | some webhook => if webhook.maxRetries = 0 then 3 else webhook.maxRetries

def pendingRetries (manager : Manager) : List String :=
  manager.deliveryQueue.filter fun deliveryId =>
    (manager.deliveries.get? deliveryId).any fun delivery =>
      delivery.status = .retrying && delivery.attempts < manager.retryLimit delivery.webhookId

def createdAt (manager : Manager) (deliveryId : String) : Nat :=
  ((manager.deliveries.get? deliveryId).map (·.createdAt)).getD 0

/-- Only the newest deliveries are kept in the queue. -/
def cleanUp (manager : Manager) : Manager :=
  if maxDeliveries < manager.deliveryQueue.length then
    { manager with
      deliveryQueue := (manager.deliveryQueue.insertionSort fun a b =>
        manager.createdAt b ≤ manager.createdAt a).take maxDeliveries }
  else manager

end Manager

structure State where
  manager : Manager
  calls : List Call

/-- `resume` carries the reply, whether a command that is issued then takes effect, and what the
next delivery of a call of `sendWebhook` is given. -/
inductive Label where
  | registerWebhook (webhookId clientId url : String) (events : List String) (applied : Bool)
  | updateWebhook (webhookId : String) (updates : WebhookUpdates) (applied : Bool)
  | deleteWebhook (webhookId : String) (applied : Bool)
  | sendWebhook (clientId event deliveryId : String) (now : Nat)
  | timer (index : Nat)
  | retryProcessor
  | resume (index : Nat) (ok applied : Bool) (deliveryId : String) (now : Nat)

namespace Manager

/-- What follows for a call; `none` if the reply cannot come. -/
def resumeCall (manager : Manager) (call : Call) (ok applied : Bool) (deliveryId : String)
    (now : Nat) : Option (Manager × Call) :=
  match call with
  | .attempting id .fetching event rest =>
    let completed := manager.completeRequest id ok applied
    some (completed.1, .attempting id completed.2 event rest)
  | .attempting id (.disabling issued) event rest =>
    if ok && !issued then none
    else if ok then
      match manager.deliveries.get? id with
      | none => none
      | some delivery =>
        let updated := manager.updateData delivery.webhookId applied
        some (updated.1, .attempting id updated.2 event rest)
    else some (manager, .ended)
  | .attempting _ (.updating issued) event rest =>
    if ok && !issued then none
    else if ok then some (manager.sendNext event rest deliveryId now)
    else some (manager, .ended)
  | .attempting _ .returning event rest => some (manager.sendNext event rest deliveryId now)
  | .registering _ issued => if ok && !issued then none else some (manager, .ended)
  | .updating _ issued => if ok && !issued then none else some (manager, .ended)
  | .deleting webhookId issued =>
    if ok && !issued then none
    else some (manager, if ok then .deleted webhookId else .ended)
  | .deleted _ => none
  | .ended => none

end Manager

namespace State

/-- An attempt that nothing waits for. -/
def attempt (s : State) (deliveryId : String) : State :=
  let started := s.manager.attemptDelivery deliveryId
  ⟨started.1, s.calls ++ [.attempting deliveryId started.2 "" []]⟩

/-- Webhook and delivery ids are drawn once. -/
def step (s : State) : Label → Option State
  | .registerWebhook webhookId clientId url events applied =>
    if (s.manager.objects.get? webhookId).isNone then
      let webhook : WebhookEndpoint := ⟨webhookId, clientId, url, events, true, 0, 3⟩
      let manager := s.manager.setObject webhookId webhook
      some ⟨{ manager with webhooks := manager.webhooks ++ [webhookId] }.hset
        webhookId webhook applied, s.calls ++ [.registering webhookId applied]⟩
    else none
  | .updateWebhook webhookId updates applied =>
    match s.manager.getWebhook webhookId with
    | none => some s
    | some webhook =>
      let webhook := webhook.assign updates
      some ⟨(s.manager.setObject webhookId webhook).hset webhookId webhook applied,
        s.calls ++ [.updating webhookId applied]⟩
  | .deleteWebhook webhookId applied =>
    match s.manager.getWebhook webhookId with
    | none => some s
    | some _ =>
      some ⟨{ s.manager with webhooks := s.manager.webhooks.erase webhookId }.hdel
        webhookId applied, s.calls ++ [.deleting webhookId applied]⟩
  | .sendWebhook clientId event deliveryId now =>
    if (s.manager.deliveries.get? deliveryId).isNone then
      let sent := s.manager.sendNext event (s.manager.clientWebhooks clientId event) deliveryId now
      some ⟨sent.1, s.calls ++ [sent.2]⟩
    else none
  | .timer index =>
    (s.manager.timers[index]?).map fun deliveryId =>
      attempt ⟨s.manager.dropTimer index, s.calls⟩ deliveryId
  | .retryProcessor =>
    let attempted := s.manager.pendingRetries.foldl attempt s
    some { attempted with manager := attempted.manager.cleanUp }
  | .resume index ok applied deliveryId now =>
    if (s.manager.deliveries.get? deliveryId).isNone then
      (s.calls[index]?).bind fun call =>
        (s.manager.resumeCall call ok applied deliveryId now).map fun result =>
          ⟨result.1, s.calls.set index result.2⟩
    else none

end State

/-- The same endpoints, which may have become inactive or have another failure count. -/
def SameEndpoints (before after : OrderedMap String WebhookEndpoint) : Prop :=
  ∀ key, (after.get? key).map (fun webhook => (webhook.id, webhook.maxRetries)) =
    (before.get? key).map fun webhook => (webhook.id, webhook.maxRetries)

lemma SameEndpoints.trans {first we third : OrderedMap String WebhookEndpoint}
    (left : SameEndpoints first we) (right : SameEndpoints we third) : SameEndpoints first third :=
  fun k => (right k).trans (left k)

lemma SameEndpoints.set {os : OrderedMap String WebhookEndpoint} {k : String}
    {w new : WebhookEndpoint} (hf : os.get? k = some w)
    (id : new.id = w.id) (hm : new.maxRetries = w.maxRetries) : SameEndpoints os (os.set k new) :=
  map_get?_set _ hf (Prod.ext id hm)

namespace Manager

variable {m : Manager} {w : WebhookEndpoint} {wi wid id : String} {d dl : WebhookDelivery}

lemma getWebhook_eq_some : m.getWebhook wi = some w ↔
      wi ∈ m.webhooks ∧ m.objects.get? wi = some w := by
  rw [getWebhook, ite_none_right_eq_some]

lemma get?_hset_of_ne (m : Manager) {field x : String} (hne : field ≠ x)
    (w : WebhookEndpoint) (ap : Bool) : (m.hset field w ap).redis.get? x = m.redis.get? x := by
  cases ap with
  | false => rfl
  | true => simp [hset, get?_set, hne]

lemma attemptDelivery_spec (hf : m.deliveries.get? id = some dl) : m.attemptDelivery id =
        (m.setDelivery id { dl with status := .failed }, .returning) ∨
      ∃ w, m.getWebhook dl.webhookId = some w ∧ m.attemptDelivery id = ({ m.setDelivery id
              { dl with status := .pending, attempts := dl.attempts + 1 } with
            posts := m.posts ++ [⟨id, w.url⟩] }, .fetching) := by
  simp only [attemptDelivery, hf]
  cases m.getWebhook dl.webhookId with
  | none => exact .inl rfl
  | some w =>
    by_cases hac : w.active
    · exact .inr ⟨w, rfl, by simp [hac, setDelivery]⟩
    · exact .inl (by simp [hac])

lemma updateData_spec (m : Manager) (hf : m.objects.get? wid = some w) (ap : Bool) :
    ∃ redis, m.updateData wid ap = ({ m with redis := redis }, .updating ap) ∧
      ∀ field, w.id ≠ field → redis.get? field = m.redis.get? field := by
  refine ⟨(m.hset w.id w ap).redis, ?_, fun field hne => ?_⟩
  · simp only [updateData, hf]
    cases ap <;> rfl
  · exact m.get?_hset_of_ne hne w ap

/-- A request that was answered leaves its delivery delivered, waiting for a timer or failed, and
its endpoint is written to Redis. -/
lemma completeRequest_spec (hf : m.deliveries.get? id = some d)
    (hkn : m.objects.get? d.webhookId = some w) (ok ap : Bool) :
    ∃ objects redis status timers sg, m.completeRequest id ok ap = ({ m with
          objects := objects
          redis := redis
          timers := timers
          deliveries := m.deliveries.set id { d with status := status } }, sg) ∧
      sg ≠ .fetching ∧ SameEndpoints m.objects objects ∧
      (∀ field, w.id ≠ field → redis.get? field = m.redis.get? field) ∧
      ((status = .success ∧ timers = m.timers) ∨ (status = .retrying ∧ timers = m.timers ++ [id] ∧
          d.attempts < w.maxRetries) ∨ (status = .failed ∧ timers = m.timers)) := by
  have hp : ∀ new : WebhookEndpoint,
      (m.objects.set d.webhookId new).get? d.webhookId = some new := by
    intro new
    rw [get?_set, if_pos rfl]
  simp only [completeRequest, hf, hkn]
  cases ok with
  | true =>
    simp only [if_true, deliver]
    obtain ⟨redis, hs, ho⟩ := updateData_spec
      ((m.setDelivery id { d with status := .success }).setObject
        d.webhookId { w with failureCount := 0 }) (hp _) ap
    exact ⟨_, redis, .success, _, _, hs, by simp, .set hkn rfl rfl, ho, .inl ⟨rfl, rfl⟩⟩
  | false =>
    have hct : SameEndpoints m.objects (m.objects.set d.webhookId
        { w with failureCount := w.failureCount + 1 }) := .set hkn rfl rfl
    simp only [Bool.false_eq_true, if_false, fail]
    split
    · rename_i below
      obtain ⟨redis, hs, ho⟩ := updateData_spec { ((m.setObject d.webhookId
          { w with failureCount := w.failureCount + 1 }).setDelivery id
            { d with status := .retrying }) with timers := m.timers ++ [id] }
        (hp _) ap
      exact ⟨_, redis, .retrying, _, _, hs, by simp, hct, ho, .inr (.inl ⟨rfl, rfl, below⟩)⟩
    · split
      · have ho : ∀ field, w.id ≠ field → _ = m.redis.get? field :=
          fun field hne => m.get?_hset_of_ne hne { w with
            failureCount := w.failureCount + 1
            active := false } ap
        cases ap <;> exact ⟨_, _, .failed, _, _, rfl, by simp, hct.trans (.set (hp _) rfl rfl),
            ho, .inr (.inr ⟨rfl, rfl⟩)⟩
      · obtain ⟨redis, hs, ho⟩ := updateData_spec ((m.setObject d.webhookId
            { w with failureCount := w.failureCount + 1 }).setDelivery id
              { d with status := .failed }) (hp _) ap
        exact ⟨_, redis, .failed, _, _, hs, by simp, hct, ho, .inr (.inr ⟨rfl, rfl⟩)⟩

inductive Resumes (manager : Manager) (ok applied : Bool) (deliveryId : String) (now : Nat) :
    Call → Manager × Call → Prop where
  | request {id event : String} {rest : List String} :
      Resumes manager ok applied deliveryId now (.attempting id .fetching event rest)
        ((manager.completeRequest id ok applied).1,
          .attempting id (manager.completeRequest id ok applied).2 event rest)
  | disabled {id event : String} {rest : List String} {issued : Bool} {delivery : WebhookDelivery}
      (found : manager.deliveries.get? id = some delivery) :
      Resumes manager ok applied deliveryId now (.attempting id (.disabling issued) event rest)
        ((manager.updateData delivery.webhookId applied).1,
          .attempting id (manager.updateData delivery.webhookId applied).2 event rest)
  | next {id event : String} {stage : Stage} {rest : List String} (answered : stage ≠ .fetching) :
      Resumes manager ok applied deliveryId now (.attempting id stage event rest)
        (manager.sendNext event rest deliveryId now)
  | deleted {webhookId : String} :
      Resumes manager ok applied deliveryId now (.deleting webhookId true)
        (manager, .deleted webhookId)
  | finish {call : Call} (answered : ∀ id event rest, call ≠ .attempting id .fetching event rest) :
      Resumes manager ok applied deliveryId now call (manager, .ended)

lemma resumes_of_resumeCall {c : Call} {ok ap : Bool}
    {did : String} {now : Nat} {r : Manager × Call} (hrp : m.resumeCall c ok ap did now = some r) :
    Resumes m ok ap did now c r := by
  cases c with
  | attempting id sg e rest =>
    cases sg with
    | fetching =>
      cases hrp
      exact .request
    | disabling b =>
      simp only [resumeCall, ite_none_left_eq_some] at hrp
      obtain ⟨-, hrp⟩ := hrp
      split at hrp
      · split at hrp
        · cases hrp
        · rename_i dl hf
          cases hrp
          exact .disabled hf
      · cases hrp
        exact .finish (by simp)
    | updating b =>
      simp only [resumeCall, ite_none_left_eq_some] at hrp
      obtain ⟨-, hrp⟩ := hrp
      split at hrp
      · cases hrp
        exact .next (by simp)
      · cases hrp
        exact .finish (by simp)
    | returning =>
      cases hrp
      exact .next (by simp)
  | registering | updating =>
    simp only [resumeCall, ite_none_left_eq_some] at hrp
    cases hrp.2
    exact .finish (by simp)
  | deleting wid b =>
    simp only [resumeCall, ite_none_left_eq_some] at hrp
    obtain ⟨hp, hrp⟩ := hrp
    cases ok with
    | true =>
      obtain rfl : b = true := by simpa using hp
      cases hrp
      exact .deleted
    | false =>
      cases hrp
      exact .finish (by simp)
  | deleted | ended => cases hrp

end Manager

namespace State

variable {ap : Bool} {d ci : String} {now : Nat} {s t : State}

lemma resume_cases {i : Nat} {ok : Bool} (hr : s.step (.resume i ok ap d now) = some t) :
    s.manager.deliveries.get? d = none ∧ ∃ c r, s.calls[i]? = some c ∧
        Manager.Resumes s.manager ok ap d now c r ∧ t = ⟨r.1, s.calls.set i r.2⟩ := by
  simp only [step, ite_none_right_eq_some, isNone_iff_eq_none] at hr
  obtain ⟨hfr, hr⟩ := hr
  obtain ⟨c, hf, hcn⟩ := bind_eq_some_iff.mp hr
  obtain ⟨r, hrp, rfl⟩ := map_eq_some_iff.mp hcn
  exact ⟨hfr, c, r, hf, Manager.resumes_of_resumeCall hrp, rfl⟩

lemma send_cases {e : String} (hs : s.step (.sendWebhook ci e d now) = some t) :
    s.manager.deliveries.get? d = none ∧ ∃ ws, t = ⟨(s.manager.sendNext e ws d now).1,
        s.calls ++ [(s.manager.sendNext e ws d now).2]⟩ := by
  simp only [step, ite_none_right_eq_some, isNone_iff_eq_none] at hs
  exact ⟨hs.1, _, (some.inj hs.2).symm⟩

lemma register_cases {wid url : String} {es : List String}
    (hrg : s.step (.registerWebhook wid ci url es ap) = some t) :
    s.manager.objects.get? wid = none ∧ ∃ redis : OrderedMap String WebhookEndpoint,
      (∀ k, wid ≠ k → redis.get? k = s.manager.redis.get? k) ∧ t = ⟨{ s.manager with
        objects := s.manager.objects.set wid ⟨wid, ci, url, es, true, 0, 3⟩
        webhooks := s.manager.webhooks ++ [wid]
        redis := redis }, s.calls ++ [.registering wid ap]⟩ := by
  simp only [step, ite_none_right_eq_some, isNone_iff_eq_none] at hrg
  refine ⟨hrg.1, ?_⟩
  have ho : ∀ k, wid ≠ k → _ = s.manager.redis.get? k := fun k hne =>
    s.manager.get?_hset_of_ne hne ⟨wid, ci, url, es, true, 0, 3⟩ ap
  cases ap <;> exact ⟨_, ho, (some.inj hrg.2).symm⟩

end State

def launched (redis : OrderedMap String WebhookEndpoint) : State := ⟨loadWebhooks redis, []⟩

/-- Redis holds one endpoint, as `registerWebhook` has written it. -/
def oneEndpoint : OrderedMap String WebhookEndpoint :=
  .set .empty "wh1" ⟨"wh1", "client", "/hook", ["order"], true, 0, 3⟩

end WebhookManager
