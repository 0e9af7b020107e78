import Optimizely.OrderedMap

/-!
# The WebSocket connection of the tracker

The manager of a page with the sockets opened so far, its timers and its queue. A socket reports to
the handlers that `connect` gave it, whether or not it still is the manager's. A promise that
`reconnect` waits for goes on as a microtask: an event or a timer comes only when there is none
left, a call may come before.
-/

namespace WebSocketManager

open Option

structure Options where
  url : Option String := none
  reconnect : Option Bool := none
  reconnectInterval : Option Nat := none
  maxReconnectAttempts : Option Nat := none
  heartbeatInterval : Option Nat := none
  messageQueueSize : Option Nat := none
  enableFallback : Option Bool := none
  fallbackUrl : Option String := none
  timeout : Option Nat := none

structure WebSocketConfig where
  url : String
  reconnect : Bool
  reconnectInterval : Nat
  maxReconnectAttempts : Nat
  heartbeatInterval : Nat
  messageQueueSize : Nat
  enableFallback : Bool
  fallbackUrl : String
  timeout : Nat
  deriving DecidableEq

/-- `value || standard` for a number. -/
def orNumber (value : Option Nat) (standard : Nat) : Nat :=
  if value.getD 0 = 0 then standard else value.getD 0

/-- `value || standard` for a string. -/
def orString (value : Option String) (standard : String) : String :=
  if value.getD "" = "" then standard else value.getD ""

def Options.config (options : Options) : WebSocketConfig where
  url := orString options.url ""
  reconnect := options.reconnect != some false
  reconnectInterval := orNumber options.reconnectInterval 5000
  maxReconnectAttempts := orNumber options.maxReconnectAttempts 10
  heartbeatInterval := orNumber options.heartbeatInterval 30000
  messageQueueSize := orNumber options.messageQueueSize 1000
  enableFallback := options.enableFallback != some false
  fallbackUrl := orString options.fallbackUrl ""
  timeout := orNumber options.timeout 10000

structure HeartbeatConfig where
  interval : Nat
  timeout : Nat
  maxMissed : Nat
  enabled : Bool

def WebSocketConfig.heartbeatConfig (config : WebSocketConfig) : HeartbeatConfig where
  interval := config.heartbeatInterval
  timeout := 5000
  maxMissed := 3
  enabled := true

/-- The url of the fallback transport, where there is one. -/
def WebSocketConfig.fallbackTransport (config : WebSocketConfig) : Option String :=
  if config.enableFallback ∧ config.fallbackUrl ≠ "" then some config.fallbackUrl else none

inductive MessageType where
  | event
  | heartbeat
  | ack
  | error
  | command
  deriving DecidableEq

inductive Priority where
  | low
  | normal
  | high
  | critical
  deriving DecidableEq

/-- What `send` is given. -/
structure Draft where
  type : MessageType
  priority : Option Priority
  deriving DecidableEq

structure Message extends Draft where
  id : Nat
  timestamp : Nat
  sessionId : String
  visitorId : String
  deriving DecidableEq

structure QueuedMessage extends Message where
  attempts : Nat
  nextRetry : Nat
  maxRetries : Nat
  deriving DecidableEq

inductive MessageEvent where
  | sent (message : Message)
  | queued (message : Message)
  | failed (message : Message)
  | queueFull (size : Nat) (dropped : Option QueuedMessage)
  deriving DecidableEq

/-- A message that was dropped for lack of room, with what is queued after that. -/
structure Eviction where
  dropped : QueuedMessage
  kept : List QueuedMessage
  deriving DecidableEq

/-- The queue with the number of messages sent and the events emitted for them. The ids of the
messages passed to `send`, sent and dropped, and the evictions, are histories. -/
structure Outbox where
  messageQueue : List QueuedMessage
  messagesSet : Nat
  emitted : List MessageEvent
  passed : List Nat
  sent : List Nat
  dropped : List Nat
  evictions : List Eviction

namespace Outbox

def empty : Outbox := ⟨[], 0, [], [], [], [], []⟩

/-- `shift` with the event for it. -/
def makeRoom (o : Outbox) : Outbox :=
  { o with
    messageQueue := o.messageQueue.tail
    emitted := o.emitted ++ [.queueFull o.messageQueue.tail.length o.messageQueue.head?]
    dropped := o.dropped ++ (o.messageQueue.head?.map fun message => message.id).toList }

def queued (now : Nat) (message : Message) : QueuedMessage where
  toMessage := message
  attempts := 0
  nextRetry := now
  maxRetries := if message.priority = some .critical then 5 else 3

def push (o : Outbox) (now : Nat) (message : Message) : Outbox :=
  { o with
    messageQueue := o.messageQueue ++ [queued now message]
    emitted := o.emitted ++ [.queued message] }

def queueMessage (o : Outbox) (size now : Nat) (message : Message) : Outbox :=
  if size ≤ o.messageQueue.length then
    let full := o.makeRoom.push now message
    { full with
      evictions := full.evictions ++
        (o.messageQueue.head?.map fun oldest => ⟨oldest, full.messageQueue⟩).toList }
  else o.push now message

/-- `send` of the socket has taken the message. -/
def record (o : Outbox) (message : Message) : Outbox :=
  { o with
    messagesSet := o.messagesSet + 1
    emitted := o.emitted ++ [.sent message]
    sent := o.sent ++ [message.id] }

def isDue (now : Nat) (message : QueuedMessage) : Bool :=
  message.nextRetry ≤ now && message.attempts < message.maxRetries

def remove (o : Outbox) (id : Nat) : Outbox :=
  { o with messageQueue := o.messageQueue.filter fun message => message.id != id }

def retried (now : Nat) (message : QueuedMessage) : QueuedMessage :=
  { message with
    attempts := message.attempts + 1
    nextRetry := now + (message.attempts + 1) * 1000 }

/-- The message object of the queue is changed. -/
def update (o : Outbox) (message : QueuedMessage) : Outbox :=
  { o with
    messageQueue := o.messageQueue.map fun other =>
      if other.id = message.id then message else other }

/-- One round of the loop of `_processQueue`. Sending fails for the ids of `fails`. -/
def attempt (now : Nat) (fails : List Nat) (o : Outbox) (message : QueuedMessage) : Outbox :=
  if message.id ∈ fails then
    let again := retried now message
    if again.maxRetries ≤ again.attempts then
      let removed := (o.update again).remove message.id
      { removed with
        emitted := removed.emitted ++ [.failed again.toMessage]
        dropped := removed.dropped ++ [message.id] }
    else o.update again
  else (o.remove message.id).record message.toMessage

def process (o : Outbox) (now : Nat) (fails : List Nat) : Outbox :=
  (o.messageQueue.filter (isDue now)).foldl (attempt now fails) o

end Outbox

inductive ReadyState where
  | connecting
  | opened
  | closing
  | closed
  deriving DecidableEq

/-- A socket, with whether its close event has been delivered, and whether a call of `reconnect`
waits for it. -/
structure Socket where
  readyState : ReadyState
  finished : Bool
  awaited : Bool
  deriving DecidableEq

inductive Status where
  | disconnected
  | connecting
  | connected
  | reconnecting
  | error
  | closed
  deriving DecidableEq

structure ConnectionState where
  status : Status
  url : String
  reconnectAttempts : Nat
  lastError : Option String
  connectedAt : Option Nat
  disconnectedAt : Option Nat
  latency : Option Nat
  deriving DecidableEq

structure Metrics where
  messagesReceived : Nat
  reconnections : Nat
  errors : Nat
  averageLatency : Rat
  lastActivity : Nat
  deriving DecidableEq

structure Timer where
  id : Nat
  due : Nat
  deriving DecidableEq

/-- The timers that are set. A field with the id of a timer that has fired counts as empty, as to
clear it does nothing. Of the timeouts of heartbeats, the field holds the last. The timeouts of
`connect` are in no field; each has the number of its socket. -/
structure Timers where
  heartbeatInterval : Option Timer
  heartbeatTimeout : Option Nat
  heartbeatTimeouts : List Timer
  reconnectTimeout : Option Timer
  queueProcessorInterval : Option Timer
  connectTimeouts : List (Timer × Nat)
  deriving DecidableEq

/-- How a promise that `reconnect` waits for was settled. -/
inductive Outcome where
  | resolved
  | rejected
  deriving DecidableEq

inductive Notice where
  | opened
  | closed
  | error (message : String)
  | reconnecting
  | reconnected
  | received
  | heartbeatSent (timestamp : Nat)
  | heartbeatReceived (timestamp latency : Nat)
  | fallbackActivated (reason url : String)
  deriving DecidableEq

/-- What the manager does not keep: that `init` was called, that the page has asked for a connection
and not called `disconnect` since, the number of sockets opened while it had not, the calls of
`reconnect` by missed heartbeats, the heartbeats sent since the socket opened or a pong arrived, and
that `maxMissed` of them had been sent when a timeout passed. -/
structure History where
  initialized : Bool
  wanted : Bool
  strays : Nat
  heartbeatCalls : Nat
  unanswered : Nat
  overdue : Bool
  deriving DecidableEq

structure State where
  now : Nat
  config : WebSocketConfig
  sockets : List Socket
  socket : Option Nat
  connectionState : ConnectionState
  metrics : Metrics
  outbox : Outbox
  timers : Timers
  sessionId : Option String
  visitorId : Option String
  heartbeatsMissed : Nat
  destroyed : Bool
  pendingPings : OrderedMap Nat Nat
  microtasks : List Outcome
  nextId : Nat
  nextTimer : Nat
  notices : List Notice
  history : History

/-- The constructor. -/
def create (options : Options) : State where
  now := 0
  config := options.config
  sockets := []
  socket := none
  connectionState := ⟨.disconnected, options.config.url, 0, none, none, none, none⟩
  metrics := ⟨0, 0, 0, 0, 0⟩
  outbox := .empty
  timers := ⟨none, none, [], none, none, []⟩
  sessionId := none
  visitorId := none
  heartbeatsMissed := 0
  destroyed := false
  pendingPings := .empty
  microtasks := []
  nextId := 0
  nextTimer := 0
  notices := []
  history := ⟨false, false, 0, 0, 0, false⟩

namespace State

def current (s : State) : Option Socket := s.socket.bind fun i => s.sockets[i]?

def isConnected (s : State) : Bool := s.current.any fun socket => socket.readyState = .opened

def emit (s : State) (notice : Notice) : State := { s with notices := s.notices ++ [notice] }

def clearTimers (s : State) : State :=
  { s with
    timers := { s.timers with
      heartbeatInterval := none
      heartbeatTimeout := none
      heartbeatTimeouts := s.timers.heartbeatTimeouts.filter fun timer =>
        s.timers.heartbeatTimeout != some timer.id
      reconnectTimeout := none
      queueProcessorInterval := none } }

def cleanupConnection (s : State) : State :=
  { s.clearTimers with pendingPings := .empty, heartbeatsMissed := 0 }

def startQueueProcessor (s : State) : State :=
  { s with
    timers := { s.timers with queueProcessorInterval := some ⟨s.nextTimer, s.now + 1000⟩ }
    nextTimer := s.nextTimer + 1 }

def startHeartbeat (s : State) : State :=
  { s with
    timers := { s.timers with
      heartbeatInterval := some ⟨s.nextTimer, s.now + s.config.heartbeatConfig.interval⟩ }
    nextTimer := s.nextTimer + 1 }

/-- The delay grows by half with every attempt. -/
def scheduleReconnection (s : State) : State :=
  let attempts := s.connectionState.reconnectAttempts
  let delay := s.config.reconnectInterval * 3 ^ attempts / 2 ^ attempts
  { s with
    timers := { s.timers with reconnectTimeout := some ⟨s.nextTimer, s.now + delay⟩ }
    nextTimer := s.nextTimer + 1 }

def processQueue (s : State) (fails : List Nat) : State :=
  if s.isConnected then { s with outbox := s.outbox.process s.now fails } else s

/-- The message of `send`, with a new id. -/
def fullMessage (s : State) (draft : Draft) : Message where
  toDraft := draft
  id := s.nextId
  timestamp := s.now
  sessionId := orString s.sessionId "unknown"
  visitorId := orString s.visitorId "unknown"

/-- `send`, where `fails` tells that the socket does not take the message. -/
def send (s : State) (draft : Draft) (fails : Bool) : State × Bool :=
  let message := s.fullMessage draft
  let outbox := { s.outbox with passed := s.outbox.passed ++ [message.id] }
  let queued := outbox.queueMessage s.config.messageQueueSize s.now message
  let given := { s with nextId := s.nextId + 1 }
  if ¬ s.isConnected then ({ given with outbox := queued }, false)
  else if fails then
    ({ given with outbox := { queued with emitted := queued.emitted ++ [.failed message] } }, false)
  else
    ({ given with
       outbox := outbox.record message
       metrics := { s.metrics with lastActivity := s.now } }, true)

def sendHeartbeat (s : State) (fails : Bool) : State :=
  if ¬ s.isConnected then s
  else
    let pinged := { s with
      pendingPings := s.pendingPings.set s.nextId s.now
      nextId := s.nextId + 1 }
    let sent := (pinged.send ⟨.heartbeat, some .critical⟩ fails).1
    { sent with
      heartbeatsMissed := 0
      history := { sent.history with unanswered := sent.history.unanswered + 1 }
      notices := sent.notices ++ [.heartbeatSent s.now] }

/-- How the promise that `connect` returns stands when it returns. -/
inductive Started where
  | settled (outcome : Outcome)
  | pending
  deriving DecidableEq

/-- `connect`. `throws` is the error that the constructor of the socket throws, if it does. -/
def connect (s : State) (url throws : Option String) : State × Started :=
  let connectUrl := orString url s.config.url
  if s.destroyed then (s, .settled .rejected)
  else if connectUrl = "" then (s, .settled .rejected)
  else if s.isConnected ∧ s.connectionState.url = connectUrl then (s, .settled .resolved)
  else
    let cleaned := if s.socket.isSome then s.cleanupConnection else s
    let starting := { cleaned with
      connectionState := { s.connectionState with
        status := .connecting
        url := connectUrl
        lastError := none }
      history := { s.history with
        strays := if s.history.wanted then s.history.strays else s.history.strays + 1 } }
    match throws with
    | some error =>
      ({ starting with
         connectionState := { starting.connectionState with
           status := .error
           lastError := some error } }, .settled .rejected)
    | none =>
      ({ starting with
         sockets := s.sockets ++ [⟨.connecting, false, false⟩]
         socket := some s.sockets.length
         timers := { starting.timers with
           connectTimeouts := starting.timers.connectTimeouts ++
             [(⟨s.nextTimer, s.now + s.config.timeout⟩, s.sockets.length)] }
         nextTimer := s.nextTimer + 1 }, .pending)

/-- `close` of a socket. Its events come later. -/
def closeSocket (s : State) (i : Nat) : State :=
  { s with
    sockets := s.sockets.modify i fun socket =>
      if socket.readyState = .connecting ∨ socket.readyState = .opened then
        { socket with readyState := .closing }
      else socket }

def disconnect (s : State) : State :=
  let closing := s.socket.elim s s.closeSocket
  let cleaned := closing.cleanupConnection
  { cleaned with
    connectionState := { cleaned.connectionState with status := .disconnected }
    history := { cleaned.history with wanted := false } }

def activateFallback (s : State) (reason : String) : State :=
  match s.config.fallbackTransport with
  | some url => s.emit (.fallbackActivated reason url)
  | none => s

/-- `reconnect` until it waits for the promise of `connect`. -/
def reconnect (s : State) (throws : Option String) : State :=
  if s.config.maxReconnectAttempts ≤ s.connectionState.reconnectAttempts then
    s.activateFallback "Max reconnection attempts reached"
  else
    let counted := { s with
      connectionState := { s.connectionState with
        status := .reconnecting
        reconnectAttempts := s.connectionState.reconnectAttempts + 1 }
      metrics := { s.metrics with reconnections := s.metrics.reconnections + 1 }
      notices := s.notices ++ [Notice.reconnecting] }
    match counted.connect none throws with
    | (t, .settled outcome) => { t with microtasks := t.microtasks ++ [outcome] }
    | (t, .pending) =>
      { t with sockets := t.sockets.modify s.sockets.length fun socket =>
          { socket with awaited := true } }

/-- `reconnect` after the promise of `connect` was settled. -/
def afterConnect (s : State) : Outcome → State
  | .resolved =>
    { s with
      connectionState := { s.connectionState with reconnectAttempts := 0 }
      notices := s.notices ++ [.reconnected] }
  | .rejected => s.scheduleReconnection

/-- The promise of the socket is settled, if it was not before. Only a call of `reconnect` that
waits for it goes on. -/
def settle (s : State) (i : Nat) (outcome : Outcome) : State :=
  if (s.sockets[i]?).any Socket.awaited then
    { s with
      sockets := s.sockets.modify i fun socket => { socket with awaited := false }
      microtasks := s.microtasks ++ [outcome] }
  else s

def onOpen (s : State) (fails : List Nat) : State :=
  let opened := { s with
    connectionState := { s.connectionState with
      status := .connected
      connectedAt := some s.now
      disconnectedAt := none
      lastError := none }
    history := { s.history with unanswered := 0, overdue := false } }
  let beating := if s.config.heartbeatConfig.enabled then opened.startHeartbeat else opened
  (beating.processQueue fails).emit .opened

def onClose (s : State) : State :=
  let cleaned := cleanupConnection { s with
    connectionState := { s.connectionState with
      status := .disconnected
      disconnectedAt := some s.now } }
  let closed := cleaned.emit .closed
  if s.config.reconnect ∧ s.connectionState.status = .connected ∧ ¬ s.destroyed then
    closed.scheduleReconnection
  else closed

def onError (s : State) (text : String) : State :=
  let error := orString (some text) "WebSocket error"
  { s with
    connectionState := { s.connectionState with
      lastError := some error
      status := .error }
    metrics := { s.metrics with errors := s.metrics.errors + 1 }
    notices := s.notices ++ [.error error] }

def handleHeartbeatResponse (s : State) (pingId timestamp : Nat) : State :=
  match s.pendingPings.get? pingId with
  | none => s
  | some sendTime =>
    let latency := s.now - sendTime
    { s with
      connectionState := { s.connectionState with latency := some latency }
      metrics := { s.metrics with averageLatency := (s.metrics.averageLatency + latency) / 2 }
      pendingPings := s.pendingPings.erase pingId
      heartbeatsMissed := 0
      notices := s.notices ++ [.heartbeatReceived timestamp latency] }

def handleAcknowledgment (s : State) (messageId : Option Nat) : State :=
  match messageId with
  | some id => { s with outbox := s.outbox.remove id }
  | none => s

/-- What a socket receives: a text that is not JSON, the JSON text `null`, the answer to a
heartbeat, an acknowledgment, or something else. -/
inductive Incoming where
  | unreadable
  | null
  | heartbeat (pingId timestamp : Nat)
  | ack (messageId : Option Nat)
  | other
  deriving DecidableEq

def onMessage (s : State) (incoming : Incoming) : State :=
  let counted := { s with
    metrics := { s.metrics with
      messagesReceived := s.metrics.messagesReceived + 1
      lastActivity := s.now } }
  match incoming with
  | .unreadable => s
  | .null => counted
  | .heartbeat pingId timestamp =>
    { counted.handleHeartbeatResponse pingId timestamp with
      history := { s.history with unanswered := 0 } }
  | .ack messageId => counted.handleAcknowledgment messageId
  | .other => counted.emit .received

/-- The interval of `_startHeartbeat`. -/
def heartbeatTick (s : State) (fails : Bool) : State :=
  if s.isConnected then
    let sent := s.sendHeartbeat fails
    { sent with
      timers := { sent.timers with
        heartbeatTimeout := some sent.nextTimer
        heartbeatTimeouts := sent.timers.heartbeatTimeouts ++
          [⟨sent.nextTimer, sent.now + sent.config.heartbeatConfig.timeout⟩] }
      nextTimer := sent.nextTimer + 1 }
  else s

/-- The timeout that a heartbeat has set. -/
def heartbeatLapse (s : State) (throws : Option String) : State :=
  let maxMissed := s.config.heartbeatConfig.maxMissed
  let missed := { s with
    heartbeatsMissed := s.heartbeatsMissed + 1
    history := { s.history with
      overdue := s.history.overdue || maxMissed ≤ s.history.unanswered } }
  if maxMissed ≤ missed.heartbeatsMissed then
    let called := { missed with
      history := { missed.history with heartbeatCalls := missed.history.heartbeatCalls + 1 } }
    called.reconnect throws
  else missed

def reconnectTimer (s : State) (throws : Option String) : State :=
  if ¬ s.destroyed ∧ s.connectionState.status ≠ .connected then s.reconnect throws else s

/-- The timeout of the `connect` that opened socket `i`. It looks at the socket of the manager. -/
def connectLapse (s : State) (i : Nat) : State :=
  match s.socket with
  | some j =>
    if (s.sockets[j]?).any fun socket => socket.readyState = .connecting then
      (s.closeSocket j).settle i .rejected
    else s
  | none => s

def init (s : State) : State :=
  { s.startQueueProcessor with history := { s.history with initialized := true } }

def clearQueue (s : State) : State :=
  { s with outbox := { s.outbox with messageQueue := [] } }

def destroy (s : State) : State :=
  (disconnect { s with destroyed := true }).clearTimers.clearQueue

/-- The page asks for a connection. -/
def want (s : State) : State := { s with history := { s.history with wanted := true } }

end State

inductive Action where
  | init
  | setSessionContext (sessionId visitorId : String)
  | connect (url throws : Option String)
  | disconnect
  | reconnect (throws : Option String)
  | send (draft : Draft) (fails : Bool)
  | sendHeartbeat (fails : Bool)
  | clearQueue
  | destroy
  | resume
  | opened (i : Nat) (fails : List Nat)
  | message (i : Nat) (incoming : State.Incoming)
  | error (i : Nat) (text : String)
  | closed (i : Nat)
  | heartbeat (fails : Bool)
  | heartbeatLapse (timer : Timer) (throws : Option String)
  | reconnectTimer (throws : Option String)
  | queueProcessor (fails : List Nat)
  | connectLapse (timer : Timer) (i : Nat)
  deriving DecidableEq

def State.call (s : State) : Action → Option State
  | .init => some s.init
  | .setSessionContext sessionId visitorId =>
    some { s with sessionId := some sessionId, visitorId := some visitorId }
  | .connect url throws => some (s.want.connect url throws).1
  | .disconnect => some s.disconnect
  | .reconnect throws => some (s.want.reconnect throws)
  | .send draft fails => some (s.send draft fails).1
  | .sendHeartbeat fails => some (s.sendHeartbeat fails)
  | .clearQueue => some s.clearQueue
  | .destroy => some s.destroy
  | _ => none

/-- An event of a socket. An error closes the socket, and its close event follows. -/
def State.deliver (s : State) (i : Nat) (socket : Socket) : Action → Option State
  | .opened _ fails =>
    if socket.readyState = .connecting then
      let opened := { s with sockets := s.sockets.set i { socket with readyState := .opened } }
      some ((opened.onOpen fails).settle i .resolved)
    else none
  | .message _ incoming =>
    if socket.readyState = .opened then some (s.onMessage incoming) else none
  | .error _ text =>
    if socket.readyState ≠ .closed then
      let failed := { s with sockets := s.sockets.set i { socket with readyState := .closed } }
      some ((failed.onError text).settle i .rejected)
    else none
  | .closed _ =>
    if socket.finished = false then
      let closed := { s with
        sockets := s.sockets.set i { socket with readyState := .closed, finished := true } }
      some closed.onClose
    else none
  | _ => none

/-- A timer that is due fires. An interval is set again. -/
def State.fire (s : State) : Action → Option State
  | .heartbeat fails =>
    match s.timers.heartbeatInterval with
    | some timer =>
      if timer.due ≤ s.now then
        let again : Timer := ⟨timer.id, s.now + s.config.heartbeatConfig.interval⟩
        let fired := s.heartbeatTick fails
        some { fired with timers := { fired.timers with heartbeatInterval := some again } }
      else none
    | none => none
  | .heartbeatLapse timer throws =>
    if timer ∈ s.timers.heartbeatTimeouts ∧ timer.due ≤ s.now then
      some (State.heartbeatLapse { s with
        timers := { s.timers with
          heartbeatTimeouts := s.timers.heartbeatTimeouts.erase timer } } throws)
    else none
  | .reconnectTimer throws =>
    match s.timers.reconnectTimeout with
    | some timer =>
      if timer.due ≤ s.now then
        some (State.reconnectTimer { s with
          timers := { s.timers with reconnectTimeout := none } } throws)
      else none
    | none => none
  | .queueProcessor fails =>
    match s.timers.queueProcessorInterval with
    | some timer =>
      if timer.due ≤ s.now then
        let again : Timer := ⟨timer.id, s.now + 1000⟩
        let fired := s.processQueue fails
        some { fired with timers := { fired.timers with queueProcessorInterval := some again } }
      else none
    | none => none
  | .connectLapse timer i =>
    if (timer, i) ∈ s.timers.connectTimeouts ∧ timer.due ≤ s.now then
      some (State.connectLapse { s with
        timers := { s.timers with
          connectTimeouts := s.timers.connectTimeouts.erase (timer, i) } } i)
    else none
  | _ => none

def Action.source : Action → Option Nat
  | .opened i _ | .message i _ | .error i _ | .closed i => some i
  | _ => none

def State.act (s : State) (action : Action) : Option State :=
  match action with
  | .init | .setSessionContext .. | .connect .. | .disconnect | .reconnect .. | .send ..
  | .sendHeartbeat .. | .clearQueue | .destroy => s.call action
  | .resume =>
    match s.microtasks with
    | outcome :: later => some (State.afterConnect { s with microtasks := later } outcome)
    | [] => none
  | .opened i _ | .message i _ | .error i _ | .closed i =>
    if s.microtasks = [] then (s.sockets[i]?).bind fun socket => s.deliver i socket action
    else none
  | .heartbeat .. | .heartbeatLapse .. | .reconnectTimer .. | .queueProcessor ..
  | .connectLapse .. => if s.microtasks = [] then s.fire action else none

structure Label where
  now : Nat
  action : Action
  deriving DecidableEq

/-- Time does not go back. -/
def State.step (s : State) (label : Label) : Option State :=
  if s.now ≤ label.now then { s with now := label.now }.act label.action else none

inductive State.Acted (s t : State) (action : Action) : Prop where
  | call (silent : action.source = none) (called : s.call action = some t)
  | resume {outcome : Outcome} {later : List Outcome} (here : action = .resume)
      (queued : s.microtasks = outcome :: later)
      (after : t = State.afterConnect { s with microtasks := later } outcome)
  | event {i : Nat} {socket : Socket} (idle : s.microtasks = []) (source : action.source = some i)
      (found : s.sockets[i]? = some socket) (delivered : s.deliver i socket action = some t)
  | timer (idle : s.microtasks = []) (silent : action.source = none)
      (fired : s.fire action = some t)

lemma State.acted_of_act {s t : State} {action : Action} (ht : s.act action = some t) :
    s.Acted t action := by
  cases action with
  | resume =>
    rw [act] at ht
    cases hq : s.microtasks with
    | nil =>
      rw [hq] at ht
      cases ht
    | cons o l =>
      rw [hq] at ht
      cases ht
      exact .resume rfl hq rfl
  | opened i _ | message i _ | error i _ | closed i =>
    obtain ⟨hi, hdl⟩ := ite_none_right_eq_some.mp ht
    obtain ⟨sk, hf, hdl⟩ := bind_eq_some_iff.mp hdl
    exact .event hi rfl hf hdl
  | heartbeat _ | heartbeatLapse _ _ | reconnectTimer _ | queueProcessor _ | connectLapse _ _ =>
    obtain ⟨hi, hfr⟩ := ite_none_right_eq_some.mp ht
    exact .timer hi rfl hfr
  | _ => exact .call rfl ht

lemma State.fire_heartbeat {s t : State} {fa : Bool} (hf : s.fire (.heartbeat fa) = some t) :
    ∃ tm, s.timers.heartbeatInterval = some tm ∧ t = { s.heartbeatTick fa with
        timers := { (s.heartbeatTick fa).timers with
          heartbeatInterval := some ⟨tm.id, s.now + s.config.heartbeatConfig.interval⟩ } } := by
  rw [fire] at hf
  split at hf
  · rename_i tm set
    obtain ⟨-, ⟨⟩⟩ := ite_none_right_eq_some.mp hf
    exact ⟨tm, set, rfl⟩
  · cases hf

lemma State.fire_reconnectTimer {s t : State} {th : Option String}
    (hf : s.fire (.reconnectTimer th) = some t) : t = State.reconnectTimer { s with
      timers := { s.timers with reconnectTimeout := none } } th := by
  rw [fire] at hf
  split at hf
  · obtain ⟨-, ⟨⟩⟩ := ite_none_right_eq_some.mp hf
    rfl
  · cases hf

lemma State.fire_queueProcessor {s t : State} {fa : List Nat}
    (hf : s.fire (.queueProcessor fa) = some t) : ∃ tm, t = { s.processQueue fa with
      timers := { (s.processQueue fa).timers with queueProcessorInterval := some tm } } := by
  rw [fire] at hf
  split at hf
  · obtain ⟨-, ⟨⟩⟩ := ite_none_right_eq_some.mp hf
    exact ⟨_, rfl⟩
  · cases hf

/-- Sockets, timers and the state of the connection, but for its latency and dates. -/
structure Core where
  now : Nat
  config : WebSocketConfig
  sockets : List Socket
  socket : Option Nat
  status : Status
  url : String
  reconnectAttempts : Nat
  timers : Timers
  destroyed : Bool
  microtasks : List Outcome
  nextTimer : Nat
  initialized : Bool
  wanted : Bool
  strays : Nat

namespace State

def core (s : State) : Core :=
  ⟨s.now, s.config, s.sockets, s.socket, s.connectionState.status, s.connectionState.url,
    s.connectionState.reconnectAttempts, s.timers, s.destroyed, s.microtasks, s.nextTimer,
    s.history.initialized, s.history.wanted, s.history.strays⟩

section

variable (s : State)

lemma core_emit (n : Notice) : (s.emit n).core = s.core := rfl

lemma core_send (d : Draft) (fa : Bool) : (s.send d fa).1.core = s.core := by
  rw [send]
  split
  · rfl
  · split <;> rfl

lemma core_sendHeartbeat (fa : Bool) : (s.sendHeartbeat fa).core = s.core := by
  rw [sendHeartbeat]
  split
  · rfl
  · exact core_send _ _ _

lemma core_processQueue (fa : List Nat) : (s.processQueue fa).core = s.core := by
  rw [processQueue]
  split <;> rfl

lemma core_onOpen (fa : List Nat) : (s.onOpen fa).core = { s.core with
        status := .connected
        timers := s.startHeartbeat.timers
        nextTimer := s.nextTimer + 1 } := by
  rw [onOpen]
  exact (core_emit _ _).trans ((core_processQueue _ fa).trans rfl)

lemma core_onMessage (m : Incoming) : (s.onMessage m).core = s.core := by
  cases m with
  | heartbeat pingId timestamp =>
    simp only [onMessage, handleHeartbeatResponse]
    split <;> rfl
  | ack mi => cases mi <;> rfl
  | _ => rfl

lemma core_activateFallback (r : String) : (s.activateFallback r).core = s.core := by
  rw [activateFallback]
  split <;> rfl

end

def readyState (s : State) : Option ReadyState := s.current.map Socket.readyState

lemma isConnected_iff (s : State) : s.isConnected = true ↔ s.readyState = some .opened := by
  rw [isConnected, readyState]
  cases s.current <;> simp

lemma isConnected_congr {s t : State} (hs : t.readyState = s.readyState) :
    t.isConnected = s.isConnected := by
  rw [Bool.eq_iff_iff, isConnected_iff, isConnected_iff, hs]

lemma readyState_modify {s t : State} {i : Nat} {f : Socket → Socket}
    (hs : t.sockets = s.sockets.modify i f) (hsm : t.socket = s.socket)
    (hk : ∀ sk, (f sk).readyState = sk.readyState) : t.readyState = s.readyState := by
  rw [readyState, readyState, current, current, hs, hsm]
  cases s.socket with
  | none => rfl
  | some j =>
    simp only [bind_some, List.getElem?_modify]
    cases s.sockets[j]? with
    | none => rfl
    | some sk =>
      by_cases hh : i = j <;> simp [hh, hk]

lemma readyState_settle (s : State) (i : Nat) (o : Outcome) :
    (s.settle i o).readyState = s.readyState := by
  rw [settle]
  split
  · exact readyState_modify rfl rfl fun _ => rfl
  · rfl

/-- The state in which `reconnect` calls `connect`. -/
def counting (s : State) : State :=
  { s with
    connectionState := { s.connectionState with
      status := .reconnecting
      reconnectAttempts := s.connectionState.reconnectAttempts + 1 }
    metrics := { s.metrics with reconnections := s.metrics.reconnections + 1 }
    notices := s.notices ++ [Notice.reconnecting] }

/-- Beyond `connect` it only waits: for the promise of the new socket, or to be resumed. -/
lemma reconnect_of_below {s : State} (ts : Option String)
    (below : s.connectionState.reconnectAttempts < s.config.maxReconnectAttempts) :
    ∃ sockets microtasks, s.reconnect ts =
      { (s.counting.connect none ts).1 with sockets := sockets, microtasks := microtasks } := by
  rw [reconnect, if_neg (Nat.not_le.mpr below), ← counting]
  dsimp only
  cases s.counting.connect none ts with
  | mk t st => cases st with
    | settled o => exact ⟨t.sockets, _, rfl⟩
    | pending => exact ⟨_, t.microtasks, rfl⟩

end State

end WebSocketManager
