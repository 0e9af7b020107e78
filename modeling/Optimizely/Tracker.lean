import Optimizely.OrderedMap

/-!
# The visitor tracker

Modules are registered by the page and by `init`. Events wait in a queue and are sent in batches;
one that could not be sent is put back in front. `init` awaits the session and, if told to, the web
socket; `flush` awaits the request. The tracker runs in a browser.
-/

namespace Tracker

structure WebSocketSettings where
  enabled : Option Bool
  url : Option String
  autoConnect : Option Bool
  deriving DecidableEq

/-- A `batchSize` that is no number is none. -/
structure TrackerConfig where
  apiUrl : String
  projectId : String
  enableGDPR : Bool
  batchSize : Option Rat
  websocket : Option WebSocketSettings
  deriving DecidableEq

/-- The configuration that `init` is given. -/
structure GivenConfig where
  apiUrl : String
  projectId : String
  enableGDPR : Option Bool
  batchSize : Option (Option Rat)
  websocket : Option WebSocketSettings
  deriving DecidableEq

def WebSocketSettings.merge (target source : WebSocketSettings) : WebSocketSettings where
  enabled := source.enabled.or target.enabled
  url := source.url.or target.url
  autoConnect := source.autoConnect.or target.autoConnect

def deepMerge (target : TrackerConfig) (source : GivenConfig) : TrackerConfig where
  apiUrl := source.apiUrl
  projectId := source.projectId
  enableGDPR := source.enableGDPR.getD target.enableGDPR
  batchSize := source.batchSize.getD target.batchSize
  websocket := match target.websocket, source.websocket with
    | some target, some source => some (target.merge source)
    | target, source => source.or target

structure ConsentData where
  hasConsent : Bool
  analytics : Bool
  deriving DecidableEq

/-- A module: an object of the page, or one made by the call of `init` with the index. -/
inductive Module where
  | page (name : String) (ref : Nat)
  | behavioralTracker (call : Nat)
  | technologyDetector (call : Nat)
  | performanceOptimizer (call : Nat)
  | webSocketManager (call : Nat)
  deriving DecidableEq

def Module.name : Module → String
  | .page name _ => name
  | .behavioralTracker _ => "behavioral"
  | .technologyDetector _ => "TechnologyDetector"
  | .performanceOptimizer _ => "PerformanceOptimizer"
  | .webSocketManager _ => "WebSocketManager"

inductive EventType where
  | custom
  | pageview
  deriving DecidableEq

structure EventData where
  type : EventType
  element : String
  timestamp : Nat
  deriving DecidableEq

/-- The state of the document: `document.readyState` is `loading` in the first one only, and
`DOMContentLoaded` has been dispatched in the last one only. -/
inductive ReadyState where
  | loading
  | interactive
  | loaded
  deriving DecidableEq

/-- A call of `init`, or of `flush` with its batch. -/
inductive Call where
  | initializingSession
  | connecting
  | initialized
  | rejected
  | sending (events : List Nat)
  | sent (events : List Nat)
  | failed
  deriving DecidableEq

/-- Events are named by the order in which they were queued. `events`, `inits` (the modules whose
`init` was called) and `initialViews` are histories. -/
structure State where
  config : TrackerConfig
  isInitialized : Bool
  storage : OrderedMap String ConsentData
  storageStart : String
  modules : OrderedMap String Module
  inits : List Module
  document : ReadyState
  readyCallbacks : Nat
  initialViews : Nat
  events : List EventData
  eventQueue : List Nat
  calls : List Call

namespace State

def hasConsent (s : State) : Bool :=
  !s.config.enableGDPR ||
    (s.storage.get? (s.storageStart ++ "consent")).any fun consent =>
      consent.hasConsent && consent.analytics

def setConsent (s : State) (consent : ConsentData) : State :=
  { s with storage := s.storage.set (s.storageStart ++ "consent") consent }

def flush (s : State) : State :=
  if s.eventQueue = [] then s
  else { s with eventQueue := [], calls := s.calls ++ [.sending s.eventQueue] }

def isFull (s : State) : Bool :=
  s.config.batchSize.any fun size => size ≤ (s.eventQueue.length : Rat)

def pushEvent (s : State) (event : EventData) : State :=
  { s with events := s.events ++ [event], eventQueue := s.eventQueue ++ [s.events.length] }

def queueEvent (s : State) (event : EventData) : State :=
  let s := s.pushEvent event
  if s.isFull then s.flush else s

/-- `track` and `pageView` do nothing otherwise. -/
def isTracking (s : State) : Bool := s.isInitialized && s.hasConsent

def track (s : State) (event : String) (now : Nat) : State :=
  if s.isTracking then s.queueEvent ⟨.custom, event, now⟩ else s

def pageView (s : State) (url : String) (now : Nat) : State :=
  if s.isTracking then s.queueEvent ⟨.pageview, url, now⟩ else s

def use (s : State) (module : Module) : State :=
  match s.modules.get? module.name with
  | some _ => s
  | none =>
    { s with
      modules := s.modules.set module.name module
      inits := if s.isInitialized then s.inits ++ [module] else s.inits }

/-- The callback that `init` gives to `domReady`. -/
def readyCallback (s : State) (url : String) (now : Nat) : State :=
  { s.pageView url now with
    initialViews := if s.isTracking then s.initialViews + 1 else s.initialViews }

def domReady (s : State) (url : String) (now : Nat) : State :=
  if s.document = .loading then { s with readyCallbacks := s.readyCallbacks + 1 }
  else s.readyCallback url now

def init (s : State) (given : GivenConfig) : State :=
  if s.isInitialized then { s with calls := s.calls ++ [.initialized] }
  else
    let s := { s with config := deepMerge s.config given }
    if s.config.apiUrl = "" ∨ s.config.projectId = "" then
      { s with calls := s.calls ++ [.rejected] }
    else
      { s with
        storageStart := "opt_" ++ s.config.projectId ++ "_"
        calls := s.calls ++ [.initializingSession] }

/-- `init` from the flush timer on. -/
def finishInit (s : State) (index : Nat) (url : String) (now : Nat) : State :=
  let s := s.domReady url now
  { s with isInitialized := true, calls := s.calls.set index .initialized }

def registerModules (s : State) (index : Nat) : State :=
  ((s.use (.behavioralTracker index)).use (.technologyDetector index)).use
    (.performanceOptimizer index)

/-- `init` after the session has been initialised. -/
def continueInit (s : State) (index : Nat) (url : String) (now : Nat) : State :=
  let s := s.registerModules index
  match s.config.websocket with
  | some settings =>
    if settings.enabled = some true then
      let s := s.use (.webSocketManager index)
      if settings.autoConnect = some true ∧ settings.url.getD "" ≠ "" then
        { s with calls := s.calls.set index .connecting }
      else s.finishInit index url now
    else s.finishInit index url now
  | none => s.finishInit index url now

/-- `DOMContentLoaded` is dispatched. -/
def fireReady (s : State) (url : String) (now : Nat) : State :=
  (List.range s.readyCallbacks).foldl (fun s _ => s.readyCallback url now)
    { s with document := .loaded, readyCallbacks := 0 }

end State

inductive Label where
  | use (module : Module)
  | init (given : GivenConfig)
  | setConsent (consent : ConsentData)
  | track (event : String) (now : Nat)
  | pageView (url : String) (now : Nat)
  | flush
  | resume (index : Nat) (ok : Bool) (url : String) (now : Nat)
  | interactive
  | contentLoaded (url : String) (now : Nat)
  deriving DecidableEq

/-- Calls are split at their awaits. The session is always initialised, and a failure to connect is
caught. -/
def State.step (s : State) : Label → Option State
  | .use module => match module with
    | .page _ _ => some (s.use module)
    | _ => none
  | .init given => some (s.init given)
  | .setConsent consent => some (s.setConsent consent)
  | .track event now => some (s.track event now)
  | .pageView url now => some (s.pageView url now)
  | .flush => some s.flush
  | .resume index ok url now => match s.calls[index]? with
    | some .initializingSession => some (s.continueInit index url now)
    | some .connecting => some (s.finishInit index url now)
    | some (.sending events) => some
        (if ok then { s with calls := s.calls.set index (.sent events) }
        else { s with eventQueue := events ++ s.eventQueue, calls := s.calls.set index .failed })
    | _ => none
  | .interactive =>
    if s.document = .loading then some { s with document := .interactive } else none
  | .contentLoaded url now =>
    if s.document = .interactive then some (s.fireReady url now) else none

def defaultConfig : TrackerConfig := ⟨"", "", true, some 10, none⟩

def constructed (storage : OrderedMap String ConsentData) (document : ReadyState) : State where
  config := defaultConfig
  isInitialized := false
  storage := storage
  storageStart := "opt_"
  modules := .empty
  inits := []
  document := document
  readyCallbacks := 0
  initialViews := 0
  events := []
  eventQueue := []
  calls := []

/-- Events are queued and batches are taken, and that is all. -/
def Queues (s t : State) : Prop :=
  ∃ events eventQueue batches, t =
    { s with
      events := events
      eventQueue := eventQueue
      calls := s.calls ++ List.map Call.sending batches }

namespace Queues

lemma refl (s : State) : Queues s s := ⟨s.events, s.eventQueue, [], by simp⟩

lemma trans {s t r : State} (first : Queues s t) (hs : Queues t r) : Queues s r := by
  obtain ⟨_, _, b, rfl⟩ := first
  obtain ⟨es, e, m, rfl⟩ := hs
  exact ⟨es, e, b ++ m, by simp⟩

end Queues

lemma queues_flush (s : State) : Queues s s.flush := by
  rw [State.flush]
  split
  · exact .refl s
  · exact ⟨s.events, [], [s.eventQueue], rfl⟩

lemma queues_queueEvent (s : State) (e : EventData) : Queues s (s.queueEvent e) := by
  have hp : Queues s (s.pushEvent e) :=
    ⟨s.events ++ [e], s.eventQueue ++ [s.events.length], [], by simp [State.pushEvent]⟩
  simp only [State.queueEvent]
  split
  · exact hp.trans (queues_flush _)
  · exact hp

lemma queues_track (s : State) (e : String) (now : Nat) : Queues s (s.track e now) := by
  rw [State.track]
  split
  · exact queues_queueEvent s _
  · exact .refl s

lemma queues_pageView (s : State) (url : String) (now : Nat) : Queues s (s.pageView url now) := by
  rw [State.pageView]
  split
  · exact queues_queueEvent s _
  · exact .refl s

end Tracker
