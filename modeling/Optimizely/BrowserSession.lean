import Mathlib.Data.List.Sort
import Optimizely.OrderedMap
import Optimizely.Utf16

/-!
# Sessions of a visitor

A session manager keeps the current session in the storage of the page, restores it if it has not
timed out, and stores a fingerprint of the environment. Managers of several pages share the storage,
a `localStorage` that takes every write. `validateSession` awaits the new fingerprint before it
reads the stored one. Active tabs and the heartbeat are under other keys, which nothing here reads.
-/

namespace BrowserSession

structure Environment where
  now : Nat
  screenWidth : Nat
  screenHeight : Nat
  timezoneOffset : Int
  language : String
  /-- What `detectPlatform` and `detectBrowser` make of the user agent. -/
  platform : String
  browser : String
  plugins : Option (List String)
  canvas : String
  userAgent : String
  referrer : String
  url : String
  deriving DecidableEq

def Environment.screenResolution (e : Environment) : String :=
  toString e.screenWidth ++ "x" ++ toString e.screenHeight

/-- What a session is bound to. -/
structure Critical where
  platform : String
  browser : String
  screenResolution : String
  deriving DecidableEq

def Environment.critical (e : Environment) : Critical := ⟨e.platform, e.browser, e.screenResolution⟩

structure FingerprintElements where
  screen : Bool
  timezone : Bool
  language : Bool
  platform : Bool
  plugins : Bool
  canvas : Bool
  deriving DecidableEq

structure SessionFingerprint where
  screenResolution : Option String
  timezone : Option Int
  language : Option String
  platform : Option String
  browser : Option String
  pluginsHash : Option String
  canvasHash : Option String
  hash : String
  deriving DecidableEq

/-- Every step is cut to 32 bits, and the result is made positive. -/
def hashUnits (str : Utf16.Text) : Nat :=
  (str.foldl (fun (hash : BitVec 32) unit =>
    (hash <<< 5) - hash + BitVec.ofNat 32 unit.toNat) 0).toInt.natAbs

def simpleHash (text : String) : Nat := hashUnits (Utf16.ofString text)

def hashPlugins (plugins : Option (List String)) : String :=
  match plugins with
  | none => "unknown"
  | some names =>
    let sorted := names.insertionSort fun a b => Utf16.ofString a ≤ Utf16.ofString b
    toString (simpleHash ("|".intercalate sorted))

def generateFingerprint (elements : FingerprintElements) (e : Environment) : SessionFingerprint :=
  let given {α : Type} (element : Bool) (value : α) : Option α :=
    if element then some value else none
  let screenResolution := given elements.screen e.screenResolution
  let timezone := given elements.timezone e.timezoneOffset
  let language := given elements.language (if e.language = "" then "unknown" else e.language)
  let platform := given elements.platform e.platform
  let browser := given elements.platform e.browser
  let pluginsHash := given elements.plugins (hashPlugins e.plugins)
  let canvasHash := given elements.canvas e.canvas
  let values := [screenResolution, timezone.map toString, language, platform, browser, pluginsHash,
    canvasHash].reduceOption
  { screenResolution, timezone, language, platform, browser, pluginsHash, canvasHash
    hash := toString (simpleHash ("|".intercalate values)) }

def checkCriticalFingerprintMismatch (current stored : SessionFingerprint) : Bool :=
  current.platform ≠ stored.platform || current.browser ≠ stored.browser ||
    current.screenResolution ≠ stored.screenResolution

/-- `origin` is a history: what the session was bound to when it was created. -/
structure VisitorSession where
  sessionId : String
  visitorId : String
  startTime : Nat
  lastActivity : Nat
  pageViews : Nat
  platform : String
  userAgent : String
  referrer : String
  landingPage : String
  origin : Critical
  deriving DecidableEq

/-- A session, or an object that was taken for one and has at most a time of activity. -/
inductive SessionObject where
  | record (session : VisitorSession)
  | incomplete (lastActivity : Option Nat)
  deriving DecidableEq

namespace SessionObject

def sessionId : SessionObject → Option String
  | record session => some session.sessionId
  | incomplete _ => none

def lastActivity : SessionObject → Option Nat
  | record session => some session.lastActivity
  | incomplete lastActivity => lastActivity

/-- Nothing is later than an activity that is not a number. -/
def hasTimedOut (session : SessionObject) (now timeout : Nat) : Bool :=
  session.lastActivity.any fun activity => activity + timeout < now

def touch (now : Nat) : SessionObject → SessionObject
  | record session => record
      { session with lastActivity := now, pageViews := session.pageViews + 1 }
  | incomplete _ => incomplete (some now)

end SessionObject

/-- The texts that managers store, by what they are parsed into. -/
inductive Stored where
  | session (session : SessionObject)
  | visitor (visitorId : String)
  | fingerprint (fingerprint : SessionFingerprint)
  deriving DecidableEq

abbrev Store := OrderedMap String Stored

def getStoredFingerprint (store : Store) (name : String) : Option SessionFingerprint :=
  match store.get? name with
  | some (.fingerprint fingerprint) => some fingerprint
  | _ => none

structure SessionOptions where
  sessionTimeout : Nat
  enableFingerprinting : Bool
  enableCrossTabs : Bool
  fingerprintElements : FingerprintElements
  sessionValidation : Bool
  storagePrefix : String
  deriving DecidableEq

/-- `namePrefix` is that of the storage the manager is given. -/
structure Manager where
  namePrefix : String
  options : SessionOptions
  currentSession : Option SessionObject
  deriving DecidableEq

namespace Manager

def sessionName (m : Manager) : String := m.namePrefix ++ "session"

def visitorName (m : Manager) : String := m.namePrefix ++ "visitor"

def fingerprintName (m : Manager) : String := m.namePrefix ++ "fingerprint"

def storeFingerprint (m : Manager) (store : Store) (e : Environment) : Store :=
  store.set m.fingerprintName (.fingerprint (generateFingerprint m.options.fingerprintElements e))

def saveSession (m : Manager) (store : Store) (session : SessionObject) : Store :=
  store.set m.sessionName (.session session)

/-- A session that has timed out is removed. -/
def restoreSession (m : Manager) (store : Store) (now : Nat) : Option SessionObject × Store :=
  match store.get? m.sessionName with
  | some (.session session) =>
    if session.hasTimedOut now m.options.sessionTimeout then (none, store.erase m.sessionName)
    else (some session, store)
  | _ => (none, store)

def createNewSession (m : Manager) (store : Store) (e : Environment)
    (sessionId newVisitorId : String) : VisitorSession × Store :=
  let visitorId := match store.get? m.visitorName with
    | some (.visitor visitorId) => if visitorId = "" then newVisitorId else visitorId
    | _ => newVisitorId
  ({ sessionId, visitorId
     startTime := e.now
     lastActivity := e.now
     pageViews := 0
     platform := e.platform
     userAgent := e.userAgent
     referrer := e.referrer
     landingPage := e.url
     origin := e.critical },
    store.set m.visitorName (.visitor visitorId))

def initializeSession (m : Manager) (store : Store) (e : Environment)
    (sessionId newVisitorId : String) : Manager × Store :=
  match m.restoreSession store e.now with
  | (some session, store) => ({ m with currentSession := some session }, store)
  | (none, store) =>
    let (session, store) := m.createNewSession store e sessionId newVisitorId
    ({ m with currentSession := some (.record session) }, m.saveSession store (.record session))

def updateActivity (m : Manager) (store : Store) (now : Nat) : Manager × Store :=
  match m.currentSession with
  | none => (m, store)
  | some session =>
    let session := session.touch now
    ({ m with currentSession := some session }, m.saveSession store session)

def invalidateSession (m : Manager) (store : Store) : Manager × Store :=
  match m.currentSession with
  | none => (m, store)
  | some _ => ({ m with currentSession := none }, store.erase m.sessionName)

/-- Both are set together, in this order. -/
structure Verdict where
  isValid : Bool
  reasons : List String
  deriving DecidableEq

def Verdict.fail (verdict : Verdict) (reason : String) : Verdict :=
  ⟨false, verdict.reasons ++ [reason]⟩

/-- `validateSession` up to its await. -/
def checkTimeout (m : Manager) (session : SessionObject) (now : Nat) : Verdict :=
  let valid : Verdict := ⟨true, []⟩
  if session.hasTimedOut now m.options.sessionTimeout then valid.fail "Session timeout exceeded"
  else valid

def checksFingerprint (m : Manager) : Bool :=
  m.options.enableFingerprinting && m.options.sessionValidation

/-- The rest of `validateSession`. -/
def checkFingerprint (current : SessionFingerprint) (stored : Option SessionFingerprint)
    (verdict : Verdict) : Verdict :=
  if stored.any fun stored =>
      current.hash ≠ stored.hash && checkCriticalFingerprintMismatch current stored then
    verdict.fail "Session fingerprint validation failed"
  else verdict

end Manager

/-- Another page has written an item to `localStorage`, or removed one. -/
structure StorageEvent where
  key : String
  newValue : Option Stored
  deriving DecidableEq

namespace Manager

/-- The new value of an event is the object that the storage writes, with the text as one of its
fields; the id of a session is not among them. -/
def handleSessionSync (m : Manager) (newValue : Option Stored) : Manager :=
  match newValue with
  | none => m
  | some _ =>
    let session := SessionObject.incomplete none
    if session.sessionId ≠ m.currentSession.bind SessionObject.sessionId then
      { m with currentSession := some session }
    else m

def onStorage (m : Manager) (event : StorageEvent) : Manager :=
  if m.options.enableCrossTabs ∧ event.key = m.options.storagePrefix ++ "session" then
    m.handleSessionSync event.newValue
  else m

end Manager

end BrowserSession
