import Optimizely.ExpiringKeys
import Optimizely.JsValue
import Optimizely.OrderedMap

/-!
# Visitor sessions

`B2BSessionManager` keeps a session as one JSON value under an expiring key, and indexes sessions by
activity and engagement. A session is a function of its fields, so an update replaces exactly those
it sets. Operations are split at their awaits.
-/

namespace SessionManager

inductive EventType where
  | pageView
  | click
  | scroll
  | formInteraction
  | download
  | videoPlay
  deriving DecidableEq

def EventType.text : EventType → String
  | .pageView => "page_view"
  | .click => "click"
  | .scroll => "scroll"
  | .formInteraction => "form_interaction"
  | .download => "download"
  | .videoPlay => "video_play"

/-- A behaviour event without its time; `data` is the JSON text of its payload. -/
structure NewEvent where
  type : EventType
  data : String
  page : Option String
  element : Option String
  deriving DecidableEq

structure BehaviorEvent extends NewEvent where
  timestamp : Nat
  deriving DecidableEq

structure Location where
  country : Option String
  region : Option String
  city : Option String
  deriving DecidableEq

inductive Field where
  | sessionId
  | companyId
  | companyName
  | ipAddress
  | userAgent
  | platform
  | firstSeen
  | lastSeen
  | pageViews
  | engagementScore
  | technologyStack
  | behaviorData
  | location
  | isB2B
  | leadScore
  deriving DecidableEq

/-- The type of a field; an optional field may be undefined. -/
def Field.Value : Field → Type
  | .sessionId => String
  | .companyId => Option String
  | .companyName => Option String
  | .ipAddress => String
  | .userAgent => String
  | .platform => String
  | .firstSeen => Nat
  | .lastSeen => Nat
  | .pageViews => Rat
  | .engagementScore => Rat
  | .technologyStack => List String
  | .behaviorData => List BehaviorEvent
  | .location => Option Location
  | .isB2B => Option Bool
  | .leadScore => Option Rat

abbrev Session := ∀ field : Field, field.Value

abbrev Updates := ∀ field : Field, Option field.Value

def noUpdates : Updates := fun _ => none

structure Redis where
  /-- `session:<id>` -/
  sessions : ExpiringKeys String Session
  /-- `ip:<address>` -/
  ips : ExpiringKeys String (List String)
  /-- `sessions:active`, scored by time -/
  active : OrderedMap String Nat
  /-- `engagement:scores` -/
  engagement : OrderedMap String Rat
  /-- `sessions:b2b` -/
  b2b : List String
  sessionMetrics : OrderedMap String Int
  behaviorMetrics : OrderedMap String Int

def emptyRedis : Redis where
  sessions := fun _ => none
  ips := fun _ => none
  active := .empty
  engagement := .empty
  b2b := []
  sessionMetrics := .empty
  behaviorMetrics := .empty

def sessionTtl : Nat := 1800

def extendedTtl : Nat := 86400

def sadd (members : List String) (member : String) : List String :=
  if member ∈ members then members else members ++ [member]

def newSession (sessionId ipAddress userAgent platform : String) (now : Nat) : Session
  | .sessionId => sessionId
  | .companyId => (none : Option String)
  | .companyName => (none : Option String)
  | .ipAddress => ipAddress
  | .userAgent => userAgent
  | .platform => platform
  | .firstSeen => now
  | .lastSeen => now
  | .pageViews => (0 : Rat)
  | .engagementScore => (0 : Rat)
  | .technologyStack => ([] : List String)
  | .behaviorData => ([] : List BehaviorEvent)
  | .location => (none : Option Location)
  | .isB2B => (none : Option Bool)
  | .leadScore => (none : Option Rat)

def createSession (redis : Redis) (sessionId ipAddress userAgent platform : String) (now : Nat) :
    Redis :=
  { redis with
    sessions := redis.sessions.setex now sessionId sessionTtl
      (newSession sessionId ipAddress userAgent platform now)
    ips := redis.ips.setex now ipAddress sessionTtl
      (sadd ((redis.ips.get now ipAddress).getD []) sessionId)
    active := redis.active.set sessionId now
    sessionMetrics := (redis.sessionMetrics.addTo "total_created" 1).addTo
      ("platform:" ++ platform) 1 }

def getSession (redis : Redis) (now : Nat) (sessionId : String) : Option Session :=
  redis.sessions.get now sessionId

def ttlOf (session : Session) : Nat :=
  if (truthyText (session .companyId)).isSome then extendedTtl else sessionTtl

def updated (session : Session) (updates : Updates) (now : Nat) : Session :=
  Function.update (fun field => (updates field).getD (session field)) .lastSeen now

lemma updated_of_ne (ses : Session) (us : Updates) (now : Nat) {field : Field}
    (h : field ≠ .lastSeen) : updated ses us now field = (us field).getD (ses field) :=
  Function.update_of_ne h _ _

/-- What `updateSession` does once it has read `existingSession`. -/
def writeUpdate (redis : Redis) (sessionId : String) (existingSession : Session)
    (updates : Updates) (now : Nat) : Redis :=
  let session := updated existingSession updates now
  let identified := (truthyText ((updates .companyId).getD none)).isSome &&
    (truthyText (existingSession .companyId)).isNone
  { redis with
    sessions := redis.sessions.setex now sessionId (ttlOf session) session
    engagement := match updates .engagementScore with
      | some score => redis.engagement.addTo sessionId score
      | none => redis.engagement
    active := redis.active.set sessionId now
    sessionMetrics :=
      if identified then redis.sessionMetrics.addTo "b2b_identified" 1 else redis.sessionMetrics
    b2b := if identified then sadd redis.b2b sessionId else redis.b2b }

def updateSession (redis : Redis) (sessionId : String) (updates : Updates) (now : Nat) : Redis :=
  match getSession redis now sessionId with
  | none => redis
  | some existingSession => writeUpdate redis sessionId existingSession updates now

def scoreIncrease : EventType → Rat
  | .pageView => 1
  | .click => 2
  | .formInteraction => 5
  | .download => 10
  | .videoPlay => 7
  | .scroll => 1 / 2

/-- `slice(-50)`, only taken of longer lists. -/
def lastFifty (events : List BehaviorEvent) : List BehaviorEvent :=
  if 50 < events.length then events.drop (events.length - 50) else events

def pushEvent (events : List BehaviorEvent) (event : NewEvent) (now : Nat) : List BehaviorEvent :=
  lastFifty (events ++ [⟨event, now⟩])

def countView (pageViews : Rat) (type : EventType) : Rat :=
  if type = .pageView then pageViews + 1 else pageViews

def addScore (engagementScore : Rat) (type : EventType) : Rat :=
  engagementScore + scoreIncrease type

def withEvent (session : Session) (event : NewEvent) (now : Nat) : Session
  | .behaviorData => pushEvent (session .behaviorData) event now
  | .pageViews => countView (session .pageViews) event.type
  | .engagementScore => addScore (session .engagementScore) event.type
  | .lastSeen => now
  | field => session field

/-- The fields that a behaviour event changes. -/
def changedByEvents : List Field := [.behaviorData, .pageViews, .engagementScore, .lastSeen]

lemma withEvent_of_unchanged (ses : Session) (e : NewEvent) (now : Nat) {field : Field}
    (h : field ∉ changedByEvents) : withEvent ses e now field = ses field := by
  cases field <;> first | rfl | exact absurd (by decide) h

/-- What `addBehaviorEvent` writes once it has read `existingSession`. The sorted set of
active sessions is left alone. -/
def writeEvent (redis : Redis) (sessionId : String) (existingSession : Session) (event : NewEvent)
    (now : Nat) : Redis :=
  let session := withEvent existingSession event now
  { redis with sessions := redis.sessions.setex now sessionId (ttlOf session) session }

def countEvent (redis : Redis) (event : NewEvent) : Redis :=
  { redis with
    behaviorMetrics := (redis.behaviorMetrics.addTo ("event:" ++ event.type.text) 1).addTo
      "total_events" 1 }

def addBehaviorEvent (redis : Redis) (sessionId : String) (event : NewEvent) (now : Nat) : Redis :=
  match getSession redis now sessionId with
  | none => redis
  | some existingSession =>
    countEvent (writeEvent redis sessionId existingSession event now) event

/-- A score at or below the cutoff `now - SESSION_TTL * 1000`. -/
def isExpiredScore (now score : Nat) : Bool := score + sessionTtl * 1000 ≤ now

def expiredSessions (redis : Redis) (now : Nat) : List String :=
  (redis.active.filter fun _ score => isExpiredScore now score).keys

def cleanupExpiredSessions (redis : Redis) (now : Nat) : Redis :=
  let expired := expiredSessions redis now
  if 0 < expired.length then
    { redis with
      sessions := redis.sessions.del expired
      b2b := redis.b2b.filter (· ∉ expired)
      engagement := redis.engagement.filter fun sessionId _ => sessionId ∉ expired
      active := redis.active.filter fun _ score => !isExpiredScore now score }
  else redis

end SessionManager
