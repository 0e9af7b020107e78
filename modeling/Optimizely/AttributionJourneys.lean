import Optimizely.ExpiringKeys
import Optimizely.OrderedMap

/-!
# Journeys of the attribution service

`trackTouchPoint` and `trackConversion` look up or make the active journey of the user, read it,
extend it and write it back, with an await at every Redis command. Its id is made of that of the
user and the time.
-/

namespace AttributionJourneys

def journeyTtl : Nat := 30 * 24 * 60 * 60
def activeTtl : Nat := 24 * 60 * 60

inductive Event where
  | touchPoint (deviceId channel : String)
  | conversion (value : Rat)
  deriving DecidableEq

def Event.isConversion : Event → Bool
  | .touchPoint _ _ => false
  | .conversion _ => true

structure TouchPoint where
  id : Nat
  deviceId : String
  channel : String
  timestamp : Nat
  deriving DecidableEq

structure ConversionEvent where
  id : Nat
  value : Rat
  timestamp : Nat
  deriving DecidableEq

structure CustomerJourney where
  id : String
  userId : String
  touchPoints : List TouchPoint
  conversions : List ConversionEvent
  startDate : Nat
  endDate : Option Nat
  totalValue : Rat
  devices : List String
  channels : List String
  duration : Int
  pathLength : Nat
  deriving DecidableEq

def journeyId (userId : String) (createdAt : Nat) : String :=
  "journey_" ++ userId ++ "_" ++ toString createdAt

/-- Where a call stands: the Redis command that it waits for. -/
inductive Stage where
  | store
  | readActive
  | createJourney (createdAt : Nat) (journey : CustomerJourney)
  | setActive (createdAt : Nat)
  | readJourney (createdAt : Nat)
  | writeJourney (createdAt : Nat) (journey : CustomerJourney)
  | done
  deriving DecidableEq

structure Call where
  event : Event
  timestamp : Nat
  stage : Stage
  deriving DecidableEq

/-- What Redis holds for a user, and the calls for that user. A journey has the key
`journey:journey_${userId}_${createdAt}`. -/
structure User where
  active : Option (ExpiringEntry Nat)
  journeys : OrderedMap Nat (ExpiringEntry CustomerJourney)
  calls : List Call

def newUser : User := ⟨none, .empty, []⟩

def live {V : Type} (now : Nat) (entry : ExpiringEntry V) : Option V :=
  if now ≤ entry.expiresAt then some entry.value else none

def insertNew (item : String) (items : List String) : List String :=
  if item ∈ items then items else items ++ [item]

/-- The id of a touch point or conversion is the index of its call. -/
def CustomerJourney.add (journey : CustomerJourney) (id timestamp : Nat) : Event → CustomerJourney
  | .touchPoint deviceId channel => { journey with
      touchPoints := journey.touchPoints ++ [⟨id, deviceId, channel, timestamp⟩]
      endDate := some timestamp
      pathLength := journey.touchPoints.length + 1
      duration := (timestamp : Int) - journey.startDate
      devices := insertNew deviceId journey.devices
      channels := insertNew channel journey.channels }
  | .conversion value => { journey with
      conversions := journey.conversions ++ [⟨id, value, timestamp⟩]
      totalValue := journey.totalValue + value }

namespace User

def getActive (user : User) (now : Nat) : Option Nat := user.active.bind (live now)

def getJourney (user : User) (now createdAt : Nat) : Option CustomerJourney :=
  (user.journeys.get? createdAt).bind (live now)

def setJourney (user : User) (now createdAt : Nat) (journey : CustomerJourney) : User :=
  { user with
    journeys := user.journeys.set createdAt ⟨journey, now + journeyTtl * 1000⟩ }

/-- The command that a call waits for, and the call up to its next one. -/
def next (userId : String) (now : Nat) (user : User) (index : Nat) (call : Call) :
    Option (User × Stage) :=
  match call.stage with
  | .store => some (user, .readActive)
  | .readActive => match user.getActive now with
    | some createdAt => some (user, .readJourney createdAt)
    | none => some (user, .createJourney now
        ⟨journeyId userId now, userId, [], [], now, none, 0, [], [], 0, 0⟩)
  | .createJourney createdAt journey =>
    some (user.setJourney now createdAt journey, .setActive createdAt)
  | .setActive createdAt =>
    some ({ user with active := some ⟨createdAt, now + activeTtl * 1000⟩ }, .readJourney createdAt)
  | .readJourney createdAt => match user.getJourney now createdAt with
    | some journey => some (user,
        .writeJourney createdAt (journey.add index call.timestamp call.event))
    | none => some (user, .done)
  | .writeJourney createdAt journey => some (user.setJourney now createdAt journey, .done)
  | .done => none

def resume (userId : String) (now : Nat) (user : User) (index : Nat) : Option User := do
  let call ← user.calls[index]?
  let (after, stage) ← user.next userId now index call
  some { after with calls := user.calls.set index { call with stage := stage } }

end User

structure State where
  now : Nat
  users : OrderedMap String User

def started : State := ⟨0, .empty⟩

def State.user (s : State) (userId : String) : User := (s.users.get? userId).getD newUser

inductive Label where
  | track (userId : String) (event : Event)
  | resume (userId : String) (index : Nat)
  | advance (milliseconds : Nat)
  deriving DecidableEq

def State.step (s : State) : Label → Option State
  | .track userId event => some { s with
      users := s.users.set userId { s.user userId with
        calls := (s.user userId).calls ++ [⟨event, s.now, .store⟩] } }
  | .resume userId index => do
    let after ← (s.user userId).resume userId s.now index
    some { s with users := s.users.set userId after }
  | .advance milliseconds => some { s with now := s.now + milliseconds }

lemma user_set (s : State) (u x : String) (us : User) :
    State.user { s with users := s.users.set u us } x = if u = x then us else s.user x := by
  rw [State.user, OrderedMap.get?_set]
  split <;> rfl

end AttributionJourneys
