import Optimizely.RevenueAttribution

/-!
# Touchpoint sequences

A visitor's touchpoints wait in a Redis list until a revenue event reads them back. Stored JSON is
represented by what `JSON.parse` makes of it, so a stored date is text. Keys do not expire here.
-/

namespace TouchpointSequence

open RevenueAttribution List

inductive JsError where
  | notAFunction (expression : String)
  deriving DecidableEq

def millis : Timestamp → Int
  | .date ms => ms
  | .text ms => ms

def getTime (receiver : String) : Timestamp → Except JsError Int
  | .date ms => .ok ms
  | .text _ => .error (.notAFunction (receiver ++ ".getTime"))

/-- `JSON.parse(JSON.stringify(timestamp))`. -/
def reread (timestamp : Timestamp) : Timestamp := .text (millis timestamp)

def stringify (touchpoint : AttributionTouchpoint) : AttributionTouchpoint :=
  { touchpoint with timestamp := reread touchpoint.timestamp }

def stringifyEvent (event : RevenueEvent) : RevenueEvent :=
  { event with
    timestamp := reread event.timestamp
    touchpoints := event.touchpoints.map stringify }

structure Redis where
  touchpoints : OrderedMap String AttributionTouchpoint
  sequences : String → List AttributionTouchpoint
  revenueEvents : OrderedMap String RevenueEvent
  models : OrderedMap String AttributionModel
  /-- Results by model and time of writing. -/
  results : OrderedMap (String × Int) Attribution

structure TouchpointData where
  sessionId : String
  visitorId : String
  timestamp : Timestamp
  channel : String
  campaign : Option String
  deriving DecidableEq

structure RevenueData where
  visitorId : String
  amount : Rat
  timestamp : Timestamp
  deriving DecidableEq

def lpush (redis : Redis) (visitorId : String) (item : AttributionTouchpoint) : Redis :=
  { redis with
    sequences := Function.update redis.sequences visitorId
      (item :: redis.sequences visitorId) }

def getVisitorTouchpoints (redis : Redis) (visitorId : String) : List AttributionTouchpoint :=
  redis.sequences visitorId

def determineTouchpointPosition (redis : Redis) (visitorId : String) : Position :=
  if (getVisitorTouchpoints redis visitorId).length = 0 then .first else .middle

def addToVisitorTouchpointSequence (redis : Redis) (visitorId : String)
    (touchpoint : AttributionTouchpoint) : Redis :=
  lpush redis visitorId (stringify touchpoint)

def newTouchpoint (redis : Redis) (id : String) (data : TouchpointData) :
    AttributionTouchpoint where
  id := id
  sessionId := data.sessionId
  visitorId := data.visitorId
  timestamp := data.timestamp
  channel := data.channel
  campaign := data.campaign
  position := determineTouchpointPosition redis data.visitorId
  conversionDistance := 0

def recordTouchpoint (redis : Redis) (id : String) (data : TouchpointData) : Redis :=
  let touchpoint := newTouchpoint redis id data
  addToVisitorTouchpointSequence
    { redis with touchpoints := redis.touchpoints.set id (stringify touchpoint) }
    touchpoint.visitorId touchpoint

def positionAt (length index : Nat) : Position :=
  if length = 1 then .only
  else if index = 0 then .first
  else if index = length - 1 then .last
  else .middle

def convertTouchpoint (length : Nat) (conversionTime : Timestamp)
    (touchpoint : AttributionTouchpoint) (index : Nat) :
    Except JsError AttributionTouchpoint := do
  let converted ← getTime "conversionTime" conversionTime
  let touched ← getTime "touchpoint.timestamp" touchpoint.timestamp
  let distance := (converted - touched) / (24 * 60 * 60 * 1000)
  return { touchpoint with conversionDistance := distance, position := positionAt length index }

def calculateConversionDistances (touchpoints : List AttributionTouchpoint)
    (conversionTime : Timestamp) : Except JsError (List AttributionTouchpoint) :=
  touchpoints.zipIdx.mapM fun entry =>
    convertTouchpoint touchpoints.length conversionTime entry.1 entry.2

def getActiveModels (redis : Redis) : List AttributionModel :=
  redis.models.values.filter (·.isActive)

/-- `clock` gives the time at which the result of a model is stored. -/
def processAttributionForEvent (env : Environment) (clock : String → Int) (redis : Redis)
    (revenueEvent : RevenueEvent) : Redis :=
  (getActiveModels redis).foldl (fun redis model =>
    let attribution := calculateAttribution env revenueEvent model
    { redis with results := redis.results.set (model.id, clock model.id) attribution }) redis

def recordRevenueEvent (env : Environment) (clock : String → Int) (redis : Redis)
    (id : String) (data : RevenueData) : Except JsError (RevenueEvent × Redis) := do
  let touchpoints := getVisitorTouchpoints redis data.visitorId
  let updatedTouchpoints ← calculateConversionDistances touchpoints data.timestamp
  let revenueEvent : RevenueEvent :=
    { id := id, visitorId := data.visitorId, amount := data.amount,
      timestamp := data.timestamp, touchpoints := updatedTouchpoints }
  let stored := { redis with
    revenueEvents := redis.revenueEvents.set id (stringifyEvent revenueEvent) }
  return (revenueEvent, processAttributionForEvent env clock stored revenueEvent)

/-- Calls of `recordTouchpoint`, each with the id it generates. -/
abbrev Calls := List (String × TouchpointData)

def recordTouchpoints (redis : Redis) (calls : Calls) : Redis :=
  calls.foldl (fun redis call => recordTouchpoint redis call.1 call.2) redis

def callsOf (visitorId : String) (calls : Calls) : Calls :=
  calls.filter fun call => call.2.visitorId = visitorId

lemma sequences_recordTouchpoint (r : Redis) (id : String) (d : TouchpointData)
    (visitorId : String) : (recordTouchpoint r id d).sequences visitorId =
      if d.visitorId = visitorId then stringify (newTouchpoint r id d) :: r.sequences visitorId
      else r.sequences visitorId := by
  by_cases h : d.visitorId = visitorId
  · subst h
    simp [recordTouchpoint, addToVisitorTouchpointSequence, lpush, newTouchpoint]
  · have x : visitorId ≠ d.visitorId := Ne.symm h
    simp [recordTouchpoint, addToVisitorTouchpointSequence, lpush, newTouchpoint, h,
      Function.update_of_ne x]

/-- The part of a stored touchpoint that the caller gave. -/
def given (touchpoint : AttributionTouchpoint) : String × String × Timestamp :=
  (touchpoint.id, touchpoint.channel, touchpoint.timestamp)

def givenBy (call : String × TouchpointData) : String × String × Timestamp :=
  (call.1, call.2.channel, reread call.2.timestamp)

lemma sequences_recordTouchpoints (r : Redis) (cs : Calls) (v : String) :
    ((recordTouchpoints r cs).sequences v).map given =
      ((callsOf v cs).map givenBy).reverse ++ (r.sequences v).map given := by
  induction cs generalizing r with
  | nil => simp [recordTouchpoints, callsOf]
  | cons c cs ih =>
    have hs := ih (recordTouchpoint r c.1 c.2)
    rw [sequences_recordTouchpoint] at hs
    by_cases h : c.2.visitorId = v
    · simpa [recordTouchpoints, callsOf, h, given, givenBy, stringify, newTouchpoint] using hs
    · simpa [recordTouchpoints, callsOf, h] using hs

variable {ms : Int} {touchpoint : AttributionTouchpoint} {data : RevenueData} {r : Redis}
  {e : RevenueEvent}

lemma calculateConversionDistances_text
    (text : touchpoint.timestamp = .text ms) (rest : List AttributionTouchpoint)
    (conversionTime : Timestamp) :
    ∃ e, calculateConversionDistances (touchpoint :: rest) conversionTime = .error e := by
  cases conversionTime with
  | date converted =>
    refine ⟨.notAFunction "touchpoint.timestamp.getTime", ?_⟩
    simp [calculateConversionDistances, convertTouchpoint, getTime, text, mapM_cons,
      bind, Except.bind]
  | text converted =>
    refine ⟨.notAFunction "conversionTime.getTime", ?_⟩
    simp [calculateConversionDistances, convertTouchpoint, getTime, mapM_cons, bind, Except.bind]

def Earliest (calls : Calls) (timestamp : Timestamp) : Prop :=
  ∀ call ∈ calls, millis timestamp ≤ millis call.2.timestamp

def Latest (calls : Calls) (timestamp : Timestamp) : Prop :=
  ∀ call ∈ calls, millis call.2.timestamp ≤ millis timestamp

/-- The event holds the visitor's touchpoints, labels the ends of the path by time and
lets the first and last touch models credit them. -/
structure FollowsPath (env : Environment) (calls : Calls) (event : RevenueEvent) : Prop where
  complete : (event.touchpoints.map (·.id)).Perm (calls.map Prod.fst)
  earliest : ∀ tp ∈ event.touchpoints, Earliest calls tp.timestamp →
    tp.position = if calls.length = 1 then .only else .first
  latest : ∀ tp ∈ event.touchpoints, Latest calls tp.timestamp →
    tp.position = if calls.length = 1 then .only else .last
  firstTouch : ∀ model : AttributionModel, model.type = .firstTouch →
    ∀ call ∈ calls, Earliest calls call.2.timestamp →
      calculateAttribution env event model = OrderedMap.empty.set call.2.channel event.amount
  lastTouch : ∀ model : AttributionModel, model.type = .lastTouch →
    ∀ call ∈ calls, Latest calls call.2.timestamp →
      calculateAttribution env event model = OrderedMap.empty.set call.2.channel event.amount

lemma recordRevenueEvent_throws {rest : List AttributionTouchpoint}
    (hst : r.sequences data.visitorId = touchpoint :: rest)
    (text : touchpoint.timestamp = .text ms) (env : Environment) (clock : String → Int)
    (id : String) : ∃ e, recordRevenueEvent env clock r id data = .error e := by
  obtain ⟨e, thrown⟩ := calculateConversionDistances_text text rest data.timestamp
  refine ⟨e, ?_⟩
  simp only [recordRevenueEvent, getVisitorTouchpoints, hst, thrown]
  rfl

lemma recordRevenueEvent_without_touchpoints
    (hst : r.sequences data.visitorId = []) (env : Environment) (c : String → Int)
    (id : String) : ∃ e t, recordRevenueEvent env c r id data =
      .ok (e, t) ∧ e.touchpoints = [] := by
  simp only [recordRevenueEvent, getVisitorTouchpoints, hst]
  exact ⟨_, _, rfl, rfl⟩

lemma followsPath_nil (none : e.touchpoints = []) (env : Environment) : FollowsPath env [] e := by
  constructor <;> simp [none]

/-- Recording a revenue event fails as soon as the visitor has a touchpoint. -/
theorem recorded_iff_no_touchpoints (env : Environment) (clock : String → Int) (redis : Redis)
    (data : RevenueData) (fresh : redis.sequences data.visitorId = []) (calls : Calls)
    (id : String) : (∃ event after,
      recordRevenueEvent env clock (recordTouchpoints redis calls) id data = .ok (event, after) ∧
      FollowsPath env (callsOf data.visitorId calls) event) ↔
      callsOf data.visitorId calls = [] := by
  have hs := sequences_recordTouchpoints redis calls data.visitorId
  rw [fresh, map_nil, append_nil] at hs
  constructor
  · rintro ⟨event, after, hr, -⟩
    match hst : (recordTouchpoints redis calls).sequences data.visitorId with
    | [] => simpa [hst] using hs
    | touchpoint :: rest =>
      exfalso
      have mem : given touchpoint ∈ ((callsOf data.visitorId calls).map givenBy).reverse := by
        rw [← hs, hst]
        simp
      obtain ⟨c, -, hc⟩ := mem_map.mp (mem_reverse.mp mem)
      have ht : touchpoint.timestamp = .text (millis c.2.timestamp) := by
        have hp : givenBy c = given touchpoint := hc
        simp only [givenBy, given, reread, Prod.mk.injEq] at hp
        exact hp.2.2.symm
      obtain ⟨e, t⟩ := recordRevenueEvent_throws hst ht env clock id
      rw [t] at hr
      cases hr
  · intro none
    rw [none] at hs
    have hsd : (recordTouchpoints redis calls).sequences data.visitorId = [] := by
      simpa using hs
    obtain ⟨event, after, hr, he⟩ := recordRevenueEvent_without_touchpoints hsd env clock id
    rw [none]
    exact ⟨event, after, hr, followsPath_nil he env⟩

def emptyRedis : Redis where
  touchpoints := .empty
  sequences := fun _ => []
  revenueEvents := .empty
  models := .empty
  results := .empty

def visit (channel : String) (ms : Int) : TouchpointData where
  sessionId := "s1"
  visitorId := "v1"
  timestamp := .date ms
  channel := channel
  campaign := none

def journey : Calls := [("t1", visit "email" 1000), ("t2", visit "direct" 2000)]

def order (visitorId : String) : RevenueData := ⟨visitorId, 100, .date 3000⟩

theorem journey_throws :
    recordRevenueEvent plainEnvironment (fun _ => 0) (recordTouchpoints emptyRedis journey)
      "r1" (order "v1") = .error (.notAFunction "touchpoint.timestamp.getTime") ∧
    ¬ ∃ event after, recordRevenueEvent plainEnvironment (fun _ => 0)
      (recordTouchpoints emptyRedis journey) "r1" (order "v1") = .ok (event, after) := by
  have ht : recordRevenueEvent plainEnvironment (fun _ => 0)
      (recordTouchpoints emptyRedis journey) "r1" (order "v1") =
      .error (.notAFunction "touchpoint.timestamp.getTime") := rfl
  refine ⟨ht, ?_⟩
  rintro ⟨event, after, hr⟩
  cases hr

theorem other_visitor_recorded : ∃ event after, recordRevenueEvent plainEnvironment (fun _ => 0)
      (recordTouchpoints emptyRedis journey) "r1" (order "v2") = .ok (event, after) ∧
      FollowsPath plainEnvironment (callsOf "v2" journey) event :=
  (recorded_iff_no_touchpoints plainEnvironment (fun _ => 0) emptyRedis (order "v2") rfl journey
    "r1").mpr (by decide)

/-- Even with its dates revived, the stored order makes a first touch model credit the
newest touchpoint. -/
lemma firstTouch_credits_newest (env : Environment) {v : String}
    (hfr : r.sequences v = []) {cs ea : Calls}
    {n : String × TouchpointData} (own : callsOf v cs = ea ++ [n])
    {rv : Timestamp → Timestamp} (hr : e.touchpoints.map given =
      ((recordTouchpoints r cs).sequences v).map fun tp => (tp.id, tp.channel, rv tp.timestamp))
    {m : AttributionModel} (hf : m.type = .firstTouch) :
    calculateAttribution env e m = OrderedMap.empty.set n.2.channel e.amount := by
  have hs := sequences_recordTouchpoints r cs v
  rw [hfr, own, map_append, reverse_append] at hs
  obtain ⟨stored, rest, hst, hg, -⟩ := map_eq_cons_iff.mp hs
  rw [hst] at hr
  obtain ⟨first, others, hread, hc, -⟩ := map_eq_cons_iff.mp hr
  have same : first.channel = n.2.channel :=
    (congrArg (·.2.1) hc).trans (congrArg (·.2.1) hg)
  simp [calculateAttribution, hread, hf, same]

end TouchpointSequence
