import Optimizely.SessionManager
import Optimizely.TypedKeys

/-!
# The data pipeline

`processEvent` takes an event through five stages. Two touch the key `session:<id>`: the enrichment
reads it as a hash, the aggregation counts the event in it and sets its time to live. A rejected
command is only logged.
-/

namespace DataPipeline

open TypedKeys

inductive EventType where
  | pageView
  | click
  | formSubmit
  | download
  | custom
  | sessionStart
  | sessionEnd
  deriving DecidableEq

/-- The values of the type are in normal form, and only five of them are known. -/
def normalizeEventType : EventType → EventType
  | .sessionStart => .custom
  | .sessionEnd => .custom
  | type => type

structure RawEvent where
  type : EventType
  sessionId : String
  visitorId : String
  deriving DecidableEq

/-- Ingestion and transformation; ingestion throws if an id is missing. -/
def prepare (event : RawEvent) : Option RawEvent :=
  if event.sessionId = "" ∨ event.visitorId = "" then none
  else some { event with type := normalizeEventType event.type }

/-- The keys `session:<id>`. -/
abbrev SessionKeys := TypedKeys String SessionManager.Session

def aggregationTtl : Nat := 1800

/-- The commands that `updateSessionAggregations` issues together, and whether Redis accepts all
of them. -/
def aggregateSession (keys : SessionKeys) (sessionId : String) (now : Nat) : SessionKeys × Bool :=
  let counted := keys.hincrby now sessionId "events" 1
  let keys := counted.getD keys
  let timed := keys.hset now sessionId "lastEventTime" now
  let keys := timed.getD keys
  (keys.expire now sessionId aggregationTtl, counted.isSome && timed.isSome)

def countPageView (keys : SessionKeys) (sessionId : String) (now : Nat) : SessionKeys :=
  (keys.hincrby now sessionId "pageViews" 1).getD keys

/-- Which reply `processEvent` awaits. The last stage stands for the visitor aggregates and the
storage of the event, which use other keys. -/
inductive Stage where
  | enrichingSession
  | enrichingVisitor
  | realTime
  | session (accepted : Bool)
  | pageViews
  | visitor
  deriving DecidableEq

/-- A reply arrives: the commands issued next, and the stage after that, if there is one. -/
def advance (keys : SessionKeys) (event : RawEvent) (stage : Stage) (now : Nat) :
    SessionKeys × Option Stage :=
  match stage with
  | .enrichingSession => (keys, some .enrichingVisitor)
  | .enrichingVisitor => (keys, some .realTime)
  | .realTime =>
    let (keys, accepted) := aggregateSession keys event.sessionId now
    (keys, some (.session accepted))
  | .session accepted =>
    if accepted && event.type = .pageView then
      (countPageView keys event.sessionId now, some .pageViews)
    else (keys, some .visitor)
  | .pageViews => (keys, some .visitor)
  | .visitor => (keys, none)

variable {keys : SessionKeys} {sid : String} {now : Nat}

lemma strings_aggregateSession (x : String) : (aggregateSession keys sid now).1.strings x =
      if x = sid then (keys.strings.live now sid).map fun e =>
        { e with expiresAt := now + aggregationTtl * 1000 }
      else keys.strings x := by
  simp only [aggregateSession, expire, hset, hincrby, live_onHash, strings_onHash]
  by_cases hs : x = sid <;> simp [hs]

lemma strings_countPageView (x : String) : (countPageView keys sid now).strings x =
      if x = sid then keys.strings.live now sid else keys.strings x :=
  strings_onHash _ x

lemma strings_advance_of_ne {e : RawEvent} (sg : Stage) {x : String} (hne : x ≠ e.sessionId) :
    (advance keys e sg now).1.strings x = keys.strings x := by
  cases sg with
  | realTime =>
    simp only [advance]
    rw [strings_aggregateSession, if_neg hne]
  | session cc =>
    simp only [advance]
    split
    · rw [strings_countPageView, if_neg hne]
    · rfl
  | _ => rfl

/-- When a session expires whose expiry was this one, after a step of `processEvent`. -/
def expiryAfter (stage : Stage) (now expiresAt : Nat) : Nat :=
  match stage with
  | .realTime => now + aggregationTtl * 1000
  | _ => expiresAt

lemma strings_advance_of_live (ks : SessionKeys) {ev : RawEvent} (sg : Stage)
    {e : ExpiringEntry SessionManager.Session} (hl : ks.strings.live now ev.sessionId = some e) :
    (advance ks ev sg now).1.strings ev.sessionId =
      some { e with expiresAt := expiryAfter sg now e.expiresAt } := by
  have hst := (ExpiringKeys.live_eq_some_iff.mp hl).1
  cases sg with
  | realTime =>
    simp only [advance]
    rw [strings_aggregateSession, if_pos rfl, hl]
    rfl
  | session cc =>
    simp only [advance]
    split
    · rw [strings_countPageView, if_pos rfl, hl]
      rfl
    · exact hst
  | _ => exact hst

end DataPipeline
