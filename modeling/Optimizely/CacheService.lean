import Optimizely.ExpiringKeys

/-!
# The tagged cache

`CacheService.getOrSet` and `CacheService.invalidateByTags`, split at their awaits. Redis runs
commands in the order of issue: a command takes effect when its call suspends, and the reply arrives
when the call resumes. A reply can be lost.
-/

namespace CacheService

/-- A cached value as its JSON text, empty for `undefined`, with the moment at which the
fetcher call that produced it began. -/
structure Stored where
  json : String
  fetchedAt : Nat
  deriving DecidableEq

inductive Item where
  | text (stored : Stored)
  | members (keys : List String)
  deriving DecidableEq

inductive RedisError where
  | wrongType
  deriving DecidableEq

abbrev Keyspace := ExpiringKeys String Item

def tagKey (tag : String) : String := "tag:" ++ tag

def get (keys : Keyspace) (now : Nat) (key : String) : Except RedisError (Option Stored) :=
  match ExpiringKeys.get keys now key with
  | none => .ok none
  | some (.text stored) => .ok (some stored)
  | some (.members _) => .error .wrongType

def smembers (keys : Keyspace) (now : Nat) (key : String) : Except RedisError (List String) :=
  match ExpiringKeys.get keys now key with
  | none => .ok []
  | some (.members members) => .ok members
  | some (.text _) => .error .wrongType

/-- A time to live that is not positive is refused. -/
def setex (keys : Keyspace) (now : Nat) (key : String) (ttl : Nat) (stored : Stored) : Keyspace :=
  if 0 < ttl then ExpiringKeys.setex keys now key ttl (.text stored) else keys

/-- What `sadd` leaves under the key of a set; a text stays as it is. -/
def withMember (item : Option Item) (key : String) : Item :=
  match item with
  | none => .members [key]
  | some (.members members) => .members (if key ∈ members then members else members ++ [key])
  | some (.text stored) => .text stored

/-- `sadd` followed by `expire`, which removes the key when the time to live is not
positive. -/
def addToTag (now : Nat) (key : String) (ttl : Nat) (keys : Keyspace) (tag : String) : Keyspace :=
  if 0 < ttl then
    ExpiringKeys.setex keys now (tagKey tag) ttl
      (withMember (ExpiringKeys.get keys now (tagKey tag)) key)
  else
    ExpiringKeys.del keys [tagKey tag]

/-- The pipeline that caches a value under its key and its tags. -/
def storeTagged (keys : Keyspace) (now : Nat) (key : String) (ttl : Nat) (tags : List String)
    (stored : Stored) : Keyspace :=
  tags.foldl (addToTag now key ttl) (setex keys now key ttl stored)

/-- The pipeline of `del` commands of an invalidation. -/
def deleteAll (keys : Keyspace) (pipeline : List (List String)) : Keyspace :=
  pipeline.foldl ExpiringKeys.del keys

structure CacheOptions where
  ttl : Nat := 3600
  tags : List String := []
  deriving DecidableEq

/-- What the caller gets: a cached value, a fetched one as its JSON text (`none` if it has
none), or an error. -/
inductive Result where
  | fromCache (stored : Stored)
  | fetched (json : Option String)
  | rejected
  deriving DecidableEq

/-- What a call of `getOrSet` waits for. -/
inductive Stage where
  | reading (reply : Except RedisError (Option Stored))
  | fetching (since : Nat)
  | storing (json : String)
  | fallback
  | returned (result : Result)
  deriving DecidableEq

/-- `fetches` counts the calls of the fetcher. -/
structure Call where
  key : String
  options : CacheOptions
  startedAt : Nat
  fetches : Nat
  stage : Stage
  deriving DecidableEq

/-- What an invalidation waits for: the members of a tag, with the deletions queued so far
and the tags left, or the deletions. -/
inductive InvalidationStage where
  | collecting (pipeline : List (List String)) (tag : String)
      (reply : Except RedisError (List String)) (rest : List String)
  | executing
  | completed (completedAt : Nat)
  | failed
  deriving DecidableEq

structure Invalidation where
  tags : List String
  startedAt : Nat
  stage : InvalidationStage
  deriving DecidableEq

/-- A key that was stored with a tag. -/
structure TagRecord where
  key : String
  tag : String
  storedAt : Nat
  deriving DecidableEq

/-- `now` is the time of day; `tick` orders the steps and is read by no command. -/
structure State where
  keys : Keyspace
  now : Nat
  tick : Nat
  calls : List Call
  invalidations : List Invalidation
  tagged : List TagRecord

def initial (now : Nat) : State :=
  { keys := fun _ => none, now := now, tick := 0, calls := [], invalidations := [], tagged := [] }

/-- How an await ends: with the reply of Redis, with what the fetcher returned, or with an
error. -/
inductive Outcome where
  | reply
  | data (json : Option String)
  | error
  deriving DecidableEq

inductive Label where
  | getOrSet (key : String) (options : CacheOptions)
  | resumeCall (index : Nat) (outcome : Outcome)
  | invalidateByTags (tags : List String)
  | resumeInvalidation (index : Nat) (outcome : Outcome)
  | advance (milliseconds : Nat)

def Call.startFetch (call : Call) (tick : Nat) : Call :=
  { call with fetches := call.fetches + 1, stage := .fetching tick }

/-- The `catch` block calls the fetcher again. -/
def Call.startFallback (call : Call) : Call :=
  { call with fetches := call.fetches + 1, stage := .fallback }

def Call.afterRead (call : Call) (tick : Nat) (reply : Except RedisError (Option Stored)) : Call :=
  match reply with
  | .error _ => call.startFallback
  | .ok none => call.startFetch tick
  | .ok (some cached) =>
    if cached.json = "" then call.startFetch tick
    else { call with stage := .returned (.fromCache cached) }

def State.setCall (s : State) (index : Nat) (call : Call) : State :=
  { s with calls := s.calls.set index call }

def State.setInvalidation (s : State) (index : Nat) (invalidation : Invalidation) : State :=
  { s with invalidations := s.invalidations.set index invalidation }

/-- The tags under which a call has just stored its key. -/
def Call.records (call : Call) (tick : Nat) : List TagRecord :=
  if 0 < call.options.ttl then call.options.tags.map fun tag => ⟨call.key, tag, tick⟩ else []

def State.store (s : State) (index : Nat) (call : Call) (since : Nat) (json : String) : State :=
  { s with
    keys := storeTagged s.keys s.now call.key call.options.ttl call.options.tags ⟨json, since⟩
    calls := s.calls.set index { call with stage := .storing json }
    tagged := s.tagged ++ call.records s.tick }

def State.resumeCall (s : State) (index : Nat) (call : Call) (outcome : Outcome) : Option State :=
  match call.stage, outcome with
  | .reading reply, .reply => some (s.setCall index (call.afterRead s.tick reply))
  | .reading _, .error => some (s.setCall index call.startFallback)
  | .fetching since, .data (some json) => some (s.store index call since json)
  -- the value cannot be serialised
  | .fetching _, .data none => some (s.setCall index call.startFallback)
  | .fetching _, .error => some (s.setCall index call.startFallback)
  | .storing json, .reply =>
    some (s.setCall index { call with stage := .returned (.fetched (some json)) })
  | .storing _, .error => some (s.setCall index call.startFallback)
  | .fallback, .data json =>
    some (s.setCall index { call with stage := .returned (.fetched json) })
  | .fallback, .error => some (s.setCall index { call with stage := .returned .rejected })
  | _, _ => none

def queueDeletes (pipeline : List (List String)) (tag : String) (keys : List String) :
    List (List String) :=
  if 0 < keys.length then pipeline ++ [keys, [tagKey tag]] else pipeline

/-- The loop of `invalidateByTags` from the next tag on. -/
def nextTag (keys : Keyspace) (now : Nat) (pipeline : List (List String)) :
    List String → Keyspace × InvalidationStage
  | [] => (deleteAll keys pipeline, .executing)
  | tag :: rest => (keys, .collecting pipeline tag (smembers keys now (tagKey tag)) rest)

def State.continueInvalidation (s : State) (index : Nat) (invalidation : Invalidation)
    (pipeline : List (List String)) (rest : List String) : State :=
  let next := nextTag s.keys s.now pipeline rest
  { s with
    keys := next.1
    invalidations := s.invalidations.set index { invalidation with stage := next.2 } }

def State.resumeInvalidation (s : State) (index : Nat) (invalidation : Invalidation)
    (outcome : Outcome) : Option State :=
  match invalidation.stage, outcome with
  | .collecting pipeline tag (.ok keys) rest, .reply =>
    some (s.continueInvalidation index invalidation (queueDeletes pipeline tag keys) rest)
  | .collecting _ _ (.error _) _, .reply =>
    some (s.setInvalidation index { invalidation with stage := .failed })
  | .collecting _ _ _ _, .error =>
    some (s.setInvalidation index { invalidation with stage := .failed })
  | .executing, .reply =>
    some (s.setInvalidation index { invalidation with stage := .completed s.tick })
  | .executing, .error => some (s.setInvalidation index { invalidation with stage := .failed })
  | _, _ => none

def State.startInvalidation (s : State) (tags : List String) : State :=
  let next := nextTag s.keys s.now [] tags
  { s with keys := next.1, invalidations := s.invalidations ++ [⟨tags, s.tick, next.2⟩] }

def act (s : State) : Label → Option State
  | .getOrSet key options =>
    some { s with calls := s.calls ++ [⟨key, options, s.tick, 0, .reading (get s.keys s.now key)⟩] }
  | .resumeCall index outcome =>
    match s.calls[index]? with
    | none => none
    | some call => s.resumeCall index call outcome
  | .invalidateByTags tags => some (s.startInvalidation tags)
  | .resumeInvalidation index outcome =>
    match s.invalidations[index]? with
    | none => none
    | some invalidation => s.resumeInvalidation index invalidation outcome
  | .advance milliseconds => some { s with now := s.now + milliseconds }

def step (s : State) (label : Label) : Option State :=
  (act s label).map fun t => { t with tick := t.tick + 1 }

/-- What Redis and the fetcher answer to one call of `getOrSet`: what is cached, as `JSON.parse`
reads it, unless nothing or an empty text, the outcome of each call of the fetcher, and whether a
value is serialised and stored. -/
structure Answers (E V : Type) where
  get : Except E (Option (Except E V))
  fetch : Nat → Except E V
  store : V → Except E Unit

namespace Answers

variable {E V : Type} (answers : Answers E V)

/-- The `try` block, with the number of calls of the fetcher. -/
def attempt : Except E V × Nat :=
  match answers.get with
  | .error error => (.error error, 0)
  | .ok (some cached) => (cached, 0)
  | .ok none => (do
      let data ← answers.fetch 0
      answers.store data
      return data, 1)

def getOrSet : Except E V × Nat :=
  match answers.attempt with
  | (.ok data, calls) => (.ok data, calls)
  | (.error _, calls) => (answers.fetch calls, calls + 1)

/-- The fetcher is called at most once, and a call of it decides how `getOrSet` ends. -/
def FetchesOnce : Prop :=
  answers.getOrSet.2 ≤ 1 ∧ (answers.getOrSet.2 = 1 → answers.getOrSet.1 = answers.fetch 0)

/-- The fetcher is called again just when it has failed, or when what it returned is not stored. -/
theorem fetchesOnce_iff : answers.FetchesOnce ↔
    (answers.get = .ok none → ∃ v, answers.fetch 0 = .ok v ∧ answers.store v = .ok ()) := by
  obtain ⟨get, f, s⟩ := answers
  rcases get with e | _ | e | v
  · simp [FetchesOnce, getOrSet, attempt]
  · cases first : f 0 with
    | error e => simp [FetchesOnce, getOrSet, attempt, first, bind, Except.bind]
    | ok v =>
      cases hs : s v <;>
        simp [FetchesOnce, getOrSet, attempt, first, hs, bind, Except.bind, pure, Except.pure]
  · simp [FetchesOnce, getOrSet, attempt]
  · simp [FetchesOnce, getOrSet, attempt]

/-- Redis is empty and cannot be written to. -/
def lostStore : Answers String Nat where
  get := .ok none
  fetch calls := .ok calls
  store _ := .error "connection lost"

theorem lostStore_fetches_twice : lostStore.getOrSet = (.ok 1, 2) := rfl

end Answers

end CacheService
