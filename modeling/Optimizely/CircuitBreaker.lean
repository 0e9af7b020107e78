import Mathlib.Data.Rat.Defs
import Optimizely.TransitionRuns

/-!
# The circuit breaker of the error handling service

`executeWithCircuitBreaker` decides on admission before it awaits `fn` and records the result
afterwards, so calls overlap. The model keeps one breaker, all calls so far and where each is
suspended: in `fn`, or in the Redis write at the end of `updateCircuitBreaker`. Values and
rejections of `fn` are arbitrary types. The clock need not be monotone.
-/

namespace CircuitBreaker

open TransitionRuns Option

universe u v

inductive BreakerState where
  | closed
  | opened
  | halfOpen
  deriving DecidableEq

structure CircuitBreakerConfig where
  failureThreshold : Nat
  successThreshold : Nat
  timeout : Nat
  halfOpenMaxCalls : Nat
  deriving DecidableEq

structure PartialConfig where
  failureThreshold : Option Nat
  successThreshold : Option Nat
  timeout : Option Nat
  halfOpenMaxCalls : Option Nat
  deriving DecidableEq

structure CircuitBreakerStats where
  totalRequests : Nat
  successfulRequests : Nat
  failedRequests : Nat
  circuitOpenings : Nat
  averageResponseTime : Rat
  deriving DecidableEq

structure CircuitBreakerState where
  state : BreakerState
  failureCount : Nat
  successCount : Nat
  lastFailureTime : Option Nat
  lastSuccessTime : Option Nat
  nextAttemptTime : Option Nat
  config : CircuitBreakerConfig
  statistics : CircuitBreakerStats
  deriving DecidableEq

def defaultCircuitBreakerConfig : CircuitBreakerConfig where
  failureThreshold := 5
  successThreshold := 3
  timeout := 60000
  halfOpenMaxCalls := 3

def noConfig : PartialConfig := ⟨none, none, none, none⟩

/-- The object spread of the defaults followed by the fields the caller gives. -/
def mergeConfig (config : PartialConfig) : CircuitBreakerConfig where
  failureThreshold := config.failureThreshold.getD defaultCircuitBreakerConfig.failureThreshold
  successThreshold := config.successThreshold.getD defaultCircuitBreakerConfig.successThreshold
  timeout := config.timeout.getD defaultCircuitBreakerConfig.timeout
  halfOpenMaxCalls := config.halfOpenMaxCalls.getD defaultCircuitBreakerConfig.halfOpenMaxCalls

def createCircuitBreaker (config : PartialConfig) : CircuitBreakerState where
  state := .closed
  failureCount := 0
  successCount := 0
  lastFailureTime := none
  lastSuccessTime := none
  nextAttemptTime := none
  config := mergeConfig config
  statistics := ⟨0, 0, 0, 0, 0⟩

namespace CircuitBreakerState

/-- The first check of a call: an open breaker whose waiting time is over becomes
half open, even if the second check then refuses the call. -/
def wake (cb : CircuitBreakerState) (now : Nat) : CircuitBreakerState :=
  if cb.state = .opened ∧ ¬ now < cb.nextAttemptTime.getD 0 then
    { cb with state := .halfOpen, successCount := 0 }
  else cb

/-- The message with which a call is refused, if it is. -/
def refusal (cb : CircuitBreakerState) (service operation : String) (now : Nat) :
    Option String :=
  if cb.state = .opened ∧ now < cb.nextAttemptTime.getD 0 then
    some s!"Circuit breaker is OPEN for {service}:{operation}"
  else if (cb.wake now).state = .halfOpen ∧
      cb.config.halfOpenMaxCalls ≤ (cb.wake now).successCount then
    some s!"Circuit breaker is HALF_OPEN and max calls exceeded for {service}:{operation}"
  else none

def recordSuccess (cb : CircuitBreakerState) (now : Nat) (responseTime : Int) :
    CircuitBreakerState :=
  let total := cb.statistics.totalRequests + 1
  let average := cb.statistics.averageResponseTime
  { cb with
    state := if cb.state = .halfOpen ∧ cb.config.successThreshold ≤ cb.successCount + 1 then
      .closed else cb.state
    successCount := cb.successCount + 1
    failureCount := 0
    lastSuccessTime := some now
    statistics := { cb.statistics with
      totalRequests := total
      successfulRequests := cb.statistics.successfulRequests + 1
      averageResponseTime := if responseTime = 0 then average
        else (average * (total - 1 : Nat) + responseTime) / total } }

def recordFailure (cb : CircuitBreakerState) (now : Nat) : CircuitBreakerState :=
  let opens := cb.state = .closed ∧ cb.config.failureThreshold ≤ cb.failureCount + 1
  { cb with
    state := if opens then .opened else cb.state
    successCount := 0
    failureCount := cb.failureCount + 1
    lastFailureTime := some now
    nextAttemptTime := if opens then some (now + cb.config.timeout) else cb.nextAttemptTime
    statistics := { cb.statistics with
      totalRequests := cb.statistics.totalRequests + 1
      failedRequests := cb.statistics.failedRequests + 1
      circuitOpenings := cb.statistics.circuitOpenings + if opens then 1 else 0 } }

@[simp] lemma wake_config (cb : CircuitBreakerState) (now : Nat) :
    (cb.wake now).config = cb.config := by
  rw [wake]
  split <;> rfl

@[simp] lemma wake_statistics (cb : CircuitBreakerState) (now : Nat) :
    (cb.wake now).statistics = cb.statistics := by
  rw [wake]
  split <;> rfl

lemma wake_eq_or (cb : CircuitBreakerState) (now : Nat) :
    (cb.state = .opened ∧ cb.wake now = { cb with state := .halfOpen, successCount := 0 }) ∨
    cb.wake now = cb := by
  by_cases h : cb.state = .opened ∧ ¬ now < cb.nextAttemptTime.getD 0
  · exact Or.inl ⟨h.1, by rw [wake, if_pos h]⟩
  · exact Or.inr (by rw [wake, if_neg h])

lemma successCount_lt_of_refusal_none {cb : CircuitBreakerState} {svc op : String}
    {now : Nat} (h : cb.refusal svc op now = none) (hs : (cb.wake now).state = .halfOpen) :
    (cb.wake now).successCount < cb.config.halfOpenMaxCalls := by
  by_contra hle
  rw [refusal] at h
  split_ifs at h with _ hf
  exact hf ⟨hs, Nat.le_of_not_lt hle⟩

lemma wake_of_state_ne {cb : CircuitBreakerState} (h : cb.state ≠ .opened) (now : Nat) :
    cb.wake now = cb := by
  simp [wake, h]

end CircuitBreakerState

/-- Why a call is rejected: its own error, or a refusal by the breaker. -/
inductive CallError (E : Type v) where
  | thrown (error : E)
  | refused (message : String)
  deriving DecidableEq

/-- Where a call is suspended. `savingSuccess` and `savingFailure` await the Redis
write of `persistCircuitBreakerState`, the latter inside the catch block. -/
inductive Stage (V : Type u) (E : Type v) where
  | running (startTime : Nat)
  | savingSuccess (value : V)
  | savingFailure (error : E)
  | settled (outcome : Except (CallError E) V)
  deriving DecidableEq

/-- A call with its history: the half-open period that admitted it, if one did, how
`fn` and the Redis writes settled, and the results it had recorded. -/
structure Call (V : Type u) (E : Type v) where
  stage : Stage V E
  period : Option Nat
  fnOutcome : Option (Except E V)
  persistOutcomes : List (Except E Unit)
  recorded : List Bool
  deriving DecidableEq

/-- `period` counts the moments at which the breaker became half open and `admissions`
the calls admitted in a half-open state since the last of them. -/
structure State (V : Type u) (E : Type v) where
  breaker : Option CircuitBreakerState
  calls : List (Call V E)
  period : Nat
  admissions : Nat
  deriving DecidableEq

inductive Label (V : Type u) (E : Type v) where
  | call (config : PartialConfig) (now : Nat)
  | fnSettles (id : Nat) (outcome : Except E V) (now : Nat)
  | persistSettles (id : Nat) (outcome : Except E Unit) (now : Nat)

variable {V : Type u} {E : Type v}

def initial : State V E := ⟨none, [], 0, 0⟩

namespace State

/-- The breaker a call with this configuration finds or creates. -/
def getOrCreate (s : State V E) (config : PartialConfig) : CircuitBreakerState :=
  s.breaker.getD (createCircuitBreaker config)

def putCall (s : State V E) (id : Nat) (c : Call V E) : State V E :=
  { s with calls := s.calls.set id c }

def updateCircuitBreaker (s : State V E) (f : CircuitBreakerState → CircuitBreakerState) :
    State V E :=
  { s with breaker := some (f (s.getOrCreate noConfig)) }

/-- The breaker after the first check of a call, with the history of half-open periods. -/
def wakeBreaker (s : State V E) (config : PartialConfig) (now : Nat) : State V E :=
  let cb := s.getOrCreate config
  if cb.state = .opened ∧ (cb.wake now).state = .halfOpen then
    { s with breaker := some (cb.wake now), period := s.period + 1, admissions := 0 }
  else { s with breaker := some (cb.wake now) }

def refuse (s : State V E) (message : String) : State V E :=
  { s with calls := s.calls ++
    [⟨.settled (.error (.refused message)), none, none, [], []⟩] }

def startCall (s : State V E) (halfOpen : Bool) (now : Nat) : State V E :=
  { s with
    calls := s.calls ++ [⟨.running now, if halfOpen then some s.period else none,
      none, [], []⟩]
    admissions := if halfOpen then s.admissions + 1 else s.admissions }

/-- The synchronous part of `executeWithCircuitBreaker` up to `await fn()`. -/
def executeWithCircuitBreaker (service operation : String) (s : State V E)
    (config : PartialConfig) (now : Nat) : State V E :=
  let cb := s.getOrCreate config
  match cb.refusal service operation now with
  | some message => (s.wakeBreaker config now).refuse message
  | none => (s.wakeBreaker config now).startCall ((cb.wake now).state = .halfOpen) now

def recordSuccess (s : State V E) (id : Nat) (c : Call V E) (value : V) (now : Nat)
    (responseTime : Int) : State V E :=
  (s.updateCircuitBreaker (·.recordSuccess now responseTime)).putCall id
    { c with
      stage := .savingSuccess value
      recorded := c.recorded ++ [true] }

def recordFailure (s : State V E) (id : Nat) (c : Call V E) (error : E) (now : Nat) :
    State V E :=
  (s.updateCircuitBreaker (·.recordFailure now)).putCall id
    { c with
      stage := .savingFailure error
      recorded := c.recorded ++ [false] }

def fnSettles (s : State V E) (id : Nat) (outcome : Except E V) (now : Nat) :
    Option (State V E) := do
  let c ← s.calls[id]?
  match c.stage, outcome with
  | .running startTime, .ok value =>
    some (s.recordSuccess id { c with fnOutcome := some outcome } value now (now - startTime))
  | .running _, .error error =>
    some (s.recordFailure id { c with fnOutcome := some outcome } error now)
  | _, _ => none

/-- The catch block ends with `throw error` unless its own write rejects first. -/
def rethrown (error : E) : Except E Unit → E
  | .ok _ => error
  | .error error' => error'

/-- The write that follows a success lies inside the try block: its rejection enters
the catch block, which records a failure and writes again. -/
def persistSettles (s : State V E) (id : Nat) (outcome : Except E Unit) (now : Nat) :
    Option (State V E) := do
  let c ← s.calls[id]?
  let noted := { c with persistOutcomes := c.persistOutcomes ++ [outcome] }
  match c.stage, outcome with
  | .savingSuccess value, .ok _ =>
    some (s.putCall id { noted with stage := .settled (.ok value) })
  | .savingSuccess _, .error error => some (s.recordFailure id noted error now)
  | .savingFailure error, _ =>
    some (s.putCall id
      { noted with stage := .settled (.error (.thrown (rethrown error outcome))) })
  | _, _ => none

end State

def step (service operation : String) (s : State V E) : Label V E → Option (State V E)
  | .call config now => some (s.executeWithCircuitBreaker service operation config now)
  | .fnSettles id outcome now => s.fnSettles id outcome now
  | .persistSettles id outcome now => s.persistSettles id outcome now

namespace State

section

variable (svc op : String)

lemma wakeBreaker_breaker (s : State V E) (c : PartialConfig) (now : Nat) :
    (s.wakeBreaker c now).breaker = some ((s.getOrCreate c).wake now) := by
  simp only [wakeBreaker]
  split_ifs <;> rfl

lemma wakeBreaker_of_entered {s : State V E} {c : PartialConfig} {now : Nat}
    (b : (s.getOrCreate c).state = .opened) (t : ((s.getOrCreate c).wake now).state = .halfOpen) :
    s.wakeBreaker c now = { s with
        breaker := some ((s.getOrCreate c).wake now)
        period := s.period + 1
        admissions := 0 } := by
  simp only [wakeBreaker, b, t, and_self, if_true]

lemma wakeBreaker_of_same {s : State V E} {c : PartialConfig} {now : Nat}
    (hs : (s.getOrCreate c).wake now = s.getOrCreate c) :
    s.wakeBreaker c now = { s with breaker := some (s.getOrCreate c) } := by
  have : ¬ ((s.getOrCreate c).state = .opened ∧ (s.getOrCreate c).state = .halfOpen) := by
    rintro ⟨ho, hh⟩
    rw [ho] at hh
    cases hh
  simp only [wakeBreaker, hs, if_neg this]

variable (s : State V E) (c : PartialConfig) (now : Nat)

@[simp] lemma wakeBreaker_calls : (s.wakeBreaker c now).calls = s.calls := by
  simp only [wakeBreaker]
  split_ifs <;> rfl

lemma executeWithCircuitBreaker_cases :
    (∃ m, (s.getOrCreate c).refusal svc op now = some m ∧ s.executeWithCircuitBreaker svc op c now =
        (s.wakeBreaker c now).refuse m) ∨
    ((s.getOrCreate c).refusal svc op now = none ∧ s.executeWithCircuitBreaker svc op c now =
        (s.wakeBreaker c now).startCall (((s.getOrCreate c).wake now).state = .halfOpen) now) := by
  cases h : (s.getOrCreate c).refusal svc op now with
  | some m => exact Or.inl ⟨m, rfl, by simp only [executeWithCircuitBreaker, h]⟩
  | none => exact Or.inr ⟨rfl, by simp only [executeWithCircuitBreaker, h]⟩

lemma executeWithCircuitBreaker_breaker :
    (s.executeWithCircuitBreaker svc op c now).breaker = some ((s.getOrCreate c).wake now) := by
  have hw := s.wakeBreaker_breaker c now
  rcases s.executeWithCircuitBreaker_cases svc op c now with ⟨m, -, heq⟩ | ⟨-, heq⟩ <;>
  · rw [heq]
    exact hw

end

end State

variable {svc op : String} {s t : State V E} {l : Label V E}

/-- Everything a step can do: a call is made, `fn` of a running call settles, or a
Redis write settles. -/
lemma step_cases (h : step svc op s l = some t) : (∃ cn now, l = .call cn now ∧
      t = s.executeWithCircuitBreaker svc op cn now) ∨
    (∃ id c st v now, l = .fnSettles id (.ok v) now ∧ s.calls[id]? = some c ∧
      c.stage = .running st ∧ t = s.recordSuccess id { c with fnOutcome := some (.ok v) } v now
        (now - st)) ∨
    (∃ id c st error now, l = .fnSettles id (.error error) now ∧ s.calls[id]? = some c ∧
      c.stage = .running st ∧
      t = s.recordFailure id { c with fnOutcome := some (.error error) } error now) ∨
    (∃ id c v now, l = .persistSettles id (.ok ()) now ∧ s.calls[id]? = some c ∧
      c.stage = .savingSuccess v ∧ t = s.putCall id { c with
        persistOutcomes := c.persistOutcomes ++ [.ok ()]
        stage := .settled (.ok v) }) ∨
    (∃ id c v error now, l = .persistSettles id (.error error) now ∧
      s.calls[id]? = some c ∧ c.stage = .savingSuccess v ∧ t = s.recordFailure id
        { c with persistOutcomes := c.persistOutcomes ++ [.error error] } error now) ∨
    (∃ id c error o now, l = .persistSettles id o now ∧
      s.calls[id]? = some c ∧ c.stage = .savingFailure error ∧ t = s.putCall id { c with
        persistOutcomes := c.persistOutcomes ++ [o]
        stage := .settled (.error (.thrown (State.rethrown error o))) }) := by
  cases l with
  | call cn now => exact Or.inl ⟨cn, now, rfl, (some.inj h).symm⟩
  | fnSettles id o now =>
    obtain ⟨c, hc, hb⟩ := bind_eq_some_iff.mp h
    cases hs : c.stage with
    | running st =>
      cases o with
      | ok v =>
        simp only [hs] at hb
        exact Or.inr (Or.inl ⟨id, c, st, v, now, rfl, hc, hs, (some.inj hb).symm⟩)
      | error error =>
        simp only [hs] at hb
        exact Or.inr (Or.inr (Or.inl ⟨id, c, st, error, now, rfl, hc, hs, (some.inj hb).symm⟩))
    | savingSuccess _ | savingFailure _ | settled _ => simp [hs] at hb
  | persistSettles id o now =>
    obtain ⟨c, hc, hb⟩ := bind_eq_some_iff.mp h
    cases hs : c.stage with
    | running st => simp [hs] at hb
    | savingSuccess v =>
      cases o with
      | ok done =>
        simp only [hs] at hb
        exact Or.inr (Or.inr (Or.inr (Or.inl ⟨id, c, v, now, rfl, hc, hs, (some.inj hb).symm⟩)))
      | error error =>
        simp only [hs] at hb
        exact Or.inr (Or.inr (Or.inr (Or.inr (Or.inl ⟨id, c, v, error, now, rfl, hc,
          hs, (some.inj hb).symm⟩))))
    | savingFailure error =>
      simp only [hs] at hb
      exact Or.inr (Or.inr (Or.inr (Or.inr (Or.inr ⟨id, c, error, o, now, rfl, hc,
        hs, (some.inj hb).symm⟩))))
    | settled o => simp [hs] at hb

end CircuitBreaker
