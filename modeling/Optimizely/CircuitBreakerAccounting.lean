import Mathlib.Algebra.GroupWithZero.Nat
import Optimizely.CircuitBreaker
import Optimizely.TaskLists

/-!
# What a call through the breaker returns and records

The success of `fn` is recorded inside the try block that also awaits the Redis write. A rejected
write sends a call whose `fn` resolved into the catch block. `History` lists the possible pasts of a
call, and the theorem says for which of them the caller sees the outcome of `fn`, counted once.
-/

namespace CircuitBreakerAccounting

open TransitionRuns CircuitBreaker List Option TaskLists State

universe u v

variable {V : Type u} {E : Type v}

inductive History : Call V E → Prop where
  | refused (message : String) :
      History ⟨.settled (.error (.refused message)), none, none, [], []⟩
  | running (start : Nat) (period : Option Nat) :
      History ⟨.running start, period, none, [], []⟩
  | savingSuccess (period : Option Nat) (value : V) :
      History ⟨.savingSuccess value, period, some (.ok value), [], [true]⟩
  | savingFailure (period : Option Nat) (error : E) :
      History ⟨.savingFailure error, period, some (.error error), [], [false]⟩
  | savingBoth (period : Option Nat) (value : V) (error : E) :
      History ⟨.savingFailure error, period, some (.ok value), [.error error], [true, false]⟩
  | resolved (period : Option Nat) (value : V) :
      History ⟨.settled (.ok value), period, some (.ok value), [.ok ()], [true]⟩
  | rejected (period : Option Nat) (error : E) (write : Except E Unit) :
      History ⟨.settled (.error (.thrown (State.rethrown error write))), period,
        some (.error error), [write], [false]⟩
  | rejectedAfterSuccess (period : Option Nat) (value : V) (error : E)
      (write : Except E Unit) :
      History ⟨.settled (.error (.thrown (State.rethrown error write))), period,
        some (.ok value), [.error error, write], [true, false]⟩

def recordedTotal (result : Bool) (calls : List (Call V E)) : Nat :=
  (calls.map fun c => c.recorded.count result).sum

/-- The counters of the breaker are the totals of what its calls recorded. -/
structure CountsCalls (s : State V E) : Prop where
  unused : s.breaker = none → s.calls = []
  successes : ∀ cb, s.breaker = some cb →
    cb.statistics.successfulRequests = recordedTotal true s.calls
  failures : ∀ cb, s.breaker = some cb →
    cb.statistics.failedRequests = recordedTotal false s.calls
  requests : ∀ cb, s.breaker = some cb →
    cb.statistics.totalRequests = recordedTotal true s.calls + recordedTotal false s.calls

variable {c d : Call V E} {id : Nat} {s t : State V E} {l : Label V E}

lemma recordedTotal_append (r : Bool) (calls : List (Call V E)) (hfr : c.recorded = []) :
    recordedTotal r (calls ++ [c]) = recordedTotal r calls := by
  simp [recordedTotal, hfr]

lemma recordedTotal_set {cs : List (Call V E)}
    (hf : cs[id]? = some c) {ns : List Bool} (ha : d.recorded = c.recorded ++ ns) (r : Bool) :
    recordedTotal r (cs.set id d) = recordedTotal r cs + ns.count r := by
  have hb := sum_map_set (fun c => c.recorded.count r) hf d
  simp only [ha, count_append] at hb
  simp only [recordedTotal]
  omega

section

variable (cs : CountsCalls s)
include cs

lemma countsCalls_putCall (hf : s.calls[id]? = some c) (hs : d.recorded = c.recorded) :
    CountsCalls (s.putCall id d) := by
  have ht : ∀ r, recordedTotal r (s.calls.set id d) = recordedTotal r s.calls := by
    intro r
    simpa using recordedTotal_set hf (by simpa using hs : d.recorded = c.recorded ++ []) r
  constructor
  · intro hn
    have hc := cs.unused hn
    rw [hc] at hf
    simp at hf
  · intro cb hcb
    exact (cs.successes cb hcb).trans (ht true).symm
  · intro cb hcb
    exact (cs.failures cb hcb).trans (ht false).symm
  · intro cb hcb
    simp only [putCall, ht]
    exact cs.requests cb hcb

lemma countsCalls_update (hf : s.calls[id]? = some c) {r : Bool}
    (ha : d.recorded = c.recorded ++ [r]) {f : CircuitBreakerState → CircuitBreakerState}
    (rs : ∀ cb, (f cb).statistics.totalRequests = cb.statistics.totalRequests + 1)
    (hs : ∀ cb, (f cb).statistics.successfulRequests =
      cb.statistics.successfulRequests + [r].count true)
    (hfl : ∀ cb, (f cb).statistics.failedRequests =
      cb.statistics.failedRequests + [r].count false) :
    CountsCalls ((s.updateCircuitBreaker f).putCall id d) := by
  obtain ⟨cb, hcb⟩ : ∃ cb, s.breaker = some cb := by
    cases hb : s.breaker with
    | some cb => exact ⟨cb, rfl⟩
    | none =>
      rw [cs.unused hb] at hf
      simp at hf
  have hst := recordedTotal_set hf ha
  have hnw : ((s.updateCircuitBreaker f).putCall id d).breaker = some (f cb) := by
    simp [putCall, updateCircuitBreaker, getOrCreate, hcb]
  have one : [r].count true + [r].count false = 1 := by cases r <;> rfl
  constructor
  · intro hn
    cases hn
  all_goals
    intro cb' hcb'
    have heq : f cb = cb' := some.inj (hnw.symm.trans hcb')
    subst heq
    simp only [putCall, updateCircuitBreaker, hst]
  · rw [hs, cs.successes cb hcb]
  · rw [hfl, cs.failures cb hcb]
  · rw [rs, cs.requests cb hcb]
    omega

lemma countsCalls_call (svc op : String) (c : PartialConfig) (now : Nat) :
    CountsCalls (s.executeWithCircuitBreaker svc op c now) := by
  have hs : ((s.getOrCreate c).wake now).statistics = (s.getOrCreate c).statistics :=
    CircuitBreakerState.wake_statistics _ now
  have hbr := s.executeWithCircuitBreaker_breaker svc op c now
  have ht : ∀ r, recordedTotal r (s.executeWithCircuitBreaker svc op c now).calls =
        recordedTotal r s.calls := by
    intro r
    rcases s.executeWithCircuitBreaker_cases svc op c now with ⟨m, -, heq⟩ | ⟨-, heq⟩
    · simpa [heq, refuse] using recordedTotal_append r s.calls rfl
    · simpa [heq, startCall] using recordedTotal_append r s.calls rfl
  have ho : (s.getOrCreate c).statistics.successfulRequests = recordedTotal true s.calls ∧
      (s.getOrCreate c).statistics.failedRequests = recordedTotal false s.calls ∧
      (s.getOrCreate c).statistics.totalRequests =
        recordedTotal true s.calls + recordedTotal false s.calls := by
    cases hb : s.breaker with
    | none => simp [getOrCreate, hb, createCircuitBreaker, cs.unused hb, recordedTotal]
    | some cb =>
      simp only [getOrCreate, hb, getD_some]
      exact ⟨cs.successes cb hb, cs.failures cb hb, cs.requests cb hb⟩
  constructor
  · intro hn
    rw [hbr] at hn
    cases hn
  all_goals
    intro cb hcb
    have heq := some.inj (hbr.symm.trans hcb)
    subst heq
    simp only [hs, ht]
  · exact ho.1
  · exact ho.2.1
  · exact ho.2.2

variable {sr svc on op : String}

lemma countsCalls_step (hs : step svc op s l = some t) : CountsCalls t := by
  rcases step_cases hs with ⟨config, now, -, rfl⟩ | ⟨id, c, start, v, now, -, hf, -, rfl⟩ |
    ⟨id, c, start, error, now, -, hf, -, rfl⟩ | ⟨id, c, v, now, -, hf, -, rfl⟩ |
    ⟨id, c, v, error, now, -, hf, -, rfl⟩ | ⟨id, c, error, o, now, -, hf, -, rfl⟩
  · exact countsCalls_call cs svc op config now
  · exact countsCalls_update cs hf rfl (fun _ => rfl) (fun _ => rfl) (fun _ => rfl)
  · exact countsCalls_update cs hf rfl (fun _ => rfl) (fun _ => rfl) (fun _ => rfl)
  · exact countsCalls_putCall cs hf rfl
  · exact countsCalls_update cs hf rfl (fun _ => rfl) (fun _ => rfl) (fun _ => rfl)
  · exact countsCalls_putCall cs hf rfl

end

variable {service svc operation op : String}

lemma history_call (all : ∀ c ∈ s.calls, History c) (cn : PartialConfig) (now : Nat) :
    ∀ c ∈ (s.executeWithCircuitBreaker svc op cn now).calls, History c := by
  rcases s.executeWithCircuitBreaker_cases svc op cn now with ⟨m, -, heq⟩ | ⟨-, heq⟩
  · rw [heq, refuse, wakeBreaker_calls]
    exact forall_append all (.refused m)
  · rw [heq, startCall, wakeBreaker_calls]
    exact forall_append all (.running now _)

lemma history_step (all : ∀ c ∈ s.calls, History c)
    (hs : step svc op s l = some t) : ∀ c ∈ t.calls, History c := by
  have hp : ∀ {id : Nat} {c : Call V E}, s.calls[id]? = some c → History c := by
    intro id c hf
    exact all c (mem_of_getElem? hf)
  rcases step_cases hs with ⟨cn, now, -, rfl⟩ | ⟨id, c, st, v, now, -, hf, sg, rfl⟩ |
    ⟨id, c, st, error, now, -, hf, sg, rfl⟩ |
    ⟨id, c, v, now, -, hf, sg, rfl⟩ |
    ⟨id, c, v, error, now, -, hf, sg, rfl⟩ |
    ⟨id, c, error, o, now, -, hf, sg, rfl⟩
  · exact history_call all cn now
  · apply forall_set all
    cases hp hf <;> cases sg
    exact .savingSuccess _ v
  · apply forall_set all
    cases hp hf <;> cases sg
    exact .savingFailure _ error
  · apply forall_set all
    cases hp hf <;> cases sg
    exact .resolved _ v
  · apply forall_set all
    cases hp hf <;> cases sg
    exact .savingBoth _ v error
  · apply forall_set all
    cases hp hf with
    | savingFailure p e' =>
      cases sg
      exact .rejected p error o
    | savingBoth p v e' =>
      cases sg
      exact .rejectedAfterSuccess p v error o
    | _ => cases sg

/-- The caller gets the outcome of `fn`, and the call is counted once, accordingly. -/
def FaithfulTo (c : Call V E) (fn : Except E V) (outcome : Except (CallError E) V) : Prop :=
  outcome = fn.mapError .thrown ∧ c.recorded = [fn.toBool]

/-- The write that followed `fn` was accepted, or rejected with the error of `fn`. -/
def WriteHarmless (c : Call V E) (fn : Except E V) : Prop :=
  c.persistOutcomes.head? = some (.ok ()) ∨ ∃ error, fn = .error error ∧
    c.persistOutcomes.head? = some (.error error)

lemma faithful_iff_of_history (hp : History c) {fn : Except E V}
    {o : Except (CallError E) V} (sg : c.stage = .settled o)
    (ran : c.fnOutcome = some fn) : FaithfulTo c fn o ↔ WriteHarmless c fn := by
  cases hp with
  | refused m => cases ran
  | running _ _ | savingSuccess _ _ | savingFailure _ _ | savingBoth _ _ _ => cases sg
  | resolved p v =>
    cases sg
    cases ran
    simp [FaithfulTo, WriteHarmless, Except.mapError, Except.toBool]
  | rejected p e w =>
    cases sg
    cases ran
    cases w <;> simp [FaithfulTo, WriteHarmless, Except.mapError, Except.toBool, rethrown, eq_comm]
  | rejectedAfterSuccess p v e w =>
    cases sg
    cases ran
    simp [FaithfulTo, WriteHarmless, Except.mapError]

/-- Whatever a suspended call awaits may settle either way, at any time. -/
lemma awaited_settles (s : State V E) (hf : s.calls[id]? = some c) : (∃ o, c.stage = .settled o) ∨
    (∀ o now, ∃ t, step svc op s (.fnSettles id o now) = some t) ∨
    (∀ o now, ∃ t, step svc op s (.persistSettles id o now) = some t) := by
  cases sg : c.stage with
  | settled o => exact Or.inl ⟨o, rfl⟩
  | running start =>
    refine Or.inr (Or.inl fun o now => ?_)
    cases o <;> simp [step, fnSettles, hf, sg]
  | savingSuccess _ | savingFailure _ =>
    refine Or.inr (Or.inr fun o now => ?_)
    cases o <;> simp [step, persistSettles, hf, sg]

/-- In every interleaving: the counters are the totals of what the calls recorded, no call is stuck,
and a call that ran `fn` reports its outcome and is counted once exactly when the write after `fn`
was harmless. -/
theorem faithful_iff_writeHarmless {ls : List (Label V E)} {s : State V E}
    (run : Run (step service operation) Always initial ls s) : CountsCalls s ∧
    ∀ id c, s.calls[id]? = some c → ((∃ outcome, c.stage = .settled outcome) ∨
        (∀ outcome now, ∃ t, step service operation s (.fnSettles id outcome now) = some t) ∨
        (∀ outcome now, ∃ t, step service operation s (.persistSettles id outcome now) = some t)) ∧
      ∀ fn outcome, c.fnOutcome = some fn → c.stage = .settled outcome →
        (FaithfulTo c fn outcome ↔ WriteHarmless c fn) := by
  have hc : CountsCalls s := by
    apply run.invariant CountsCalls (fun s l t hc _ hs => countsCalls_step hc hs)
    constructor <;> simp [initial]
  have hp : ∀ c ∈ s.calls, History c := by
    apply run.invariant (fun s => ∀ c ∈ s.calls, History c)
      (fun s l t all _ hs => history_step all hs)
    simp [initial]
  refine ⟨hc, fun id c hf => ⟨awaited_settles s hf, ?_⟩⟩
  intro fn outcome ran st
  exact faithful_iff_of_history (hp c (mem_of_getElem? hf)) st ran

/-- `fn` resolves with 7, the write that follows is rejected, the next is accepted. -/
def rejectedWrite : List (Label Nat String) :=
  [.call noConfig 0, .fnSettles 0 (.ok 7) 10,
    .persistSettles 0 (.error "ECONNRESET") 11, .persistSettles 0 (.ok ()) 12]

theorem rejectedWrite_not_faithful : ∃ s c,
    Run (step "crm" "sync") Always initial rejectedWrite s ∧ s.calls[0]? = some c ∧
    c.fnOutcome = some (.ok 7) ∧ c.stage = .settled (.error (.thrown "ECONNRESET")) ∧
    s.breaker.map (·.statistics.totalRequests) = some 2 ∧
    ¬ FaithfulTo c (.ok 7) (.error (.thrown "ECONNRESET")) := by
  refine ⟨_, _, run_of_exec rfl, rfl, rfl, rfl, rfl, ?_⟩
  simp [FaithfulTo, Except.mapError]

def acceptedWrite : List (Label Nat String) :=
  [.call noConfig 0, .fnSettles 0 (.ok 7) 10, .persistSettles 0 (.ok ()) 11]

theorem acceptedWrite_faithful : ∃ s c,
    Run (step "crm" "sync") Always initial acceptedWrite s ∧ s.calls[0]? = some c ∧
    FaithfulTo c (.ok 7) (.ok 7) := by
  have he : exec (step "crm" "sync") initial acceptedWrite = some _ := rfl
  have run := run_of_exec he
  have hs := ((faithful_iff_writeHarmless run).2 0 _ rfl).2 (.ok 7) (.ok 7) rfl rfl
  exact ⟨_, _, run, rfl, hs.mpr (Or.inl rfl)⟩

end CircuitBreakerAccounting
