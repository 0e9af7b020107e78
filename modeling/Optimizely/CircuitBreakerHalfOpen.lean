import Optimizely.CircuitBreaker
import Optimizely.TaskLists

/-!
# The half-open state of the breaker

While half open the breaker should admit a bounded number of trial calls and open again on the first
failure. The code bounds the successes so far, not the calls admitted, and its failure branch leaves
a half-open breaker as it is. `Disciplined` excludes exactly these two situations, and under it both
laws hold.
-/

namespace CircuitBreakerHalfOpen

open TransitionRuns CircuitBreaker Option State

universe u v

variable {V : Type u} {E : Type v}

/-- The call that records a failure in this step, and when. -/
def failureAt (s : State V E) : Label V E → Option (Nat × Nat)
  | .fnSettles id (.error _) now => some (id, now)
  | .persistSettles id (.error _) now =>
    match s.calls[id]? with
    | some ⟨.savingSuccess _, _, _, _, _⟩ => some (id, now)
    | _ => none
  | _ => none

/-- A call admitted in this half-open period that has recorded nothing yet. -/
def isTrial (period : Nat) (c : Call V E) : Bool :=
  c.period == some period && c.recorded.isEmpty

def trialsRunning (s : State V E) : Nat :=
  s.calls.countP (isTrial s.period)

/-- A trial call may fail only where its failure opens the breaker, and an older call
may not fail in a half-open breaker that has counted a success. -/
def FailureFits (cb : CircuitBreakerState) (c : Call V E) : Prop :=
  if c.period.isSome then
    cb.state = .closed ∧ cb.config.failureThreshold ≤ cb.failureCount + 1
  else cb.state = .halfOpen → cb.successCount = 0

deriving instance Decidable for FailureFits

/-- The test a call should pass: the trial calls still running count as well. -/
def CallFits (cb : CircuitBreakerState) (running : Nat) : Prop :=
  cb.state = .halfOpen → cb.successCount < cb.config.halfOpenMaxCalls →
    cb.successCount + running < cb.config.halfOpenMaxCalls

deriving instance Decidable for CallFits

def isCall : Label V E → Bool
  | .call _ _ => true
  | _ => false

def Disciplined (s : State V E) (l : Label V E) : Prop :=
  ∀ cb ∈ s.breaker,
    (∀ failure ∈ failureAt s l, ∀ c ∈ s.calls[failure.1]?, FailureFits cb c) ∧
    (isCall l → CallFits cb (trialsRunning s))

deriving instance Decidable for Disciplined

/-- The first law: the failure of a trial call leaves the breaker open, with a waiting
time that starts at the failure. -/
def TrialFailureReopens (s : State V E) (l : Label V E) (t : State V E) : Prop :=
  ∀ id now c, failureAt s l = some (id, now) → s.calls[id]? = some c → c.period.isSome →
    ∃ cb, t.breaker = some cb ∧ cb.state = .opened ∧
      cb.nextAttemptTime = some (now + cb.config.timeout)

/-- The second law: admissions since the breaker last became half open. -/
def TrialsBounded (s : State V E) : Prop :=
  ∀ cb, s.breaker = some cb → s.admissions ≤ cb.config.halfOpenMaxCalls

/-- In a half-open breaker every trial call is counted as a success or still running. -/
structure TrialsCounted (s : State V E) : Prop where
  unused : s.breaker = none → s.calls = [] ∧ s.admissions = 0
  bounded : TrialsBounded s
  accounted : ∀ cb, s.breaker = some cb → cb.state = .halfOpen →
    s.admissions ≤ cb.successCount + trialsRunning s

variable {c d : Call V E} {id now : Nat} {s t : State V E} {cb : CircuitBreakerState}
  {l : Label V E}

lemma trialsRunning_putCall (hf : s.calls[id]? = some c) (p : d.period = c.period)
    (hrc : d.recorded = c.recorded) : trialsRunning (s.putCall id d) = trialsRunning s := by
  have hc := TaskLists.countP_set (isTrial s.period) hf d
  have hs : isTrial s.period d = isTrial s.period c := by simp [isTrial, p, hrc]
  rw [hs] at hc
  simp only [trialsRunning, putCall]
  omega

lemma trialsRunning_recorded (hf : s.calls[id]? = some c) (hrc : d.recorded ≠ []) :
    trialsRunning (s.putCall id d) + (if isTrial s.period c then 1 else 0) = trialsRunning s := by
  have hc := TaskLists.countP_set (isTrial s.period) hf d
  have done : isTrial s.period d = false := by simp [isTrial, hrc]
  simpa [trialsRunning, putCall, done] using hc

lemma trialsCounted_putCall (hct : TrialsCounted s)
    (hf : s.calls[id]? = some c) (p : d.period = c.period)
    (hrc : d.recorded = c.recorded) : TrialsCounted (s.putCall id d) := by
  have hsm := trialsRunning_putCall hf p hrc
  refine ⟨fun hn => ?_, hct.bounded, ?_⟩
  · rw [(hct.unused hn).1] at hf
    simp at hf
  intro cb hcb hs
  rw [hsm]
  exact hct.accounted cb hcb hs

lemma trialsCounted_update (hct : TrialsCounted s) (id : Nat)
    (d : Call V E) {f : CircuitBreakerState → CircuitBreakerState}
    (c : ∀ cb, (f cb).config = cb.config)
    (ha : ∀ cb, s.breaker = some cb → (f cb).state = .halfOpen →
      s.admissions ≤ (f cb).successCount + trialsRunning (s.putCall id d)) :
    TrialsCounted ((s.updateCircuitBreaker f).putCall id d) := by
  have had : ((s.updateCircuitBreaker f).putCall id d).admissions = s.admissions := rfl
  cases hb : s.breaker with
  | none =>
    have zero := (hct.unused hb).2
    refine ⟨fun hn => ?_, fun cb _ => ?_, fun cb _ _ => ?_⟩
    · simp [putCall, updateCircuitBreaker] at hn
    · omega
    · omega
  | some cb =>
    have hbr : ((s.updateCircuitBreaker f).putCall id d).breaker = some (f cb) := by
      simp [putCall, updateCircuitBreaker, getOrCreate, hb]
    refine ⟨fun hn => ?_, fun cb' hcb' => ?_, fun cb' hcb' hs => ?_⟩
    · rw [hbr] at hn
      cases hn
    · have heq := some.inj (hbr.symm.trans hcb')
      subst heq
      rw [c, had]
      exact hct.bounded cb hb
    · have heq := some.inj (hbr.symm.trans hcb')
      subst heq
      exact ha cb hb hs

lemma trialsCounted_recordSuccess (hct : TrialsCounted s)
    (hf : s.calls[id]? = some c) (d : Call V E) (v : V) (now : Nat)
    (r : Int) : TrialsCounted (s.recordSuccess id d v now r) := by
  refine trialsCounted_update hct id _ ?_ ?_
  · intro cb
    rfl
  intro cb hcb hs
  have hb : cb.state = .halfOpen := by
    by_contra hne
    simp [CircuitBreakerState.recordSuccess, hne] at hs
  have old := hct.accounted cb hcb hb
  have hr := trialsRunning_recorded hf
    (d := { d with stage := .savingSuccess v, recorded := d.recorded ++ [true] }) (by simp)
  have hc : (cb.recordSuccess now r).successCount = cb.successCount + 1 := rfl
  rw [hc]
  split at hr <;> omega

/-- The failure of a call that is no trial call, in a breaker where that fits. -/
lemma trialsCounted_recordFailure (hct : TrialsCounted s) (hf : s.calls[id]? = some c)
    (hfs : ∀ cb, s.breaker = some cb → FailureFits cb c) (d : Call V E) (e : E)
    (now : Nat) : TrialsCounted (s.recordFailure id d e now) := by
  refine trialsCounted_update hct id _ ?_ ?_
  · intro cb
    rfl
  intro cb hcb hs
  have hb : cb.state = .halfOpen := by
    by_contra hne
    simp only [CircuitBreakerState.recordFailure] at hs
    split at hs
    · cases hs
    · exact hne hs
  have hft := hfs cb hcb
  have old := hct.accounted cb hcb hb
  have hr := trialsRunning_recorded hf
    (d := { d with stage := .savingFailure e, recorded := d.recorded ++ [false] }) (by simp)
  have hc : (cb.recordFailure now).successCount = 0 := rfl
  rw [hc]
  cases hp : c.period with
  | some trial =>
    simp only [FailureFits, hp, isSome_some, if_true] at hft
    rw [hb] at hft
    cases hft.1
  | none =>
    simp only [FailureFits, hp, isSome_none, Bool.false_eq_true, if_false] at hft
    have zero := hft hb
    have ho : isTrial s.period c = false := by simp [isTrial, hp]
    simp only [ho, Bool.false_eq_true, if_false] at hr
    omega

variable {service svc operation op : String}

lemma trialsRunning_startCall (s : State V E) (b : Bool) (now : Nat) :
    trialsRunning (s.startCall b now) = trialsRunning s + if b then 1 else 0 := by
  cases b <;> simp [trialsRunning, startCall, isTrial]

lemma trialsRunning_refuse (s : State V E) (m : String) :
    trialsRunning (s.refuse m) = trialsRunning s := by
  simp [trialsRunning, refuse, isTrial]

section

variable (hct : TrialsCounted s)
include hct

lemma trialsCounted_wakeBreaker (c : PartialConfig) (now : Nat) :
    TrialsCounted (s.wakeBreaker c now) := by
  have hbreaker := s.wakeBreaker_breaker c now
  rcases (s.getOrCreate c).wake_eq_or now with ⟨ho, hw⟩ | hs
  · rw [wakeBreaker_of_entered ho (by rw [hw])]
    constructor <;> simp [TrialsBounded]
  · cases hb : s.breaker with
    | none =>
      have hz := (hct.unused hb).2
      rw [wakeBreaker_of_same hs]
      constructor <;> simp [TrialsBounded, hz]
    | some cb =>
      have hun : s.wakeBreaker c now = s := by
        rw [wakeBreaker_of_same hs, getOrCreate, hb, getD_some, ← hb]
      rw [hun]
      exact hct

lemma trialsCounted_refuse (hcb : s.breaker = some cb) (m : String) :
    TrialsCounted (s.refuse m) := by
  refine ⟨fun hn => ?_, hct.bounded, ?_⟩
  · rw [show (s.refuse m).breaker = some cb from hcb] at hn
    cases hn
  intro cb hcb hs
  rw [trialsRunning_refuse]
  exact hct.accounted cb hcb hs

lemma trialsCounted_startCall (hcb : s.breaker = some cb)
    (hr : cb.state = .halfOpen → s.admissions < cb.config.halfOpenMaxCalls) (now : Nat) :
    TrialsCounted (s.startCall (cb.state = .halfOpen) now) := by
  have old := hct.bounded cb hcb
  refine ⟨fun hn => ?_, fun cb' hcb' => ?_, fun cb' hcb' hs => ?_⟩
  · rw [show (s.startCall (cb.state = .halfOpen) now).breaker = some cb from hcb] at hn
    cases hn
  · have heq : cb = cb' := some.inj (hcb.symm.trans hcb')
    subst heq
    by_cases hh : cb.state = .halfOpen
    · have := hr hh
      simp only [startCall, hh, decide_true, if_true]
      omega
    · simpa [startCall, hh] using old
  · have heq : cb = cb' := some.inj (hcb.symm.trans hcb')
    subst heq
    have ha := hct.accounted cb hcb hs
    rw [trialsRunning_startCall]
    simp only [startCall, hs, decide_true, if_true]
    omega

/-- A refused call leaves the breaker as it woke up; an admitted one finds room, in a new half-open
period by the check, in a running one by the condition. -/
lemma trialsCounted_call {c : PartialConfig}
    (fits : ∀ cb, s.breaker = some cb → CallFits cb (trialsRunning s)) :
    TrialsCounted (s.executeWithCircuitBreaker svc op c now) := by
  have woken := trialsCounted_wakeBreaker hct c now
  rcases s.executeWithCircuitBreaker_cases svc op c now with ⟨m, -, heq⟩ | ⟨admitted, heq⟩
  · rw [heq]
    exact trialsCounted_refuse woken (s.wakeBreaker_breaker c now) m
  · rw [heq]
    refine trialsCounted_startCall woken (s.wakeBreaker_breaker c now) ?_ now
    intro half
    have below := CircuitBreakerState.successCount_lt_of_refusal_none admitted half
    rw [CircuitBreakerState.wake_config]
    rcases (s.getOrCreate c).wake_eq_or now with ⟨hopen, hwake⟩ | hsame
    · rw [wakeBreaker_of_entered hopen half]
      exact Nat.lt_of_le_of_lt (Nat.zero_le _) below
    · rw [wakeBreaker_of_same hsame]
      rw [hsame] at half below
      cases hb : s.breaker with
      | none => simp [getOrCreate, hb, createCircuitBreaker] at half
      | some cb =>
        simp only [getOrCreate, hb, getD_some] at half below ⊢
        have fit := fits cb hb half below
        have ha := hct.accounted cb hb half
        change s.admissions < cb.config.halfOpenMaxCalls
        omega

end

lemma failureFits_of_disciplined (hok : Disciplined s l) (hfl : failureAt s l = some (id, now))
    (hf : s.calls[id]? = some c) (hcb : s.breaker = some cb) : FailureFits cb c :=
  (hok cb hcb).1 (id, now) hfl c hf

lemma failureAt_persist {v : V}
    (hf : s.calls[id]? = some c) (sg : c.stage = .savingSuccess v) (e : E)
    (now : Nat) : failureAt s (.persistSettles id (.error e) now) = some (id, now) := by
  obtain ⟨stage', period, fnOutcome, persistOutcomes, rc⟩ := c
  simp only at sg
  subst sg
  simp only [failureAt, hf]

lemma trialsCounted_step (hct : TrialsCounted s)
    (hok : Disciplined s l) (hs : step svc op s l = some t) : TrialsCounted t := by
  rcases step_cases hs with ⟨config, now, rfl, rfl⟩ | ⟨id, c, st, v, now, rfl, hf, -, rfl⟩ |
    ⟨id, c, st, error, now, rfl, hf, -, rfl⟩ |
    ⟨id, c, v, now, rfl, hf, -, rfl⟩ |
    ⟨id, c, v, error, now, rfl, hf, sg, rfl⟩ |
    ⟨id, c, error, o, now, rfl, hf, -, rfl⟩
  · exact trialsCounted_call hct fun cb hcb => (hok cb hcb).2 rfl
  · exact trialsCounted_recordSuccess hct hf _ v now _
  · exact trialsCounted_recordFailure hct hf
      (fun cb hcb => failureFits_of_disciplined hok rfl hf hcb) _ error now
  · exact trialsCounted_putCall hct hf rfl rfl
  · have hfl := failureAt_persist hf sg error now
    exact trialsCounted_recordFailure hct hf
      (fun cb hcb => failureFits_of_disciplined hok hfl hf hcb) _ error now
  · exact trialsCounted_putCall hct hf rfl rfl

lemma recordFailure_of_failureAt
    (hfl : failureAt s l = some (id, now)) (hs : step svc op s l = some t) :
    ∃ d error, t = s.recordFailure id d error now := by
  rcases step_cases hs with ⟨config, now', rfl, rfl⟩ | ⟨id', c, st, v, now', rfl, hf, -, rfl⟩ |
    ⟨id', c, st, error, now', rfl, hf, -, rfl⟩ |
    ⟨id', c, v, now', rfl, hf, -, rfl⟩ |
    ⟨id', c, v, error, now', rfl, hf, sg, rfl⟩ |
    ⟨id', c, error, o, now', rfl, hf, sg, rfl⟩
  · cases hfl
  · cases hfl
  · cases hfl
    exact ⟨_, error, rfl⟩
  · cases hfl
  · rw [failureAt_persist hf sg error now'] at hfl
    cases hfl
    exact ⟨_, error, rfl⟩
  · obtain ⟨stage', period, fnOutcome, persistOutcomes, rc⟩ := c
    simp only at sg
    subst sg
    cases o with
    | ok done => cases hfl
    | error error' => simp [failureAt, hf] at hfl

lemma trialFailureReopens_step (hct : TrialsCounted s)
    (hok : Disciplined s l) (hs : step svc op s l = some t) : TrialFailureReopens s l t := by
  intro id now c hfl hf ht
  obtain ⟨cb, hcb⟩ : ∃ cb, s.breaker = some cb := by
    cases hb : s.breaker with
    | some cb => exact ⟨cb, rfl⟩
    | none =>
      rw [(hct.unused hb).1] at hf
      simp at hf
  have hft := failureFits_of_disciplined hok hfl hf hcb
  simp only [FailureFits, ht, if_true] at hft
  obtain ⟨d, error, rfl⟩ := recordFailure_of_failureAt hfl hs
  refine ⟨cb.recordFailure now, ?_, ?_, ?_⟩
  · simp [recordFailure, putCall, updateCircuitBreaker, getOrCreate, hcb]
  · simp [CircuitBreakerState.recordFailure, hft]
  · simp [CircuitBreakerState.recordFailure, hft]

/-- Along every disciplined run, at most `halfOpenMaxCalls` calls are admitted per
half-open period and every failing trial call opens the breaker. -/
theorem halfOpen_laws_of_disciplined {ls : List (Label V E)} {s : State V E}
    (run : Run (step service operation) Disciplined initial ls s) : TrialsBounded s ∧
    ∀ l t, Disciplined s l → step service operation s l = some t →
      TrialFailureReopens s l t ∧ TrialsBounded t := by
  have hc : TrialsCounted s := by
    apply run.invariant TrialsCounted (fun s l t hc hok hs => trialsCounted_step hc hok hs)
    constructor <;> simp [initial, TrialsBounded]
  refine ⟨hc.bounded, fun l t hok hs => ⟨?_, ?_⟩⟩
  · exact trialFailureReopens_step hc hok hs
  · exact (trialsCounted_step hc hok hs).bounded

/-- One failure opens the breaker; after the waiting time two calls start at once, and
one of them fails. The limits are one failure, one success and one trial call. -/
def twoTrials : List (Label Nat String) :=
  [.call ⟨some 1, some 1, some 100, some 1⟩ 0, .fnSettles 0 (.error "timeout") 10,
    .persistSettles 0 (.ok ()) 11, .call noConfig 200,
    .call noConfig 201]

theorem twoTrials_breaks_both_laws : ∃ s t cb, Run (step "crm" "sync") Always initial twoTrials s ∧
    step "crm" "sync" s (.fnSettles 1 (.error "timeout") 210) = some t ∧
    t.breaker = some cb ∧ cb.state = .halfOpen ∧ ¬ TrialsBounded s ∧
    ¬ TrialFailureReopens s (.fnSettles 1 (.error "timeout") 210) t := by
  refine ⟨_, _, _, run_of_exec rfl, rfl, rfl, rfl, ?_, ?_⟩
  · intro hb
    have := hb _ rfl
    exact absurd this (by decide)
  · intro hr
    obtain ⟨cb, hcb, ho, -⟩ := hr 1 210 _ rfl rfl rfl
    cases hcb
    cases ho

/-- The same limits with the trial calls one after the other. -/
def oneTrial : List (Label Nat String) :=
  [.call ⟨some 1, some 1, some 100, some 1⟩ 0, .fnSettles 0 (.error "timeout") 10,
    .persistSettles 0 (.ok ()) 11, .call noConfig 200,
    .fnSettles 1 (.ok 7) 210]

theorem oneTrial_obeys_laws : ∃ s, Run (step "crm" "sync") Disciplined initial oneTrial s ∧
    s.admissions = 1 ∧ TrialsBounded s := by
  have he : execWithin (step "crm" "sync") Disciplined initial oneTrial = some _ := rfl
  have run := run_of_execWithin he
  exact ⟨_, run, rfl, (halfOpen_laws_of_disciplined run).1⟩

end CircuitBreakerHalfOpen
