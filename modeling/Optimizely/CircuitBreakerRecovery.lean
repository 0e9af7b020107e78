import Mathlib.Logic.Function.Iterate
import Optimizely.CircuitBreaker

/-!
# Recovery of the breaker

One may wait and then make calls that succeed, one after the other. A half-open breaker admits such
a call while `successCount` is below `halfOpenMaxCalls` and closes once it reaches
`successThreshold`, so it recovers from every reachable state exactly if the second limit comes
first.
-/

namespace CircuitBreakerRecovery

open TransitionRuns CircuitBreaker Option State Function
open CircuitBreakerState (refusal wake wake_of_state_ne)

universe u v

variable {V : Type u} {E : Type v}

namespace Breaker

variable (service svc operation op : String)

/-- The breaker after a call that nothing overlaps, with `record` for its result. -/
def solo (record : CircuitBreakerState → CircuitBreakerState) (cb : CircuitBreakerState)
    (now : Nat) : CircuitBreakerState :=
  match cb.refusal service operation now with
  | some _ => cb.wake now
  | none => record (cb.wake now)

lemma refusal_eq_none_iff (cb : CircuitBreakerState) (now : Nat) : cb.refusal svc op now = none ↔
      ¬ (cb.state = .opened ∧ now < cb.nextAttemptTime.getD 0) ∧
      ¬ ((cb.wake now).state = .halfOpen ∧
        cb.config.halfOpenMaxCalls ≤ (cb.wake now).successCount) := by
  rw [refusal]
  split_ifs with ho hf
  · simp [ho]
  · simp [hf]
  · simp only [true_iff]
    exact ⟨ho, hf⟩

variable {cb : CircuitBreakerState}

lemma solo_of_admitted {r : CircuitBreakerState → CircuitBreakerState}
    {now : Nat} (h : cb.refusal svc op now = none) : solo svc op r cb now = r (cb.wake now) := by
  simp only [solo, h]

lemma admitted_iff_of_half (hh : cb.state = .halfOpen) (now : Nat) :
    cb.refusal svc op now = none ↔ cb.successCount < cb.config.halfOpenMaxCalls := by
  rw [refusal_eq_none_iff, wake_of_state_ne (by simp [hh]) now]
  simp [hh]

lemma solo_of_full (hh : cb.state = .halfOpen) (hf : cb.config.halfOpenMaxCalls ≤ cb.successCount)
    (r : CircuitBreakerState → CircuitBreakerState) (now : Nat) : solo svc op r cb now = cb := by
  have hs : cb.wake now = cb := wake_of_state_ne (by simp [hh]) now
  cases h : cb.refusal svc op now with
  | some m => simp only [solo, h, hs]
  | none => exact absurd ((admitted_iff_of_half svc op hh now).mp h) (Nat.not_lt.mpr hf)

end Breaker

section

variable (service svc operation op : String)

/-- A call made, settled and written before anything else happens. -/
def soloCall (config : PartialConfig) (outcome : Except E V) (s : State V E) (now : Nat) :
    State V E :=
  (exec (step service operation) s
    [.call config now, .fnSettles s.calls.length outcome now,
      .persistSettles s.calls.length (.ok ()) now]).getD
    (s.executeWithCircuitBreaker service operation config now)

def recordOutcome (outcome : Except E V) (now : Nat) (cb : CircuitBreakerState) :
    CircuitBreakerState :=
  match outcome with
  | .ok _ => cb.recordSuccess now (now - now)
  | .error _ => cb.recordFailure now

lemma soloCall_of_refused {c : PartialConfig} {s : State V E} {now : Nat}
    {m : String} (h : (s.getOrCreate c).refusal svc op now = some m)
    (o : Except E V) : soloCall svc op c o s now = s.executeWithCircuitBreaker svc op c now := by
  have hr : s.executeWithCircuitBreaker svc op c now = (s.wakeBreaker c now).refuse m := by
    simp only [executeWithCircuitBreaker, h]
  have hl : (s.executeWithCircuitBreaker svc op c now).calls[s.calls.length]? =
      some ⟨.settled (.error (.refused m)), none, none, [], []⟩ := by
    rw [hr]
    simp [refuse]
  have hs : fnSettles (s.executeWithCircuitBreaker svc op c now) s.calls.length o now = none := by
    simp [fnSettles, hl]
  simp [soloCall, exec, step, hs]

lemma soloCall_of_admitted {c : PartialConfig} {s : State V E} {now : Nat}
    (h : (s.getOrCreate c).refusal svc op now = none) (o : Except E V) :
    ∃ t, exec (step svc op) s [.call c now, .fnSettles s.calls.length o now,
          .persistSettles s.calls.length (.ok ()) now] = some t ∧
      t.breaker = some (recordOutcome o now ((s.getOrCreate c).wake now)) := by
  have ha : s.executeWithCircuitBreaker svc op c now = (s.wakeBreaker c now).startCall
        (((s.getOrCreate c).wake now).state = .halfOpen) now := by
    simp only [executeWithCircuitBreaker, h]
  have hw := s.wakeBreaker_breaker c now
  cases o with
  | ok v =>
    simp [exec, step, ha, fnSettles, persistSettles, startCall,
      recordSuccess, putCall, updateCircuitBreaker, getOrCreate, hw, recordOutcome]
  | error error =>
    simp [exec, step, ha, fnSettles, persistSettles, startCall,
      recordFailure, putCall, updateCircuitBreaker, getOrCreate, hw, recordOutcome]

lemma soloCall_breaker (c : PartialConfig) (o : Except E V) (s : State V E)
    (now : Nat) : (soloCall svc op c o s now).breaker =
      some (Breaker.solo svc op (recordOutcome o now) (s.getOrCreate c) now) := by
  cases h : (s.getOrCreate c).refusal svc op now with
  | some m =>
    rw [soloCall_of_refused svc op h, executeWithCircuitBreaker_breaker]
    simp only [Breaker.solo, h]
  | none =>
    obtain ⟨t, he, hb⟩ := soloCall_of_admitted svc op h o
    rw [soloCall, he, getD_some, hb, Breaker.solo_of_admitted _ _ h]

lemma soloCall_run (c : PartialConfig) (o : Except E V) (s : State V E) (now : Nat) :
    ∃ ls, Run (step svc op) Always s ls (soloCall svc op c o s now) := by
  cases h : (s.getOrCreate c).refusal svc op now with
  | some m =>
    rw [soloCall_of_refused svc op h]
    exact ⟨[.call c now], .single trivial rfl⟩
  | none =>
    obtain ⟨t, hexec, -⟩ := soloCall_of_admitted svc op h o
    have same : soloCall svc op c o s now = t := by
      rw [soloCall, hexec, getD_some]
    rw [same]
    exact ⟨_, run_of_exec hexec⟩

/-- Calls that succeed, one after the other, each with its time and value. -/
def soloSuccesses (s : State V E) (calls : List (Nat × V)) : State V E :=
  calls.foldl (fun s call => soloCall service operation noConfig (.ok call.2) s call.1) s

def PastAttempt (s : State V E) (now : Nat) : Prop :=
  ∀ cb, s.breaker = some cb → cb.nextAttemptTime.getD 0 < now

def Recovers (s : State V E) : Prop :=
  ∃ calls : List (Nat × V), (∀ call ∈ calls, PastAttempt s call.1) ∧
    ∃ cb, (soloSuccesses service operation s calls).breaker = some cb ∧ cb.state = .closed

end

namespace Breaker

variable (service svc operation op : String)

def success (now : Nat) (cb : CircuitBreakerState) : CircuitBreakerState :=
  solo service operation (·.recordSuccess now (now - now)) cb now

variable {cb : CircuitBreakerState}

lemma success_of_room (hh : cb.state = .halfOpen)
    (hr : cb.successCount < cb.config.halfOpenMaxCalls) (now : Nat) :
    success svc op now cb = cb.recordSuccess now (now - now) := by
  rw [success, solo_of_admitted svc op ((admitted_iff_of_half svc op hh now).mpr hr),
    wake_of_state_ne (by simp [hh])]

/-- An open breaker past its waiting time treats a call like the half-open breaker
that it becomes. -/
lemma success_of_opened (ho : cb.state = .opened) {now : Nat}
    (hp : cb.nextAttemptTime.getD 0 ≤ now) (hr : 0 < cb.config.halfOpenMaxCalls) :
    success svc op now cb =
      success svc op now { cb with state := .halfOpen, successCount := 0 } := by
  have hw : cb.wake now = { cb with state := .halfOpen, successCount := 0 } := by
    rw [wake, if_pos ⟨ho, Nat.not_lt.mpr hp⟩]
  have ha : cb.refusal svc op now = none := by
    rw [refusal_eq_none_iff, hw]
    refine ⟨fun he => Nat.not_lt.mpr hp he.2, ?_⟩
    rintro ⟨-, hf⟩
    exact Nat.not_lt.mpr hf hr
  have hh : ({ cb with state := .halfOpen, successCount := 0 } : CircuitBreakerState).state =
    .halfOpen := rfl
  rw [success_of_room svc op hh hr now, success, solo_of_admitted svc op ha, hw]

lemma counting_successes (hh : cb.state = .halfOpen) {n : Nat}
    (below : cb.successCount + n < cb.config.successThreshold)
    (room : cb.successCount + n ≤ cb.config.halfOpenMaxCalls) (now : Nat) :
    ((success svc op now)^[n] cb).state = .halfOpen ∧
    ((success svc op now)^[n] cb).successCount = cb.successCount + n ∧
    ((success svc op now)^[n] cb).config = cb.config := by
  induction n generalizing cb with
  | zero => exact ⟨hh, rfl, rfl⟩
  | succ n ih =>
    have hs : ¬ cb.config.successThreshold ≤ cb.successCount + 1 := by omega
    rw [iterate_succ_apply, success_of_room svc op hh (by omega) now]
    have hh' : (cb.recordSuccess now (now - now)).state = .halfOpen := by
      simp [CircuitBreakerState.recordSuccess, hh, hs]
    have next := ih hh' (by change cb.successCount + 1 + n < cb.config.successThreshold; omega)
      (by change cb.successCount + 1 + n ≤ cb.config.halfOpenMaxCalls; omega)
    refine ⟨next.1, ?_, next.2.2⟩
    rw [next.2.1]
    change cb.successCount + 1 + n = cb.successCount + (n + 1)
    omega

lemma closed_after_successes {mi : Nat} (hh : cb.state = .halfOpen)
    (hc : cb.successCount + (mi + 1) = cb.config.successThreshold)
    (enough : cb.config.successThreshold ≤ cb.config.halfOpenMaxCalls) (now : Nat) :
    ((success svc op now)^[mi + 1] cb).state = .closed := by
  obtain ⟨hh', c, cn⟩ := counting_successes svc op hh (n := mi) (by omega) (by omega) now
  rw [iterate_succ_apply', success_of_room svc op hh' (by rw [c, cn]; omega)]
  simp [CircuitBreakerState.recordSuccess, hh', c, cn, ← hc, Nat.add_assoc]

def failure (now : Nat) (cb : CircuitBreakerState) : CircuitBreakerState :=
  solo service operation (·.recordFailure now) cb now

lemma failure_of_closed (hc : cb.state = .closed) (now : Nat) :
    failure svc op now cb = cb.recordFailure now := by
  have hs : cb.wake now = cb := wake_of_state_ne (by simp [hc]) now
  have ha : cb.refusal svc op now = none := by
    rw [refusal_eq_none_iff, hs]
    simp [hc]
  rw [failure, solo_of_admitted svc op ha, hs]

lemma opened_after_failures {mi : Nat} (hc : cb.state = .closed)
    (count : cb.failureCount + (mi + 1) = cb.config.failureThreshold) (now : Nat) :
    ((failure svc op now)^[mi + 1] cb).state = .opened ∧
    ((failure svc op now)^[mi + 1] cb).config = cb.config ∧
    ((failure svc op now)^[mi + 1] cb).nextAttemptTime = some (now + cb.config.timeout) := by
  induction mi generalizing cb with
  | zero =>
    have hre : cb.config.failureThreshold ≤ cb.failureCount + 1 := by omega
    rw [iterate_one, failure_of_closed svc op hc]
    simp [CircuitBreakerState.recordFailure, hc, hre]
  | succ mi ih =>
    have hs : ¬ cb.config.failureThreshold ≤ cb.failureCount + 1 := by omega
    rw [iterate_succ_apply, failure_of_closed svc op hc]
    have hc' : (cb.recordFailure now).state = .closed := by
      simp [CircuitBreakerState.recordFailure, hc, hs]
    apply ih hc'
    change cb.failureCount + 1 + (mi + 1) = cb.config.failureThreshold
    omega

end Breaker

section

variable {svc op : String}

/-- The close transition keeps the count of a half-open breaker below its threshold. -/
def BelowThreshold (cb : CircuitBreakerState) : Prop :=
  cb.state = .halfOpen → 0 < cb.config.successThreshold →
    cb.successCount < cb.config.successThreshold

variable {cb : CircuitBreakerState} {s : State V E}

lemma belowThreshold_wake (below : BelowThreshold cb) (now : Nat) :
    BelowThreshold (cb.wake now) := by
  rcases cb.wake_eq_or now with ⟨-, hw⟩ | hs
  · rw [hw]
    exact fun _ hp => hp
  · rw [hs]
    exact below

lemma belowThreshold_recordSuccess (cb : CircuitBreakerState) (now : Nat)
    (r : Int) : BelowThreshold (cb.recordSuccess now r) := by
  intro hh _
  simp only [CircuitBreakerState.recordSuccess] at hh ⊢
  split_ifs at hh with h
  rw [hh] at h
  simpa using h

lemma belowThreshold_recordFailure (cb : CircuitBreakerState) (now : Nat) :
    BelowThreshold (cb.recordFailure now) :=
  fun _ hp => hp

lemma belowThreshold_getOrCreate
    (below : ∀ cb, s.breaker = some cb → BelowThreshold cb) (c : PartialConfig) :
    BelowThreshold (s.getOrCreate c) := by
  cases hb : s.breaker with
  | none =>
    intro hh
    simp [getOrCreate, hb, createCircuitBreaker] at hh
  | some cb => simpa [getOrCreate, hb] using below cb hb

lemma belowThreshold_step {t : State V E} {l : Label V E}
    (below : ∀ cb, s.breaker = some cb → BelowThreshold cb) (hs : step svc op s l = some t) :
    ∀ cb, t.breaker = some cb → BelowThreshold cb := by
  intro cb hcb
  rcases step_cases hs with ⟨cn, now, -, rfl⟩ | ⟨id, c, st, v, now, -, -, -, rfl⟩ |
    ⟨id, c, st, error, now, -, -, -, rfl⟩ | ⟨id, c, v, now, -, -, -, rfl⟩ |
    ⟨id, c, v, error, now, -, -, -, rfl⟩ | ⟨id, c, error, o, now, -, -, -, rfl⟩
  · rw [executeWithCircuitBreaker_breaker] at hcb
    cases hcb
    exact belowThreshold_wake (belowThreshold_getOrCreate below cn) now
  · cases hcb
    exact belowThreshold_recordSuccess _ now _
  · cases hcb
    exact belowThreshold_recordFailure _ now
  · exact below cb hcb
  · cases hcb
    exact belowThreshold_recordFailure _ now
  · exact below cb hcb

variable (service svc operation op)

lemma soloSuccesses_replicate (hcb : s.breaker = some cb) (now : Nat) (v : V) (n : Nat) :
    (soloSuccesses svc op s (List.replicate n (now, v))).breaker =
      some ((Breaker.success svc op now)^[n] cb) := by
  induction n generalizing s cb with
  | zero => simpa [soloSuccesses] using hcb
  | succ n ih =>
    have first : (soloCall svc op noConfig (.ok v) s now).breaker =
        some (Breaker.success svc op now cb) := by
      rw [soloCall_breaker]
      simp only [getOrCreate, hcb, getD_some]
      rfl
    rw [iterate_succ_apply]
    exact ih first

lemma recovers_of_enough [Inhabited V] (hcb : s.breaker = some cb) (below : BelowThreshold cb)
    (hp : 0 < cb.config.successThreshold)
    (he : cb.config.successThreshold ≤ cb.config.halfOpenMaxCalls) : Recovers svc op s := by
  -- all calls come right after the waiting time, as many as the threshold still asks for
  have hl : ∀ n : Nat, ((Breaker.success svc op
      (cb.nextAttemptTime.getD 0 + 1))^[n] cb).state = .closed →
      Recovers svc op s := by
    intro n closed
    refine ⟨List.replicate n (cb.nextAttemptTime.getD 0 + 1, default), ?_, _,
      soloSuccesses_replicate svc op hcb _ _ n, closed⟩
    intro c mem cb' hcb'
    have heq : cb = cb' := some.inj (hcb.symm.trans hcb')
    rw [List.eq_of_mem_replicate mem, heq]
    omega
  cases hs : cb.state with
  | closed => exact hl 0 hs
  | opened =>
    obtain ⟨mi, hmissing⟩ := Nat.exists_eq_succ_of_ne_zero (Nat.ne_of_gt hp)
    apply hl (mi + 1)
    rw [iterate_succ_apply, Breaker.success_of_opened svc op hs (by omega) (by omega),
      ← iterate_succ_apply]
    apply Breaker.closed_after_successes svc op rfl
    · change 0 + (mi + 1) = cb.config.successThreshold
      omega
    · exact he
  | halfOpen =>
    have count := below hs hp
    apply hl (cb.config.successThreshold - cb.successCount - 1 + 1)
    exact Breaker.closed_after_successes svc op hs (by omega) he _

lemma soloSuccesses_of_full (hcb : s.breaker = some cb) (hh : cb.state = .halfOpen)
    (hf : cb.config.halfOpenMaxCalls ≤ cb.successCount) (cs : List (Nat × V)) :
    (soloSuccesses svc op s cs).breaker = some cb := by
  induction cs generalizing s with
  | nil => exact hcb
  | cons c cs ih =>
    apply ih
    rw [soloCall_breaker]
    simp only [getOrCreate, hcb, getD_some]
    rw [Breaker.solo_of_full svc op hh hf]

lemma soloSuccesses_run (s : State V E) (cs : List (Nat × V)) :
    ∃ ls, Run (step svc op) Always s ls (soloSuccesses svc op s cs) := by
  induction cs generalizing s with
  | nil => exact ⟨[], .nil s⟩
  | cons c cs ih =>
    obtain ⟨ls, first⟩ := soloCall_run svc op noConfig (.ok c.2) s c.1
    obtain ⟨ms, rest⟩ := ih (soloCall svc op noConfig (.ok c.2) s c.1)
    exact ⟨ls ++ ms, first.append rest⟩

def fullConfig (c : CircuitBreakerConfig) : PartialConfig :=
  ⟨some c.failureThreshold, some c.successThreshold, some c.timeout, some c.halfOpenMaxCalls⟩

/-- Calls that fail one after the other at time 0. -/
def soloFailures (c : CircuitBreakerConfig) (error : E) : Nat → State V E
  | 0 => initial
  | n + 1 => soloCall service operation (fullConfig c) (.error error)
      (soloFailures c error n) 0

lemma soloFailures_run (c : CircuitBreakerConfig) (e : E) (n : Nat) :
    ∃ ls, Run (step svc op) Always initial ls (soloFailures (V := V) svc op c e n) := by
  induction n with
  | zero => exact ⟨[], .nil initial⟩
  | succ n ih =>
    obtain ⟨ls, s⟩ := ih
    obtain ⟨ms, l⟩ := soloCall_run svc op (fullConfig c) (.error e)
      (soloFailures (V := V) svc op c e n) 0
    exact ⟨ls ++ ms, s.append l⟩

lemma soloFailures_breaker (c : CircuitBreakerConfig) (e : E) (n : Nat) :
    (soloFailures (V := V) svc op c e (n + 1)).breaker =
      some ((Breaker.failure svc op 0)^[n + 1] (createCircuitBreaker (fullConfig c))) := by
  induction n with
  | zero =>
    rw [soloFailures, soloCall_breaker]
    rfl
  | succ n ih =>
    rw [soloFailures, soloCall_breaker, iterate_succ_apply']
    simp only [getOrCreate, ih, getD_some]
    rfl

lemma exists_full [Inhabited V] [Inhabited E] {c : CircuitBreakerConfig}
    (hfailure : 0 < c.failureThreshold) (hmax : 0 < c.halfOpenMaxCalls)
    (short : c.halfOpenMaxCalls < c.successThreshold) :
    ∃ (ls : List (Label V E)) (s : State V E) (cb : CircuitBreakerState),
      Run (step svc op) Always initial ls s ∧ s.breaker = some cb ∧
      cb.config = c ∧ cb.state = .halfOpen ∧ cb.successCount = c.halfOpenMaxCalls := by
  obtain ⟨failures, hfailures⟩ := Nat.exists_eq_succ_of_ne_zero (Nat.ne_of_gt hfailure)
  obtain ⟨trials, htrials⟩ := Nat.exists_eq_succ_of_ne_zero (Nat.ne_of_gt hmax)
  obtain ⟨ls, opening⟩ := soloFailures_run (V := V) svc op c (default : E) (failures + 1)
  have hbreaker := soloFailures_breaker (V := V) svc op c (default : E) failures
  have closed : (createCircuitBreaker (fullConfig c)).state = .closed := rfl
  have count : (createCircuitBreaker (fullConfig c)).failureCount + (failures + 1) =
      (createCircuitBreaker (fullConfig c)).config.failureThreshold := by
    change 0 + (failures + 1) = c.failureThreshold
    omega
  obtain ⟨hopen, hconfig, htime⟩ := Breaker.opened_after_failures svc op closed count 0
  generalize hcb : (Breaker.failure svc op 0)^[failures + 1]
    (createCircuitBreaker (fullConfig c)) = cb at *
  have hc : cb.config = c := hconfig
  have trialCalls := soloSuccesses_replicate svc op hbreaker (c.timeout + 1)
    (default : V) (trials + 1)
  rw [iterate_succ_apply, Breaker.success_of_opened svc op hopen
    (by rw [htime]; change 0 + c.timeout ≤ c.timeout + 1; omega) (by rw [hc]; exact hmax),
    ← iterate_succ_apply] at trialCalls
  have woken : ({ cb with state := .halfOpen, successCount := 0 } : CircuitBreakerState).state =
    .halfOpen := rfl
  obtain ⟨half, hct, config⟩ := Breaker.counting_successes svc op woken (n := trials + 1)
    (by change 0 + (trials + 1) < cb.config.successThreshold; rw [hc]; omega)
    (by change 0 + (trials + 1) ≤ cb.config.halfOpenMaxCalls; rw [hc]; omega) (c.timeout + 1)
  obtain ⟨ms, trying⟩ := soloSuccesses_run svc op
    (soloFailures (V := V) svc op c (default : E) (failures + 1))
    (List.replicate (trials + 1) (c.timeout + 1, (default : V)))
  refine ⟨ls ++ ms, _, _, opening.append trying, trialCalls, config.trans hc, half, ?_⟩
  rw [hct, htrials]
  exact Nat.zero_add _

lemma not_recovers_of_full (hcb : s.breaker = some cb) (hh : cb.state = .halfOpen)
    (hf : cb.config.halfOpenMaxCalls ≤ cb.successCount) : ¬ Recovers svc op s := by
  rintro ⟨cs, -, cb', hcb', hc⟩
  rw [soloSuccesses_of_full svc op hcb hh hf cs] at hcb'
  have heq := some.inj hcb'
  rw [heq, hc] at hh
  cases hh

/-- For positive limits: the breaker recovers from every reachable state, and admits a call in every
half-open one, exactly if the successes that close it do not exceed the calls it admits. -/
theorem recovers_iff_successThreshold_le [Inhabited V] [Inhabited E] (c : CircuitBreakerConfig)
    (hfailure : 0 < c.failureThreshold) (hsuccess : 0 < c.successThreshold)
    (hmax : 0 < c.halfOpenMaxCalls) :
    (∀ (ls : List (Label V E)) (s : State V E) (cb : CircuitBreakerState),
      Run (step service operation) Always initial ls s → s.breaker = some cb → cb.config = c →
      Recovers service operation s ∧
      (cb.state = .halfOpen → ∃ now, cb.refusal service operation now = none)) ↔
    c.successThreshold ≤ c.halfOpenMaxCalls := by
  constructor
  · intro hr
    by_contra short
    obtain ⟨ls, s, cb, run, hcb, hc, hh, hcn⟩ :=
      exists_full (V := V) (E := E) service operation hfailure hmax (Nat.lt_of_not_le short)
    apply not_recovers_of_full service operation hcb hh (by rw [hc, hcn])
    exact (hr ls s cb run hcb hc).1
  · intro he ls s cb run hcb hc
    subst hc
    have below : BelowThreshold cb := by
      apply run.invariant (fun s => ∀ cb, s.breaker = some cb → BelowThreshold cb)
        (fun s l t below _ hs => belowThreshold_step below hs) _ cb hcb
      simp [initial]
    refine ⟨recovers_of_enough service operation hcb below hsuccess he, fun hh => ?_⟩
    refine ⟨0, (Breaker.admitted_iff_of_half service operation hh 0).mpr ?_⟩
    have hcn := below hh hsuccess
    omega

end

/-- One failure opens the breaker, two successes close it, one trial call is allowed:
after that call has succeeded no later call gets through. -/
def wedging : List (Label Nat String) :=
  [.call ⟨some 1, some 2, some 100, some 1⟩ 0, .fnSettles 0 (.error "timeout") 10,
    .persistSettles 0 (.ok ()) 11, .call noConfig 200, .fnSettles 1 (.ok 7) 210,
    .persistSettles 1 (.ok ()) 211]

theorem wedging_never_recovers : ∃ s cb, Run (step "crm" "sync") Always initial wedging s ∧
    s.breaker = some cb ∧ cb.state = .halfOpen ∧ ¬ Recovers "crm" "sync" s ∧
    ∀ now, cb.refusal "crm" "sync" now ≠ none := by
  refine ⟨_, _, run_of_exec rfl, rfl, rfl, ?_, ?_⟩
  · exact not_recovers_of_full "crm" "sync" rfl rfl (by decide)
  · exact fun now h => absurd ((Breaker.admitted_iff_of_half "crm" "sync" rfl now).mp h) (by decide)

/-- The same history with one success enough to close the breaker. -/
def opening : List (Label Nat String) :=
  [.call ⟨some 1, some 1, some 100, some 1⟩ 0, .fnSettles 0 (.error "timeout") 10,
    .persistSettles 0 (.ok ()) 11]

theorem opening_recovers : ∃ s cb, Run (step "crm" "sync") Always initial opening s ∧
    s.breaker = some cb ∧ cb.state = .opened ∧ Recovers "crm" "sync" s := by
  have he : exec (step "crm" "sync") initial opening = some _ := rfl
  have run := run_of_exec he
  have hr := (recovers_iff_successThreshold_le (V := Nat) (E := String) "crm" "sync"
    ⟨1, 1, 100, 1⟩ (by decide) (by decide) (by decide)).mpr (by decide)
  exact ⟨_, _, run, rfl, rfl, (hr _ _ _ run rfl rfl).1⟩

end CircuitBreakerRecovery
