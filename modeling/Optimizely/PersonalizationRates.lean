import Mathlib.Tactic

/-!
# Running rates of personalization

Every handled request renews the average response time, but only a cache hit renews the share of
hits, and only an error that of errors.
-/

namespace PersonalizationRates

structure PerformanceMetrics where
  averageResponseTime : Rat
  totalRequests : Nat
  cacheHitRate : Rat
  errorRate : Rat

def updatePerformanceMetrics (metrics : PerformanceMetrics) (responseTime : Rat)
    (wasCacheHit wasError : Bool) : PerformanceMetrics :=
  let totalRequests := metrics.totalRequests + 1
  let renewed (rate value : Rat) := (rate * (totalRequests - 1 : Nat) + value) / totalRequests
  { averageResponseTime := renewed metrics.averageResponseTime responseTime
    totalRequests
    cacheHitRate := if wasCacheHit then renewed metrics.cacheHitRate 1 else metrics.cacheHitRate
    errorRate := if wasError then renewed metrics.errorRate 1 else metrics.errorRate }

/-- How `getPersonalizedContent` ends. -/
inductive Answer where
  | cached
  | computed
  | thrown
  deriving DecidableEq

structure Request where
  answer : Answer
  responseTime : Rat

def handle (metrics : PerformanceMetrics) (request : Request) : PerformanceMetrics :=
  updatePerformanceMetrics metrics request.responseTime (request.answer = .cached)
    (request.answer = .thrown)

def metricsAfter (requests : List Request) : PerformanceMetrics :=
  requests.foldl handle ⟨0, 0, 0, 0⟩

def share (answer : Answer) (requests : List Request) : Rat :=
  requests.countP (·.answer = answer) / requests.length

structure Exact (requests : List Request) : Prop where
  total : (metricsAfter requests).totalRequests = requests.length
  average : (metricsAfter requests).averageResponseTime =
    (requests.map (·.responseTime)).sum / requests.length
  hits : (metricsAfter requests).cacheHitRate = share .cached requests
  errors : (metricsAfter requests).errorRate = share .thrown requests

/-- After the first answer of the kind all are of it. -/
def Final (answer : Answer) (requests : List Request) : Prop :=
  requests.Pairwise fun request later => request.answer = answer → later.answer = answer

variable {rs : List Request} {r : Request} {a : Answer}

lemma final_concat :
    Final a (rs ++ [r]) ↔ Final a rs ∧ (r.answer ≠ a → rs.countP (·.answer = a) = 0) := by
  simp only [Final, List.pairwise_append, List.pairwise_singleton, true_and, List.mem_singleton,
    forall_eq, List.countP_eq_zero, decide_eq_true_eq]
  refine and_congr_right fun _ => ?_
  by_cases h : r.answer = a <;> simp [h]

section

variable {f : List Request → Rat} (nil : f [] = 0) (concat : ∀ rs r, f (rs ++ [r]) =
  if r.answer = a then (f rs * rs.length + 1) / (rs.length + 1) else f rs)
include nil concat

/-- A rate that answers of one kind renew is never too low. -/
lemma rate_spec : 0 ≤ f rs ∧ (rs.countP (·.answer = a) = 0 → f rs = 0) ∧
    rs.countP (·.answer = a) ≤ f rs * rs.length ∧
    (f rs * rs.length = rs.countP (·.answer = a) ↔ Final a rs) := by
  induction rs using List.reverseRecOn with
  | nil => simp [nil, Final]
  | append_singleton rs r ih =>
    obtain ⟨hn, none, low, exact⟩ := ih
    have pos : (0 : Rat) < rs.length + 1 := by positivity
    rw [concat, final_concat, ← exact, List.length_append, List.countP_append]
    push_cast [List.countP_singleton, List.length_singleton]
    by_cases h : r.answer = a
    · simp only [h, if_true, decide_true, div_mul_cancel₀ _ pos.ne']
      refine ⟨by positivity, by omega, by linarith, ?_⟩
      simp
    · simp only [h, if_false, decide_false, Bool.false_eq_true, add_zero, mul_add, mul_one]
      refine ⟨hn, none, by linarith, fun hs => ?_, fun ⟨hs, hz⟩ => ?_⟩
      · have hz : f rs = 0 := by linarith
        rw [hz, zero_mul, zero_add] at hs
        rw [hz, zero_mul]
        exact ⟨hs, fun _ => Nat.cast_eq_zero.mp hs.symm⟩
      · rw [hs, none (hz h), add_zero]

lemma eq_share_iff : f rs = share a rs ↔ Final a rs := by
  rw [← (rate_spec nil concat).2.2.2, share]
  cases rs with
  | nil => simp [nil]
  | cons r rs => exact eq_div_iff (Nat.cast_ne_zero.mpr (Nat.succ_ne_zero _))

end

lemma metricsAfter_concat : metricsAfter (rs ++ [r]) = handle (metricsAfter rs) r := by
  simp [metricsAfter]

lemma total_and_average : (metricsAfter rs).totalRequests = rs.length ∧
    (metricsAfter rs).averageResponseTime = (rs.map (·.responseTime)).sum / rs.length := by
  induction rs using List.reverseRecOn with
  | nil => simp [metricsAfter]
  | append_singleton rs r ih =>
    have sum : (rs.map (·.responseTime)).sum / rs.length * rs.length =
        (rs.map (·.responseTime)).sum := by
      cases rs with
      | nil => simp
      | cons q rs => exact div_mul_cancel₀ _ (Nat.cast_ne_zero.mpr (Nat.succ_ne_zero _))
    simp [metricsAfter_concat, handle, updatePerformanceMetrics, ih, sum]

theorem exact_iff_final (requests : List Request) :
    Exact requests ↔ Final .cached requests ∧ Final .thrown requests := by
  have hi : (metricsAfter requests).cacheHitRate = share .cached requests ↔ _ :=
    eq_share_iff (f := fun rs => (metricsAfter rs).cacheHitRate) rfl fun rs r => by
      simp [metricsAfter_concat, handle, updatePerformanceMetrics, total_and_average]
  have he : (metricsAfter requests).errorRate = share .thrown requests ↔ _ :=
    eq_share_iff (f := fun rs => (metricsAfter rs).errorRate) rfl fun rs r => by
      simp [metricsAfter_concat, handle, updatePerformanceMetrics, total_and_average]
  rw [← hi, ← he]
  exact ⟨fun h => ⟨h.hits, h.errors⟩, fun h => ⟨total_and_average.1, total_and_average.2, h.1, h.2⟩⟩

/-- An error and then a computed answer. -/
theorem errorRate_stale : (metricsAfter [⟨.thrown, 5⟩, ⟨.computed, 5⟩]).errorRate = 1 ∧
    ¬ Exact [⟨.thrown, 5⟩, ⟨.computed, 5⟩] := by
  have hr : (metricsAfter [⟨.thrown, 5⟩, ⟨.computed, 5⟩]).errorRate = 1 := by decide +kernel
  refine ⟨hr, fun h => ?_⟩
  have hh : share .thrown [⟨.thrown, 5⟩, ⟨.computed, 5⟩] ≠ 1 := by decide +kernel
  exact hh (h.errors.symm.trans hr)

end PersonalizationRates
