import Mathlib.Tactic.Linarith
import Optimizely.WebhookProcessing
import Optimizely.JsValue

/-!
# The mean processing time of an endpoint

The average is divided by the number of completed webhooks, but it is updated for failed ones too.
-/

namespace WebhookProcessing.Timing

structure Stats extends WebhookStats where
  averageProcessingTime : JsNumber
  errorRate : JsNumber
  deriving DecidableEq

structure Finished where
  completed : Bool
  processingTime : Rat
  deriving DecidableEq

def Stats.updateEndpointStats (stats : Stats) (webhook : Finished) : Stats :=
  let counted := stats.count (if webhook.completed then .completed else .failed)
  let total := JsNumber.finite counted.totalProcessed
  let average := stats.averageProcessingTime
  { counted with
    averageProcessingTime := if webhook.processingTime = 0 then average
      else ((average.mul (total.sub (.finite 1))).add (.finite webhook.processingTime)).div total
    errorRate := JsNumber.div (.finite counted.totalFailed) (.finite counted.totalReceived) }

inductive Event where
  | received
  | finished (webhook : Finished)
  deriving DecidableEq

/-- The statistics of an endpoint after these events, of which the newest comes first. -/
def statsOf : List Event → Stats
  | [] => ⟨⟨0, 0, 0⟩, .finite 0, .finite 0⟩
  | .received :: es => { statsOf es with totalReceived := (statsOf es).totalReceived + 1 }
  | .finished w :: es => (statsOf es).updateEndpointStats w

def completedTimes : List Event → List Rat
  | [] => []
  | .received :: es => completedTimes es
  | .finished w :: es => if w.completed then w.processingTime :: completedTimes es
    else completedTimes es

/-- Zero for the empty list. -/
def mean (ts : List Rat) : Rat := ts.sum / ts.length

/-- A webhook is received before it finishes, is counted once and takes some time. -/
def Genuine : List Event → Prop
  | [] => True
  | .received :: es => Genuine es
  | .finished w :: es => (0 < w.processingTime ∧ es.countP (· ≠ .received) < es.count .received) ∧
      Genuine es

/-- The averages are those of the completed webhooks, and the last update has not divided by
zero. -/
def Exact (es : List Event) : Prop :=
  let stats := statsOf es
  stats.averageProcessingTime = .finite (mean (completedTimes es)) ∧
    ∀ w past, es = .finished w :: past →
      stats.errorRate = .finite (stats.totalFailed / stats.totalReceived) ∧
        stats.totalProcessed ≠ 0 ∧ stats.totalReceived ≠ 0

/-- A failed webhook follows a completed one and took as long as the completed ones on average. -/
def FailuresOnAverage : List Event → Prop
  | [] => True
  | .received :: es => FailuresOnAverage es
  | .finished w :: es => (w.completed ∨ completedTimes es ≠ [] ∧
      w.processingTime = mean (completedTimes es)) ∧ FailuresOnAverage es

variable {es : List Event} {w : Finished}

lemma div_eq_finite_iff {p q r : Rat} :
    JsNumber.div (.finite p) (.finite q) = .finite r ↔ q ≠ 0 ∧ p / q = r := by
  simp only [JsNumber.div]
  split_ifs <;> simp_all

lemma totals_eq : (statsOf es).totalProcessed = (completedTimes es).length ∧
    (statsOf es).totalReceived = es.count .received := by
  induction es with
  | nil => exact ⟨rfl, rfl⟩
  | cons e es ih =>
    cases e with
    | received => simp [statsOf, completedTimes, ih]
    | finished w =>
      cases hc : w.completed <;>
        simp [statsOf, Stats.updateEndpointStats, completedTimes, hc, WebhookStats.count, ih]

lemma mean_mul_length (ts : List Rat) : mean ts * ts.length = ts.sum := by
  cases ts with
  | nil => simp
  | cons t ts => exact div_mul_cancel₀ _ (Nat.cast_ne_zero.mpr (Nat.succ_ne_zero _))

lemma average_finished (hp : 0 < w.processingTime) (exact : Exact es) :
    let ts := completedTimes (.finished w :: es)
    (statsOf (.finished w :: es)).averageProcessingTime = .finite (mean ts) ↔ ts.length ≠ 0 ∧
      mean (completedTimes es) * ts.length - mean (completedTimes es) + w.processingTime =
        ts.sum := by
  intro ts
  rw [← mean_mul_length ts, ← totals_eq.1]
  simp only [statsOf, Stats.updateEndpointStats, exact.1, if_neg hp.ne']
  refine div_eq_finite_iff.trans ((and_congr_right fun h => ?_).trans
    (and_congr_left' Nat.cast_ne_zero))
  rw [div_eq_iff h, mul_add, mul_neg_one, sub_eq_add_neg]

lemma exact_finished (hg : Genuine (.finished w :: es)) (exact : Exact es) :
    Exact (.finished w :: es) ↔ (w.completed ∨ completedTimes es ≠ [] ∧
      w.processingTime = mean (completedTimes es)) := by
  have hr : (statsOf (.finished w :: es)).totalReceived ≠ 0 :=
    totals_eq.2.trans_ne (by simpa using hg.1.2.pos.ne')
  have ha := average_finished hg.1.1 exact
  have hp := mean_mul_length (completedTimes es)
  refine Iff.trans ⟨fun h => ha.mp h.1, fun h => ⟨ha.mpr h, fun _ _ _ =>
    ⟨div_eq_finite_iff.mpr ⟨Nat.cast_ne_zero.mpr hr, rfl⟩, totals_eq.1.trans_ne h.1, hr⟩⟩⟩ ?_
  rw [completedTimes]
  cases hc : w.completed with
  | false =>
    simp only [Bool.false_eq_true, if_false, false_or, hp, ne_eq, List.length_eq_zero_iff]
    exact and_congr_right fun _ => ⟨fun h => by linarith, fun h => by linarith⟩
  | true => simp [mul_add, hp, add_comm]

def steadyLog : List Event :=
  [.finished ⟨false, 10⟩, .received, .finished ⟨true, 10⟩, .received]

end WebhookProcessing.Timing
