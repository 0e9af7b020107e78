import Mathlib.Tactic

/-!
# Derived metrics of an outcome

`calculateDerivedMetrics` counts what `getUserOutcomes` returns: at most the newest 100 outcomes,
and those of every user if the id is empty.
-/

namespace OutcomeTracking

open List

inductive Industry where
  | saas | manufacturing | healthcare | fintech | collegeConsulting
  deriving DecidableEq

inductive OutcomeType where
  | conversion | engagement | featureAdoption | businessResult | churn | upsell
  deriving DecidableEq

structure Metrics where
  conversionRate : Option Rat := none
  engagementScore : Option Rat := none
  featureUsageCount : Option Rat := none
  timeToConversion : Option Rat := none

structure UserOutcome where
  userId : String
  companyId : String
  industry : Industry
  outcomeType : OutcomeType
  timestamp : Int
  metrics : Metrics

/-- An empty text and the limit 0 count as absent. -/
structure Filters where
  userId : String := ""
  companyId : String := ""
  industry : Option Industry := none
  outcomeType : Option OutcomeType := none
  startDate : Option Int := none
  endDate : Option Int := none
  limit : Nat := 0

def Filters.accepts (filters : Filters) (outcome : UserOutcome) : Bool :=
  (filters.userId = "" ∨ outcome.userId = filters.userId) ∧
    (filters.companyId = "" ∨ outcome.companyId = filters.companyId) ∧
    filters.industry.all (outcome.industry = ·) ∧
    filters.outcomeType.all (outcome.outcomeType = ·) ∧
    filters.startDate.all (· ≤ outcome.timestamp) ∧ filters.endDate.all (outcome.timestamp ≤ ·)

abbrev newestFirst (a b : UserOutcome) : Prop := b.timestamp ≤ a.timestamp

/-- The outcomes are the values of the map, in its order. -/
def getUserOutcomes (outcomes : List UserOutcome) (filters : Filters) : List UserOutcome :=
  let results := (outcomes.filter filters.accepts).insertionSort newestFirst
  if filters.limit = 0 then results else results.take filters.limit

def countOf (outcomeType : OutcomeType) (outcomes : List UserOutcome) : Rat :=
  outcomes.countP (·.outcomeType = outcomeType)

/-- A metric is assigned where the one given is absent or 0. -/
def fill (given computed : Option Rat) : Option Rat :=
  if given.getD 0 = 0 then computed.or given else given

def calculateDerivedMetrics (outcomes : List UserOutcome) (now : Int) (outcome : UserOutcome) :
    Metrics :=
  let userOutcomes := getUserOutcomes outcomes { userId := outcome.userId, limit := 100 }
  let total : Rat := userOutcomes.length
  let recent : Rat := userOutcomes.countP (now - ·.timestamp ≤ 30 * (24 * 60 * 60 * 1000))
  let metrics := outcome.metrics
  { conversionRate := fill metrics.conversionRate
      (if 0 < total then some (countOf .conversion userOutcomes / total) else none)
    engagementScore := fill metrics.engagementScore (some (min (recent * 10) 100))
    featureUsageCount := fill metrics.featureUsageCount (countOf .featureAdoption userOutcomes)
    timeToConversion := if outcome.outcomeType = .conversion then
        fill metrics.timeToConversion
          (userOutcomes.getLast?.map fun first => outcome.timestamp - first.timestamp)
      else metrics.timeToConversion }

/-- The record that the call stores. -/
def trackOutcome (outcomes : List UserOutcome) (timestamp now : Int) (outcome : UserOutcome) :
    UserOutcome :=
  let outcomeRecord := { outcome with timestamp := timestamp }
  { outcomeRecord with metrics := calculateDerivedMetrics outcomes now outcomeRecord }

def ownOutcomes (outcomes : List UserOutcome) (userId : String) : List UserOutcome :=
  outcomes.filter (·.userId = userId)

/-- The metrics are those of all of the user's outcomes. -/
structure Filled (own : List UserOutcome) (stored : UserOutcome) : Prop where
  conversionRate : own ≠ [] →
    stored.metrics.conversionRate = some (countOf .conversion own / own.length)
  featureUsageCount : stored.metrics.featureUsageCount = some (countOf .featureAdoption own)
  timeToConversion : stored.outcomeType = .conversion → ∀ first ∈ own,
    (∀ other ∈ own, first.timestamp ≤ other.timestamp) →
      stored.metrics.timeToConversion = some (stored.timestamp - first.timestamp : Rat)

variable {os : List UserOutcome} {o : UserOutcome} {ts now : Int} {u : String}

lemma getUserOutcomes_own (hu : u ≠ "") (hn : (ownOutcomes os u).length ≤ 100) :
    getUserOutcomes os { userId := u, limit := 100 } =
      (ownOutcomes os u).insertionSort newestFirst := by
  have hf : os.filter (Filters.accepts { userId := u, limit := 100 }) = ownOutcomes os u :=
    filter_congr fun o _ => by simp [Filters.accepts, hu]
  simp [getUserOutcomes, hf, take_of_length_le, hn]

lemma countOf_perm {xs ys : List UserOutcome} (h : xs ~ ys) (type : OutcomeType) :
    countOf type xs = countOf type ys := by
  rw [countOf, h.countP_eq, countOf]

lemma filled_of_few (hu : o.userId ≠ "") (hn : (ownOutcomes os o.userId).length ≤ 100)
    (hm : o.metrics = {}) : Filled (ownOutcomes os o.userId) (trackOutcome os ts now o) := by
  have : IsTrans UserOutcome newestFirst := ⟨fun _ _ _ h k => le_trans k h⟩
  have : Std.Total newestFirst := ⟨fun _ _ => le_total _ _⟩
  have perm := perm_insertionSort newestFirst (ownOutcomes os o.userId)
  have sorted := pairwise_insertionSort newestFirst (ownOutcomes os o.userId)
  rw [← getUserOutcomes_own hu hn] at perm sorted
  constructor
  · intro hne
    have hpos := length_pos_iff.mpr hne
    simp [trackOutcome, calculateDerivedMetrics, fill, hm, countOf_perm perm, perm.length_eq, hpos]
  · simp [trackOutcome, calculateDerivedMetrics, fill, hm, countOf_perm perm]
  · intro hc first mem least
    have mem := perm.mem_iff.mpr mem
    have hle := sorted.rel_getLast_of_rel_getLast_getLast mem le_rfl
    have hge := least _ (perm.mem_iff.mp (getLast_mem (ne_nil_of_mem mem)))
    have hc : o.outcomeType = .conversion := hc
    simp [trackOutcome, calculateDerivedMetrics, fill, hm, hc,
      getLast?_eq_some_getLast (ne_nil_of_mem mem), le_antisymm hle hge]

def outcomeOf (userId : String) (outcomeType : OutcomeType) : UserOutcome :=
  ⟨userId, "c1", .saas, outcomeType, 0, {}⟩

lemma adoptions_of_filled
    (h : Filled (ownOutcomes os u) (trackOutcome os ts now (outcomeOf u .engagement))) :
    (getUserOutcomes os { userId := u, limit := 100 }).countP (·.outcomeType = .featureAdoption) =
      (ownOutcomes os u).countP (·.outcomeType = .featureAdoption) := by
  have hf := h.featureUsageCount
  simpa [trackOutcome, calculateDerivedMetrics, fill, countOf, outcomeOf] using hf

end OutcomeTracking
