import Optimizely.ABTesting
import Optimizely.ExpiringKeys
import Optimizely.Json

/-!
# The universal A/B testing service

Experiments of `UniversalABTestingService` and what it computes between its Redis commands:
validation, assignment, results and chart data. Numbers are exact. A counter hash has no fields but
those it was given.
-/

namespace UniversalABTesting

open List

inductive ExperimentType where
  | abTest
  | multivariate
  | splitUrl
  | redirect
  | featureFlag
  deriving DecidableEq

inductive Status where
  | draft
  | running
  | paused
  | completed
  | archived
  deriving DecidableEq

structure ExperimentVariant where
  id : String
  name : String
  trafficAllocation : Rat
  isControl : Bool
  deriving DecidableEq

structure ConversionGoal where
  id : String
  deriving DecidableEq

structure StatisticalSettings where
  confidenceLevel : Rat
  minimumSampleSize : Option Rat
  deriving DecidableEq

structure ExperimentMetadata where
  owner : String
  team : Option String
  winnerId : Option String
  winnerName : Option String
  deriving DecidableEq

/-- `targetingRules` is the JSON text of the rules. -/
structure Experiment where
  id : String
  type : ExperimentType
  status : Status
  startDate : Option Nat
  endDate : Option Nat
  targetingRules : String
  variants : List ExperimentVariant
  primaryGoal : ConversionGoal
  statisticalSettings : StatisticalSettings
  metadata : ExperimentMetadata
  deriving DecidableEq

/-- The argument of `createExperiment`; the status may be missing. -/
structure NewExperiment where
  type : ExperimentType
  status : Option Status
  startDate : Option Nat
  endDate : Option Nat
  targetingRules : String
  variants : List ExperimentVariant
  primaryGoal : ConversionGoal
  statisticalSettings : StatisticalSettings
  metadata : ExperimentMetadata
  deriving DecidableEq

/-- The first lines of `createExperiment`. -/
def validate (variants : List ExperimentVariant) : Except String Unit :=
  let totalAllocation := (variants.map (·.trafficAllocation)).sum
  if 1 / 100 < |totalAllocation - 100| then
    .error "Variant traffic allocations must sum to 100%"
  else if (variants.filter (·.isControl)).length ≠ 1 then
    .error "Exactly one variant must be marked as control"
  else .ok ()

def NewExperiment.full (experiment : NewExperiment) (id : String) : Experiment where
  id := id
  type := experiment.type
  status := experiment.status.getD .draft
  startDate := experiment.startDate
  endDate := experiment.endDate
  targetingRules := experiment.targetingRules
  variants := experiment.variants
  primaryGoal := experiment.primaryGoal
  statisticalSettings := experiment.statisticalSettings
  metadata := experiment.metadata

/-- A partial experiment; a field that is given has a value. -/
structure Updates where
  id : Option String
  type : Option ExperimentType
  status : Option Status
  startDate : Option Nat
  endDate : Option Nat
  targetingRules : Option String
  variants : Option (List ExperimentVariant)
  primaryGoal : Option ConversionGoal
  statisticalSettings : Option StatisticalSettings
  metadata : Option ExperimentMetadata
  deriving DecidableEq

def noUpdates : Updates := ⟨none, none, none, none, none, none, none, none, none, none⟩

/-- `{ ...experiment, ...updates }`. -/
def Experiment.updated (experiment : Experiment) (updates : Updates) : Experiment where
  id := updates.id.getD experiment.id
  type := updates.type.getD experiment.type
  status := updates.status.getD experiment.status
  startDate := updates.startDate <|> experiment.startDate
  endDate := updates.endDate <|> experiment.endDate
  targetingRules := updates.targetingRules.getD experiment.targetingRules
  variants := updates.variants.getD experiment.variants
  primaryGoal := updates.primaryGoal.getD experiment.primaryGoal
  statisticalSettings := updates.statisticalSettings.getD experiment.statisticalSettings
  metadata := updates.metadata.getD experiment.metadata

def Updates.isForbidden (updates : Updates) : Bool :=
  updates.variants.isSome || updates.primaryGoal.isSome || updates.statisticalSettings.isSome ||
    updates.targetingRules.isSome

structure ParticipantInput where
  experimentId : String
  userId : Option String
  sessionId : String
  deriving DecidableEq

/-- `participant.userId || participant.sessionId`. -/
def ParticipantInput.participantKey (participant : ParticipantInput) : String :=
  (truthyText participant.userId).getD participant.sessionId

def hashString (str : Utf16.Text) : Nat :=
  (str.foldl (fun hash char =>
    ABTesting.toInt32 (ABTesting.toInt32 (hash * 2 ^ 5) - hash + char.toNat)) 0).natAbs

/-- The first variant whose cumulative allocation reaches the percentage. -/
def reached (percentage : Nat) : Rat → List ExperimentVariant → Option ExperimentVariant
  | _, [] => none
  | cumulative, variant :: variants =>
    if percentage ≤ cumulative + variant.trafficAllocation then some variant
    else reached percentage (cumulative + variant.trafficAllocation) variants

/-- With no variant at all, `variants[0].id` throws. -/
def assignVariant (variants : List ExperimentVariant) (seed : String) : Option String :=
  let hash := hashString (Utf16.ofString seed)
  let percentage := hash % 100 + 1
  match reached percentage 0 variants with
  | some variant => some variant.id
  | none =>
    match truthyText ((variants.find? (·.isControl)).map (·.id)) with
    | some id => some id
    | none => variants.head?.map (·.id)

lemma mem_of_reached {p : Nat} {variants : List ExperimentVariant} {c : Rat}
    {vr : ExperimentVariant} (hf : reached p c variants = some vr) : vr ∈ variants := by
  induction variants generalizing c with
  | nil => cases hf
  | cons first variants ih =>
    rw [reached] at hf
    split at hf
    · cases hf
      exact mem_cons_self
    · exact mem_cons_of_mem _ (ih hf)

lemma mem_of_assignVariant {vs : List ExperimentVariant} {s id : String}
    (has : assignVariant vs s = some id) : id ∈ vs.map (·.id) := by
  rw [assignVariant] at has
  split at has
  · rename_i vr hf
    cases has
    exact mem_map_of_mem (mem_of_reached hf)
  · split at has
    · rename_i control hf
      cases has
      obtain ⟨vr, hv, rfl⟩ := Option.map_eq_some_iff.mp (Option.filter_eq_some_iff.mp hf).1
      exact mem_map_of_mem (mem_of_find?_eq_some hv)
    · obtain ⟨vr, hv, rfl⟩ := Option.map_eq_some_iff.mp has
      exact mem_map_of_mem (mem_of_mem_head? hv)

structure Environment where
  /-- `Math.sqrt`, undefined where it is NaN -/
  sqrt : Rat → Option Rat
  exp : Rat → Rat
  showNumber : Rat → String
  /-- `toFixed(1)` -/
  toFixed : Rat → String

/-- The bounds are numbers, or `null` once they have been through JSON as NaN. -/
structure ConfidenceInterval where
  lower : JsValue
  upper : JsValue

structure ExperimentResult where
  experimentId : String
  variantId : String
  participantCount : Int
  conversionCount : Int
  conversionRate : Rat
  revenue : Rat
  revenuePerVisitor : Rat
  confidence : Rat
  significanceLevel : Rat
  pValue : Option Rat
  confidenceInterval : Option ConfidenceInterval
  statisticalSignificance : Bool
  improvement : Option Rat
  timestamp : Nat

structure Winner where
  variantId : String
  confidence : Rat
  improvement : Rat
  significance : Rat

inductive Action where
  | continue
  | stopWinner
  | stopInconclusive
  | extendDuration
  | increaseTraffic
  deriving DecidableEq

structure Recommendations where
  action : Action
  reason : String
  confidence : Rat

structure DayCounts where
  participants : Int
  conversions : Int
  conversionRate : Rat

structure TimelineEntry where
  date : String
  variants : OrderedMap String DayCounts

structure ChartData where
  timeline : List TimelineEntry
  distribution : OrderedMap String Int

structure StatisticalAnalysis where
  experimentId : String
  totalParticipants : Int
  totalConversions : Int
  overallConversionRate : Rat
  variants : List ExperimentResult
  winner : Option Winner
  recommendations : Recommendations
  chartData : ChartData

abbrev CountHash := OrderedMap String Int

/-- `parseInt(counts[id] || '0')`. -/
def countOf (counts : CountHash) (id : String) : Int := (counts.get? id).getD 0

def rate (amount : Rat) (participants : Int) : Rat :=
  if 0 < participants then amount / participants else 0

/-- What `calculateResults` has read when it starts to compute, and when that was. -/
structure Counts where
  experimentId : String
  experiment : Experiment
  participantCounts : CountHash
  conversionCounts : CountHash
  revenueCounts : OrderedMap String Rat
  readAt : Nat

def Counts.resultOf (counts : Counts) (variant : ExperimentVariant) : ExperimentResult :=
  let participants := countOf counts.participantCounts variant.id
  let conversions := countOf counts.conversionCounts variant.id
  let revenue := (counts.revenueCounts.get? variant.id).getD 0
  { experimentId := counts.experimentId
    variantId := variant.id
    participantCount := participants
    conversionCount := conversions
    conversionRate := rate conversions participants
    revenue := revenue
    revenuePerVisitor := rate revenue participants
    confidence := 0
    significanceLevel := counts.experiment.statisticalSettings.confidenceLevel
    pValue := none
    confidenceInterval := none
    statisticalSignificance := false
    improvement := none
    timestamp := counts.readAt }

def standardNormalCDF (env : Environment) (z : Rat) : Rat :=
  let a1 : Rat := 0.254829592
  let a2 : Rat := -0.284496736
  let a3 : Rat := 1.421413741
  let a4 : Rat := -1.453152027
  let a5 : Rat := 1.061405429
  let p : Rat := 0.3275911
  let sign : Rat := if z < 0 then -1 else 1
  let z := |z|
  let t := 1 / (1 + p * z)
  let y := 1 - ((((a5 * t + a4) * t + a3) * t + a2) * t + a1) * t * env.exp (-z * z)
  0.5 * (1 + sign * y)

def getZCritical (confidenceLevel : Rat) : Rat :=
  let alpha := (100 - confidenceLevel) / 200
  if alpha ≤ 0.005 then 2.576
  else if alpha ≤ 0.025 then 1.96
  else if alpha ≤ 0.05 then 1.645
  else 1.96

structure Significance where
  confidence : Rat
  pValue : Rat
  significant : Bool
  improvement : Rat
  confidenceInterval : ConfidenceInterval

def intervalBound (difference : Rat) (margin : Option Rat) (sign : Rat) : JsValue :=
  match margin with
  | some margin => .number (.finite ((difference + sign * margin) * 100))
  | none => .number .nan

def calculateStatisticalSignificance (env : Environment) (control variant : ExperimentResult)
    (confidenceLevel : Rat) : Significance :=
  let controlRate := control.conversionRate
  let variantRate := variant.conversionRate
  let n₁ : Rat := control.participantCount
  let n₂ : Rat := variant.participantCount
  if control.participantCount = 0 ∨ variant.participantCount = 0 then
    { confidence := 0
      pValue := 1
      significant := false
      improvement := 0
      confidenceInterval := ⟨.number (.finite 0), .number (.finite 0)⟩ }
  else
    let pooledRate : Rat := (control.conversionCount + variant.conversionCount) / (n₁ + n₂)
    let zScore :=
      match env.sqrt (pooledRate * (1 - pooledRate) * (1 / n₁ + 1 / n₂)) with
      | some se => if 0 < se then (variantRate - controlRate) / se else 0
      | none => 0
    let pValue := 2 * (1 - standardNormalCDF env |zScore|)
    let alpha := (100 - confidenceLevel) / 100
    let significant := pValue < alpha
    let seDiff := env.sqrt (controlRate * (1 - controlRate) / n₁ +
      variantRate * (1 - variantRate) / n₂)
    let margin := seDiff.map (getZCritical confidenceLevel * ·)
    { confidence := if significant then confidenceLevel else 0
      pValue := pValue
      significant := significant
      improvement :=
        if 0 < controlRate then (variantRate - controlRate) / controlRate * 100 else 0
      confidenceInterval :=
        ⟨intervalBound (variantRate - controlRate) margin (-1),
          intervalBound (variantRate - controlRate) margin 1⟩ }

def isControl (experiment : Experiment) (result : ExperimentResult) : Bool :=
  match experiment.variants.find? (·.id = result.variantId) with
  | some variant => variant.isControl
  | none => false

/-- One turn of the loop that compares every variant with the control. -/
def compareWith (env : Environment) (experiment : Experiment) (control result : ExperimentResult) :
    ExperimentResult :=
  if result.variantId ≠ control.variantId then
    let stats := calculateStatisticalSignificance env control result
      experiment.statisticalSettings.confidenceLevel
    { result with
      confidence := stats.confidence
      pValue := some stats.pValue
      confidenceInterval := some stats.confidenceInterval
      statisticalSignificance := stats.significant
      improvement := some stats.improvement }
  else result

def Counts.results (env : Environment) (counts : Counts) : List ExperimentResult :=
  let variants := counts.experiment.variants.map counts.resultOf
  match variants.find? (isControl counts.experiment) with
  | some controlVariant => variants.map (compareWith env counts.experiment controlVariant)
  | none => variants

def score (result : ExperimentResult) : Rat :=
  result.improvement.getD 0 * (result.confidence / 100)

/-- `value || default` for numbers. -/
def orDefault (value : Option Rat) (default : Rat) : Rat :=
  match value with
  | some value => if value = 0 then default else value
  | none => default

def determineWinner (variants : List ExperimentResult) : Option Winner :=
  let significantVariants := variants.filter fun v =>
    v.statisticalSignificance && (v.improvement.any (0 < ·))
  match significantVariants with
  | [] => none
  | first :: others =>
    let winner := others.foldl
      (fun best current => if score best < score current then current else best) first
    some ⟨winner.variantId, winner.confidence, winner.improvement.getD 0,
      orDefault winner.pValue 1⟩

def generateRecommendations (env : Environment) (variants : List ExperimentResult)
    (experiment : Experiment) (winner : Option Winner) : Recommendations :=
  let totalParticipants := (variants.map (·.participantCount)).sum
  let minSampleSize := orDefault experiment.statisticalSettings.minimumSampleSize 1000
  let undecided : Recommendations :=
    if (totalParticipants : Rat) > minSampleSize * 2 ∧
        ¬ variants.any (·.statisticalSignificance) then
      ⟨.stopInconclusive, "No significant difference detected after sufficient sample size", 0⟩
    else ⟨.continue, "Continue collecting data for statistical significance", 0⟩
  if (totalParticipants : Rat) < minSampleSize then
    ⟨.continue, "Need more data. Current: " ++ env.showNumber totalParticipants ++
      ", Required: " ++ env.showNumber minSampleSize, 0⟩
  else
    match winner with
    | some winner =>
      if experiment.statisticalSettings.confidenceLevel ≤ winner.confidence then
        ⟨.stopWinner, "Clear winner found with " ++ env.showNumber winner.confidence ++
          "% confidence and " ++ env.toFixed winner.improvement ++ "% improvement",
          winner.confidence⟩
      else undecided
    | none => undecided

/-- The UTC date at a time in milliseconds. -/
def getDateKey (ms : Int) : String :=
  String.ofList ((toISOString ms).toList.takeWhile (· ≠ 'T'))

/-- The key of the day `i` days ago, the local day always having 24 hours. -/
def dateKeyBefore (today : Nat) (i : Nat) : String := getDateKey (today - i * 86400000)

def timelineEntry (experiment : Experiment) (date : String)
    (dayParticipants dayConversions : CountHash) : TimelineEntry where
  date := date
  variants := experiment.variants.foldl (fun variants variant =>
    let participants := countOf dayParticipants variant.id
    let conversions := countOf dayConversions variant.id
    variants.set variant.id ⟨participants, conversions, rate conversions participants⟩) .empty

def distributionOf (experiment : Experiment) (participantCounts : CountHash) : CountHash :=
  experiment.variants.foldl (fun distribution variant =>
    distribution.set variant.id (countOf participantCounts variant.id)) .empty

def Counts.analysis (env : Environment) (counts : Counts) (chartData : ChartData) :
    StatisticalAnalysis :=
  let variants := counts.results env
  let totalParticipants := (variants.map (·.participantCount)).sum
  let totalConversions := (variants.map (·.conversionCount)).sum
  let winner := determineWinner variants
  { experimentId := counts.experimentId
    totalParticipants := totalParticipants
    totalConversions := totalConversions
    overallConversionRate := rate totalConversions totalParticipants
    variants := variants
    winner := winner
    recommendations := generateRecommendations env variants counts.experiment winner
    chartData := chartData }

/-- JSON writes NaN as `null`. -/
def jsonNumber : JsValue → JsValue
  | .number .nan => .null
  | value => value

def ExperimentResult.afterJson (result : ExperimentResult) : ExperimentResult :=
  { result with
    confidenceInterval := result.confidenceInterval.map fun interval =>
      ⟨jsonNumber interval.lower, jsonNumber interval.upper⟩ }

/-- An analysis that has been written to the cache and read back. -/
def StatisticalAnalysis.afterJson (analysis : StatisticalAnalysis) : StatisticalAnalysis :=
  { analysis with variants := analysis.variants.map ExperimentResult.afterJson }

inductive CounterKey where
  /-- `experiment:<id>:participants` -/
  | participants (experimentId : String)
  | participantsDaily (experimentId day : String)
  /-- `experiment:<id>:conversions:<goal>` -/
  | conversions (experimentId goalId : String)
  | conversionsDaily (experimentId goalId day : String)
  deriving DecidableEq

inductive RevenueKey where
  /-- `experiment:<id>:revenue:<goal>` -/
  | revenue (experimentId goalId : String)
  | revenueDaily (experimentId goalId day : String)
  deriving DecidableEq

/-- Different keys of the source are taken to be different texts: ids and goals hold no colon. -/
structure Redis where
  /-- `experiment:<id>` -/
  experiments : ExpiringKeys String Experiment
  /-- `experiments:all` -/
  all : Finset String
  /-- `experiments:status:<status>` -/
  byStatus : Status → Finset String
  /-- `experiments:type:<type>` -/
  byType : ExperimentType → Finset String
  /-- `experiments:team:<team>` -/
  byTeam : String → Finset String
  /-- `participant:<id>:<key>` -/
  mappings : ExpiringKeys (String × String) String
  counters : CounterKey → CountHash
  revenue : RevenueKey → OrderedMap String Rat
  /-- `results:<id>` -/
  results : ExpiringKeys String StatisticalAnalysis

namespace Redis

/-- A database with the given experiments and nothing else. -/
def holding (experiments : ExpiringKeys String Experiment) : Redis where
  experiments := experiments
  all := ∅
  byStatus := fun _ => ∅
  byType := fun _ => ∅
  byTeam := fun _ => ∅
  mappings := fun _ => none
  counters := fun _ => .empty
  revenue := fun _ => .empty
  results := fun _ => none

def hincrby (redis : Redis) (key : CounterKey) (field : String) : Redis :=
  { redis with
    counters := Function.update redis.counters key ((redis.counters key).addTo field 1) }

lemma counters_hincrby_self (r : Redis) (k : CounterKey) (field : String) :
    (r.hincrby k field).counters k = (r.counters k).addTo field 1 :=
  Function.update_self _ _ _

lemma counters_hincrby_of_ne (r : Redis) {k x : CounterKey} (field : String)
    (hne : x ≠ k) : (r.hincrby k field).counters x = r.counters x :=
  Function.update_of_ne hne _ _

def hincrbyfloat (redis : Redis) (key : RevenueKey) (field : String) (amount : Rat) : Redis :=
  { redis with
    revenue := Function.update redis.revenue key ((redis.revenue key).addTo field amount) }

def experimentTtl : Nat := 365 * 24 * 60 * 60

def participantTtl : Nat := 30 * 24 * 60 * 60

def resultsCacheTtl : Nat := 300

def getExperiment (redis : Redis) (now : Nat) (experimentId : String) : Option Experiment :=
  redis.experiments.get now experimentId

/-- What `addParticipant` and `recordConversion` begin with. -/
def runningExperiment (redis : Redis) (now : Nat) (experimentId : String) :
    Except String Experiment :=
  match redis.getExperiment now experimentId with
  | none => .error "Experiment not found or not running"
  | some experiment =>
    if experiment.status = .running then .ok experiment
    else .error "Experiment not found or not running"

lemma runningExperiment_ok {r : Redis} {now : Nat} {xid : String}
    {e : Experiment} (ok : r.runningExperiment now xid = .ok e) :
    ∃ en, r.experiments xid = some en ∧ en.value = e := by
  rw [runningExperiment] at ok
  split at ok
  · cases ok
  · rename_i hf
    split at ok
    · cases ok
      obtain ⟨en, he, -, hv⟩ := ExpiringKeys.get_eq_some_iff.mp hf
      exact ⟨en, he, hv⟩
    · cases ok

end Redis

end UniversalABTesting
