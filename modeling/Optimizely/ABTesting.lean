import Optimizely.JsValue
import Optimizely.OrderedMap
import Optimizely.Utf16

/-!
# The A/B testing service

Experiments, assignments and conversions of `ABTestingService`, call by call. The environment holds
the square root and the normal distribution; calls carry their random draws and ids.
-/

namespace ABTesting

open List

inductive ExperimentStatus where
  | draft
  | ready
  | running
  | paused
  | completed
  | stopped
  | archived
  deriving DecidableEq

def ExperimentStatus.text : ExperimentStatus → String
  | .draft => "draft"
  | .ready => "ready"
  | .running => "running"
  | .paused => "paused"
  | .completed => "completed"
  | .stopped => "stopped"
  | .archived => "archived"

inductive AllocationMethod where
  | random
  | hashBased
  | weighted
  | segmentBased
  deriving DecidableEq

structure VariantMetrics where
  participantCount : Rat
  conversionRate : JsNumber
  conversionCount : Rat
  primaryMetricValue : Rat
  secondaryMetrics : OrderedMap String Rat
  deriving DecidableEq

def zeroMetrics : VariantMetrics where
  participantCount := 0
  conversionRate := .finite 0
  conversionCount := 0
  primaryMetricValue := 0
  secondaryMetrics := .empty

structure ExperimentVariant where
  id : String
  isControl : Bool
  allocation : Rat
  metrics : VariantMetrics

structure SegmentCriteria where
  industry : Option (List String)
  userType : Option (List String)
  geography : Option (List String)
  deviceType : Option (List String)
  trafficSource : Option (List String)
  customAttributes : List (String × JsValue)

structure TrafficSegment where
  criteria : SegmentCriteria
  allocation : Rat

inductive ConditionOperator where
  | equals
  | notEquals
  | isIn
  | notIn
  | greaterThan
  | lessThan
  | contains
  deriving DecidableEq

structure AllocationCondition where
  attributeName : String
  operator : ConditionOperator
  value : JsValue

structure TrafficAllocation where
  method : AllocationMethod
  segments : List TrafficSegment
  conditions : List AllocationCondition
  sticky : Bool
  rolloutPercentage : Rat

structure StatisticalConfig where
  confidenceLevel : Rat
  powerLevel : Rat
  minimumDetectableEffect : Rat
  alphaLevel : Rat
  deriving DecidableEq

structure ConfidenceInterval where
  lower : JsNumber
  upper : JsNumber
  level : Rat

structure ExperimentResults where
  statisticalSignificance : Bool
  pValue : JsNumber
  confidenceInterval : ConfidenceInterval
  effectSize : JsNumber
  winningVariant : Option String

structure ExperimentMetadata where
  estimatedDuration : JsNumber
  requiredSampleSize : JsNumber
  deriving DecidableEq

structure Experiment where
  id : String
  industry : Option String
  status : ExperimentStatus
  variants : List ExperimentVariant
  trafficAllocation : TrafficAllocation
  statisticalConfig : StatisticalConfig
  metadata : ExperimentMetadata
  results : Option ExperimentResults

structure AssignmentContext where
  industry : String
  userSegment : String
  deviceType : String
  geography : String
  trafficSource : String
  customAttributes : String → JsValue

structure ParticipantAssignment where
  userId : String
  experimentId : String
  variantId : String
  context : AssignmentContext

structure ConversionEvent where
  experimentId : String
  variantId : String
  userId : String
  eventType : String
  value : Rat
  deriving DecidableEq

structure Service where
  experiments : OrderedMap String Experiment
  assignments : OrderedMap String (List ParticipantAssignment)
  conversionEvents : List ConversionEvent

def initial : Service := ⟨.empty, .empty, []⟩

def Service.assignmentsOf (service : Service) (experimentId : String) :
    List ParticipantAssignment :=
  (service.assignments.get? experimentId).getD []

structure Environment where
  conversions : JsConversions
  showNumber : Rat → String
  sqrt : JsNumber → JsNumber
  normalCDF : JsNumber → JsNumber
  /-- The value of `getInverseNormalCDF` inside its domain. -/
  inverseNormal : Rat → Rat

/-- `value || default` for numbers. -/
def orDefault (value default : JsNumber) : JsNumber :=
  if (JsValue.number value).truthy then value else default

structure IndustryDefaults where
  typicalDuration : JsNumber
  minSampleSize : JsNumber
  confidenceLevel : Rat

def industryDefaults : String → Option IndustryDefaults
  | "saas" => some ⟨.finite 14, .finite 1000, 95 / 100⟩
  | "manufacturing" => some ⟨.finite 21, .finite 500, 90 / 100⟩
  | "healthcare" => some ⟨.finite 30, .finite 300, 95 / 100⟩
  | "fintech" => some ⟨.finite 10, .finite 2000, 99 / 100⟩
  | "college_consulting" => some ⟨.finite 28, .finite 200, 90 / 100⟩
  | _ => none

def applyDefaults (experiment : Experiment) : Experiment :=
  match experiment.industry.bind industryDefaults with
  | none => experiment
  | some defaults =>
    { experiment with
      metadata :=
        { estimatedDuration :=
            orDefault experiment.metadata.estimatedDuration defaults.typicalDuration
          requiredSampleSize :=
            orDefault experiment.metadata.requiredSampleSize defaults.minSampleSize }
      statisticalConfig :=
        { experiment.statisticalConfig with
          confidenceLevel :=
            if experiment.statisticalConfig.confidenceLevel = 0 then defaults.confidenceLevel
            else experiment.statisticalConfig.confidenceLevel } }

def validateExperiment (env : Environment) (experiment : Experiment) : Except String Unit :=
  let totalAllocation := (experiment.variants.map (·.allocation)).sum
  let config := experiment.statisticalConfig
  let rolloutPercentage := experiment.trafficAllocation.rolloutPercentage
  if 1 / 100 < |totalAllocation - 100| then
    .error ("Variant allocations must sum to 100%. Current sum: " ++
      env.showNumber totalAllocation ++ "%")
  else if ¬ experiment.variants.any (·.isControl) then
    .error "Experiment must have at least one control variant"
  else if config.confidenceLevel ≤ 0 ∨ 1 ≤ config.confidenceLevel then
    .error "Confidence level must be between 0 and 1"
  else if config.powerLevel ≤ 0 ∨ 1 ≤ config.powerLevel then
    .error "Power level must be between 0 and 1"
  else if rolloutPercentage < 0 ∨ 100 < rolloutPercentage then
    .error "Rollout percentage must be between 0 and 100"
  else .ok ()

def getInverseNormalCDF (env : Environment) (p : Rat) : Except String Rat :=
  if p ≤ 0 ∨ 1 ≤ p then .error "Probability must be between 0 and 1"
  else .ok (env.inverseNormal p)

def calculateRequiredSampleSize (env : Environment) (config : StatisticalConfig) :
    Except String JsNumber := do
  let zAlpha ← getInverseNormalCDF env (1 - config.alphaLevel / 2)
  let zBeta ← getInverseNormalCDF env config.powerLevel
  let p1 : Rat := 5 / 100
  let p2 := p1 * (1 + config.minimumDetectableEffect)
  let numerator := (zAlpha + zBeta) ^ 2 * (p1 * (1 - p1) + p2 * (1 - p2))
  let n := JsNumber.div (.finite numerator) (.finite ((p2 - p1) ^ 2))
  match n with
  | .finite q => return .finite (q * 2).ceil
  | other => return other

def fillSampleSize (env : Environment) (experiment : Experiment) : Except String Experiment :=
  if (JsValue.number experiment.metadata.requiredSampleSize).truthy then .ok experiment
  else do
    let size ← calculateRequiredSampleSize env experiment.statisticalConfig
    return { experiment with
      metadata := { experiment.metadata with requiredSampleSize := size } }

def createExperiment (env : Environment) (service : Service) (id : String)
    (experimentData : Experiment) : Except String String × Service :=
  let experiment := applyDefaults { experimentData with id := id }
  match validateExperiment env experiment with
  | .error message => (.error message, service)
  | .ok _ =>
    match fillSampleSize env experiment with
    | .error message => (.error message, service)
    | .ok experiment =>
      (.ok id, { service with
        experiments := service.experiments.set id experiment
        assignments := service.assignments.set id [] })

structure ExperimentUpdates where
  id : Option String
  industry : Option (Option String)
  status : Option ExperimentStatus
  variants : Option (List ExperimentVariant)
  trafficAllocation : Option TrafficAllocation
  statisticalConfig : Option StatisticalConfig
  metadata : Option ExperimentMetadata
  results : Option (Option ExperimentResults)

def noUpdates : ExperimentUpdates := ⟨none, none, none, none, none, none, none, none⟩

def Experiment.updated (experiment : Experiment) (updates : ExperimentUpdates) : Experiment where
  id := updates.id.getD experiment.id
  industry := updates.industry.getD experiment.industry
  status := updates.status.getD experiment.status
  variants := updates.variants.getD experiment.variants
  trafficAllocation := updates.trafficAllocation.getD experiment.trafficAllocation
  statisticalConfig := updates.statisticalConfig.getD experiment.statisticalConfig
  metadata := updates.metadata.getD experiment.metadata
  results := updates.results.getD experiment.results

def Service.put (service : Service) (experimentId : String) (experiment : Experiment) : Service :=
  { service with experiments := service.experiments.set experimentId experiment }

def notFound (experimentId : String) : String := "Experiment " ++ experimentId ++ " not found"

def updateExperiment (env : Environment) (service : Service) (experimentId : String)
    (updates : ExperimentUpdates) : Except String Unit × Service :=
  match service.experiments.get? experimentId with
  | none => (.error (notFound experimentId), service)
  | some experiment =>
    if experiment.status = .running then (.error "Cannot update running experiment", service)
    else
      match validateExperiment env (experiment.updated updates) with
      | .error message => (.error message, service)
      | .ok _ => (.ok (), service.put experimentId (experiment.updated updates))

def Experiment.started (experiment : Experiment) : Experiment :=
  { experiment with
    status := .running
    variants := experiment.variants.map fun variant => { variant with metrics := zeroMetrics } }

def startExperiment (env : Environment) (service : Service) (experimentId : String) :
    Except String Unit × Service :=
  match service.experiments.get? experimentId with
  | none => (.error (notFound experimentId), service)
  | some experiment =>
    if experiment.status ≠ .ready then
      (.error ("Experiment must be in READY status to start. Current status: " ++
        experiment.status.text), service)
    else
      match validateExperiment env experiment with
      | .error message => (.error message, service)
      | .ok _ => (.ok (), service.put experimentId experiment.started)

structure TestResult where
  significant : Bool
  pValue : JsNumber
  improvement : JsNumber
  effectSize : JsNumber
  confidenceInterval : ConfidenceInterval

def performStatisticalTest (env : Environment) (controlMetrics testMetrics : VariantMetrics)
    (config : StatisticalConfig) : Except String TestResult :=
  let p1 := controlMetrics.conversionRate
  let n1 := controlMetrics.participantCount
  let p2 := testMetrics.conversionRate
  let n2 := testMetrics.participantCount
  if n1 = 0 ∨ n2 = 0 then
    .ok ⟨false, .finite 1, .finite 0, .finite 0, .finite 0, .finite 0, config.confidenceLevel⟩
  else do
    let one : JsNumber := .finite 1
    let pooledP := JsNumber.div
      (.finite (controlMetrics.conversionCount + testMetrics.conversionCount)) (.finite (n1 + n2))
    let spread := pooledP.mul (one.sub pooledP)
    let se := env.sqrt (spread.mul (.finite (1 / n1 + 1 / n2)))
    let difference := p2.sub p1
    let zScore := difference.div se
    let pValue := (JsNumber.finite 2).mul (one.sub (env.normalCDF zScore.abs))
    let improvement := (difference.div p1).mul (.finite 100)
    let effectSize := difference.div (env.sqrt spread)
    let seCI := env.sqrt (((p2.mul (one.sub p2)).div (.finite n2)).add
      ((p1.mul (one.sub p1)).div (.finite n1)))
    let criticalValue ← getInverseNormalCDF env ((1 + config.confidenceLevel) / 2)
    let margin := (JsNumber.finite criticalValue).mul seCI
    return {
      significant := pValue.lt (.finite config.alphaLevel)
      pValue := pValue
      improvement := improvement
      effectSize := effectSize
      confidenceInterval := ⟨difference.sub margin, difference.add margin, config.confidenceLevel⟩ }

/-- The results so far and the largest improvement seen. -/
structure BestResult where
  results : ExperimentResults
  maxImprovement : JsNumber

def compareVariant (env : Environment) (config : StatisticalConfig)
    (controlVariant : ExperimentVariant) (best : BestResult) (testVariant : ExperimentVariant) :
    Except String BestResult := do
  let testResult ← performStatisticalTest env controlVariant.metrics testVariant.metrics config
  if testResult.significant && best.maxImprovement.lt testResult.improvement then
    return {
      maxImprovement := testResult.improvement
      results := {
        statisticalSignificance := true
        pValue := testResult.pValue
        confidenceInterval := testResult.confidenceInterval
        effectSize := testResult.effectSize
        winningVariant := some testVariant.id } }
  else return best

def calculateExperimentResults (env : Environment) (experiment : Experiment) :
    Except String ExperimentResults :=
  match experiment.variants.find? (·.isControl) with
  | none => .error "No control variant found"
  | some controlVariant => do
    let testVariants := experiment.variants.filter fun variant => !variant.isControl
    let config := experiment.statisticalConfig
    let best ← testVariants.foldlM (compareVariant env config controlVariant)
      ⟨⟨false, .finite 1, ⟨.finite 0, .finite 0, config.confidenceLevel⟩, .finite 0, none⟩,
        .finite 0⟩
    return best.results

/-- The status is changed before the results are computed, so it stays changed when they
cannot be. -/
def stopExperiment (env : Environment) (service : Service) (experimentId : String) :
    Except String Unit × Service :=
  match service.experiments.get? experimentId with
  | none => (.error (notFound experimentId), service)
  | some experiment =>
    let stopped := { experiment with status := .stopped }
    match calculateExperimentResults env stopped with
    | .error message => (.error message, service.put experimentId stopped)
    | .ok results => (.ok (), service.put experimentId { stopped with results := some results })

/-- A value of `Math.random()`. -/
structure Draw where
  value : Rat
  nonneg : 0 ≤ value
  lt_one : value < 1

structure Draws where
  rollout : Draw
  segment : Draw
  variant : Draw

def matchesList (criterion : Option (List String)) (value : String) : Bool :=
  match criterion with
  | none => true
  | some accepted => value ∈ accepted

def matchesSegment (criteria : SegmentCriteria) (context : AssignmentContext) : Bool :=
  matchesList criteria.industry context.industry &&
  matchesList criteria.userType context.userSegment &&
  matchesList criteria.geography context.geography &&
  matchesList criteria.deviceType context.deviceType &&
  matchesList criteria.trafficSource context.trafficSource &&
  criteria.customAttributes.all fun entry =>
    (context.customAttributes entry.1).strictEquals entry.2

/-- `context[attribute]`; the record of custom attributes is an object of its own. -/
def AssignmentContext.read (context : AssignmentContext) : String → JsValue
  | "industry" => .string context.industry
  | "userSegment" => .string context.userSegment
  | "deviceType" => .string context.deviceType
  | "geography" => .string context.geography
  | "trafficSource" => .string context.trafficSource
  | "customAttributes" => .object 0
  | _ => .undefined

def evaluateCondition (conversions : JsConversions) (condition : AllocationCondition)
    (context : AssignmentContext) : Bool :=
  let own := context.read condition.attributeName
  let contextValue := if own.truthy then own else context.customAttributes condition.attributeName
  match condition.operator, condition.value with
  | .equals, value => contextValue.strictEquals value
  | .notEquals, value => !contextValue.strictEquals value
  | .isIn, .array _ items => items.any contextValue.sameValueZero
  | .isIn, _ => false
  | .notIn, .array _ items => !items.any contextValue.sameValueZero
  | .notIn, _ => false
  | .greaterThan, value => conversions.numberLess value contextValue
  | .lessThan, value => conversions.numberLess contextValue value
  | .contains, value => conversions.textIncludes contextValue value

def shouldIncludeUser (env : Environment) (experiment : Experiment) (context : AssignmentContext)
    (draws : Draws) : Bool :=
  let allocation := experiment.trafficAllocation
  if allocation.rolloutPercentage / 100 < draws.rollout.value then false
  else if ¬ allocation.conditions.all (evaluateCondition env.conversions · context) then false
  else
    match allocation.segments.find? (matchesSegment ·.criteria context) with
    | some segment => draws.segment.value < segment.allocation / 100
    | none => true

def toInt32 (x : Int) : Int := Int.bmod x (2 ^ 32)

def simpleHash (str : Utf16.Text) : Nat :=
  (str.foldl (fun hash char => toInt32 (toInt32 (hash * 2 ^ 5) - hash + char.toNat)) 0).natAbs

/-- The first variant whose cumulative allocation exceeds the point. -/
def pickVariant (point : Rat) : Rat → List ExperimentVariant → Option ExperimentVariant
  | _, [] => none
  | cumulative, variant :: variants =>
    if point < cumulative + variant.allocation then some variant
    else pickVariant point (cumulative + variant.allocation) variants

/-- With no variant at all, `variants[0].id` throws. -/
def variantAt (experiment : Experiment) (point : Rat) : Option String :=
  match pickVariant point 0 experiment.variants with
  | some variant => some variant.id
  | none => experiment.variants.head?.map (·.id)

def hashBasedAssignment (experiment : Experiment) (userId : String) : Option String :=
  let hash := simpleHash (Utf16.ofString userId ++ Utf16.ofString experiment.id)
  let bucket := hash % 100
  variantAt experiment bucket

def weightedAssignment (experiment : Experiment) (draw : Draw) : Option String :=
  let random := draw.value * 100
  variantAt experiment random

/-- Every branch of the source ends in the weighted assignment. -/
def segmentBasedAssignment (experiment : Experiment) (context : AssignmentContext) (draw : Draw) :
    Option String :=
  match experiment.trafficAllocation.segments.find? (matchesSegment ·.criteria context) with
  | some _ => weightedAssignment experiment draw
  | none => weightedAssignment experiment draw

def randomAssignment (experiment : Experiment) (draw : Draw) : Option String :=
  weightedAssignment experiment draw

def assignVariant (experiment : Experiment) (userId : String) (context : AssignmentContext)
    (draw : Draw) : Option String :=
  match experiment.trafficAllocation.method with
  | .hashBased => hashBasedAssignment experiment userId
  | .weighted => weightedAssignment experiment draw
  | .segmentBased => segmentBasedAssignment experiment context draw
  | .random => randomAssignment experiment draw

lemma mem_of_pickVariant {p c : Rat} {vs : List ExperimentVariant}
    {vr : ExperimentVariant} (hp : pickVariant p c vs = some vr) : vr ∈ vs := by
  induction vs generalizing c with
  | nil => cases hp
  | cons first vs ih =>
    rw [pickVariant] at hp
    split at hp
    · cases hp
      exact mem_cons_self
    · exact mem_cons_of_mem _ (ih hp)

lemma mem_of_variantAt {e : Experiment} {p : Rat} {v : String}
    (hf : variantAt e p = some v) : ∃ vr ∈ e.variants, vr.id = v := by
  rw [variantAt] at hf
  split at hf
  · rename_i vr hp
    cases hf
    exact ⟨vr, mem_of_pickVariant hp, rfl⟩
  · obtain ⟨first, hfr, rfl⟩ := Option.map_eq_some_iff.mp hf
    exact ⟨first, mem_of_mem_head? hfr, rfl⟩

lemma mem_of_assignVariant {e : Experiment} {u v : String}
    {c : AssignmentContext} {d : Draw} (has : assignVariant e u c d = some v) :
    ∃ vr ∈ e.variants, vr.id = v := by
  rw [assignVariant] at has
  split at has
  · exact mem_of_variantAt has
  · exact mem_of_variantAt has
  · rw [segmentBasedAssignment] at has
    split at has <;> exact mem_of_variantAt has
  · exact mem_of_variantAt has

/-- How a call of `assignParticipant` is answered: from an earlier assignment, or by a new
one to a variant of the running experiment. -/
inductive Decision where
  | existing (variantId : String)
  | new (experiment : Experiment) (variantId : String)

def decideNew (env : Environment) (experiment : Experiment) (userId : String)
    (context : AssignmentContext) (draws : Draws) : Except String Decision :=
  if ¬ shouldIncludeUser env experiment context draws then
    .error "User does not meet experiment criteria"
  else
    match assignVariant experiment userId context draws.variant with
    | none => .error "Cannot read properties of undefined (reading 'id')"
    | some variantId => .ok (.new experiment variantId)

def decideAssignment (env : Environment) (service : Service) (userId experimentId : String)
    (context : AssignmentContext) (draws : Draws) : Except String Decision :=
  match service.experiments.get? experimentId with
  | none => .error (notFound experimentId)
  | some experiment =>
    if experiment.status ≠ .running then
      .error ("Experiment " ++ experimentId ++ " is not running")
    else
      match (service.assignmentsOf experimentId).find? (·.userId = userId) with
      | some existingAssignment =>
        if experiment.trafficAllocation.sticky then .ok (.existing existingAssignment.variantId)
        else decideNew env experiment userId context draws
      | none => decideNew env experiment userId context draws

/-- Change the first entry that satisfies a test. -/
def updateFirst {A : Type} (test : A → Bool) (change : A → A) : List A → List A
  | [] => []
  | a :: as => if test a then change a :: as else a :: updateFirst test change as

def VariantMetrics.countParticipant (metrics : VariantMetrics) : VariantMetrics :=
  { metrics with participantCount := metrics.participantCount + 1 }

def Experiment.withVariant (experiment : Experiment) (variantId : String)
    (change : VariantMetrics → VariantMetrics) : Experiment :=
  { experiment with
    variants := updateFirst (·.id = variantId)
      (fun variant => { variant with metrics := change variant.metrics }) experiment.variants }

def storeAssignment (service : Service) (userId experimentId : String)
    (context : AssignmentContext) (experiment : Experiment) (variantId : String) : Service :=
  { service with
    assignments := service.assignments.set experimentId
      (service.assignmentsOf experimentId ++ [⟨userId, experimentId, variantId, context⟩])
    experiments := service.experiments.set experimentId
      (experiment.withVariant variantId VariantMetrics.countParticipant) }

def assignParticipant (env : Environment) (service : Service) (userId experimentId : String)
    (context : AssignmentContext) (draws : Draws) : Except String String × Service :=
  match decideAssignment env service userId experimentId context draws with
  | .error message => (.error message, service)
  | .ok (.existing variantId) => (.ok variantId, service)
  | .ok (.new experiment variantId) =>
    (.ok variantId, storeAssignment service userId experimentId context experiment variantId)

def VariantMetrics.countConversion (eventType : String) (value : Rat) (metrics : VariantMetrics) :
    VariantMetrics :=
  let conversionCount := metrics.conversionCount + 1
  let counted :=
    { metrics with
      conversionCount := conversionCount
      conversionRate := .div (.finite conversionCount) (.finite metrics.participantCount) }
  if eventType = "primary_metric" then
    { counted with primaryMetricValue := metrics.primaryMetricValue + value }
  else { counted with secondaryMetrics := metrics.secondaryMetrics.addTo eventType value }

@[simp] lemma countConversion_counts (ty : String) (v : Rat) (m : VariantMetrics) :
    (m.countConversion ty v).participantCount = m.participantCount ∧
      (m.countConversion ty v).conversionCount = m.conversionCount + 1 ∧
      (m.countConversion ty v).conversionRate =
        .div (.finite (m.conversionCount + 1)) (.finite m.participantCount) := by
  rw [VariantMetrics.countConversion]
  split <;> exact ⟨rfl, rfl, rfl⟩

def recordConversion (service : Service) (experimentId userId eventType : String) (value : Rat) :
    Except String Unit × Service :=
  match service.experiments.get? experimentId with
  | none => (.error (notFound experimentId), service)
  | some experiment =>
    match (service.assignmentsOf experimentId).find? (·.userId = userId) with
    | none =>
      (.error ("User " ++ userId ++ " not assigned to experiment " ++ experimentId), service)
    | some assignment =>
      (.ok (), { service with
        experiments := service.experiments.set experimentId
          (experiment.withVariant assignment.variantId
            (VariantMetrics.countConversion eventType value))
        conversionEvents := service.conversionEvents ++
          [⟨experimentId, assignment.variantId, userId, eventType, value⟩] })

inductive Call where
  | createExperiment (id : String) (experimentData : Experiment)
  | updateExperiment (experimentId : String) (updates : ExperimentUpdates)
  | startExperiment (experimentId : String)
  | stopExperiment (experimentId : String)
  | assignParticipant (userId experimentId : String) (context : AssignmentContext) (draws : Draws)
  | recordConversion (experimentId userId eventType : String) (value : Rat)

def step (env : Environment) (service : Service) : Call → Option Service
  | .createExperiment id experimentData =>
    some (createExperiment env service id experimentData).2
  | .updateExperiment experimentId updates =>
    some (updateExperiment env service experimentId updates).2
  | .startExperiment experimentId => some (startExperiment env service experimentId).2
  | .stopExperiment experimentId => some (stopExperiment env service experimentId).2
  | .assignParticipant userId experimentId context draws =>
    some (assignParticipant env service userId experimentId context draws).2
  | .recordConversion experimentId userId eventType value =>
    some (recordConversion service experimentId userId eventType value).2

end ABTesting
