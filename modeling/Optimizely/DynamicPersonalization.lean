import Mathlib.Data.List.Sort
import Optimizely.JsValue
import Optimizely.OrderedMap
import Optimizely.TransitionRuns

/-!
# Dynamic personalization

`DynamicPersonalizationService` answers a request from a cache that all visitors share, or evaluates
the active rules, counts an impression of each variation and keeps the response for the visitor's
conversions. Numbers are exact, a call is one step, and rules stay, so that those a response names
are found.
-/

namespace DynamicPersonalization

open TransitionRuns List

structure PsychographicProfile where
  decisionMakingStyle : String
  riskTolerance : String
  valuePerception : String
  communicationPreference : String
  buyingJourneyStage : String
  confidence : Rat
  /-- What a condition reads under the name of a field. -/
  read : String → JsValue

structure PersonalizationRequest where
  visitorId : String
  url : String
  psychographicProfile : Option PsychographicProfile
  /-- The device of the context, empty without one. -/
  device : String

inductive ConditionType where
  | psychographic | behavioral | temporal | contextual

inductive Operator where
  | equals | contains | greaterThan | lessThan | isIn | notIn

structure PersonalizationCondition where
  type : ConditionType
  field : String
  operator : Operator
  value : JsValue

structure PsychographicMatch where
  decisionMaking : List String := []
  riskTolerance : List String := []
  valuePerception : List String := []
  communicationPreference : List String := []
  buyingJourneyStage : List String := []

/-- A variation without its counters; `confidence` is the one of its performance metrics. -/
structure PersonalizationVariation where
  id : String
  value : String
  psychographicMatch : PsychographicMatch
  weight : Rat
  confidence : Rat

structure PersonalizationRule where
  conditions : List PersonalizationCondition
  variations : List PersonalizationVariation
  priority : Rat
  active : Bool

structure Service where
  conversions : JsConversions
  rules : OrderedMap String PersonalizationRule

structure AppliedPersonalization where
  ruleId : String
  variationId : String
  personalizedValue : String
  confidence : Rat
  deriving DecidableEq

structure PersonalizationResponse where
  visitorId : String
  personalizations : List AppliedPersonalization
  timestamp : Nat
  deriving DecidableEq

def evaluateOperator (conversions : JsConversions) (value expected : JsValue) : Operator → Bool
  | .equals => value.strictEquals expected
  | .contains =>
    match value with
    | .string _ => conversions.textIncludes value expected
    | _ => false
  | .greaterThan => conversions.numberLess expected value
  | .lessThan => conversions.numberLess value expected
  | .isIn =>
    match expected with
    | .array _ items => items.any value.sameValueZero
    | _ => false
  | .notIn =>
    match expected with
    | .array _ items => !items.any value.sameValueZero
    | _ => false

def evaluateConditions (conversions : JsConversions) (conditions : List PersonalizationCondition)
    (profile : PsychographicProfile) : Bool :=
  conditions.all fun condition =>
    match condition.type with
    | .psychographic =>
      evaluateOperator conversions (profile.read condition.field) condition.value condition.operator
    | _ => true

/-- The confidence of the match; lists without entries are no criteria. -/
def matchesPsychographicProfile (variation : PersonalizationVariation)
    (profile : PsychographicProfile) : Rat :=
  let wanted := variation.psychographicMatch
  let criteria := [(wanted.decisionMaking, profile.decisionMakingStyle),
    (wanted.riskTolerance, profile.riskTolerance),
    (wanted.valuePerception, profile.valuePerception),
    (wanted.communicationPreference, profile.communicationPreference),
    (wanted.buyingJourneyStage, profile.buyingJourneyStage)].filter fun c => c.1 ≠ []
  if criteria = [] then 0
  else (criteria.countP fun c => c.2 ∈ c.1) / criteria.length * profile.confidence

def calculateVariationScore (variation : PersonalizationVariation)
    (profile : PsychographicProfile) : Rat :=
  matchesPsychographicProfile variation profile * variation.weight

/-- The first variation with the greatest score above zero. -/
def findBestVariation (variations : List PersonalizationVariation)
    (profile : PsychographicProfile) : Option PersonalizationVariation :=
  (variations.foldl (fun best variation =>
    let score := calculateVariationScore variation profile
    if best.2 < score then (some variation, score) else best) (none, 0)).1

def calculatePersonalizationConfidence (variation : PersonalizationVariation)
    (profile : PsychographicProfile) : Rat :=
  let orElse (value default : Rat) := if value = 0 then default else value
  calculateVariationScore variation profile * (4 / 10) +
    orElse profile.confidence (8 / 10) * (4 / 10) + orElse variation.confidence (5 / 10) * (2 / 10)

def applyPersonalizationRule (conversions : JsConversions) (request : PersonalizationRequest)
    (entry : String × PersonalizationRule) : Option AppliedPersonalization :=
  match request.psychographicProfile with
  | none => none
  | some profile =>
    if evaluateConditions conversions entry.2.conditions profile then
      (findBestVariation entry.2.variations profile).map fun best =>
        { ruleId := entry.1
          variationId := best.id
          personalizedValue := best.value
          confidence := calculatePersonalizationConfidence best profile }
    else none

def Service.getApplicableRules (service : Service) : List (String × PersonalizationRule) :=
  (service.rules.entries.filter fun entry => entry.2.active).insertionSort fun a b =>
    b.2.priority ≤ a.2.priority

def Service.personalize (service : Service) (request : PersonalizationRequest) :
    List AppliedPersonalization :=
  service.getApplicableRules.filterMap (applyPersonalizationRule service.conversions request)

def generateCacheKey (request : PersonalizationRequest) : String :=
  let profileKey :=
    match request.psychographicProfile with
    | some profile => profile.decisionMakingStyle ++ "-" ++ profile.riskTolerance ++ "-" ++
        profile.valuePerception
    | none => "no-profile"
  "personalization:" ++ request.url ++ ":" ++ profileKey ++ ":" ++
    if request.device = "" then "unknown" else request.device

structure PerformanceMetrics where
  impressions : Nat := 0
  conversions : Nat := 0
  conversionRate : Rat := 0
  deriving DecidableEq

structure PersonalizationAnalytics where
  totalImpressions : Nat := 0
  totalConversions : Nat := 0
  deriving DecidableEq

/-- The metrics of a variation stand under the ids of its rule and of itself. -/
structure Counters where
  analytics : OrderedMap String PersonalizationAnalytics := OrderedMap.empty
  metrics : OrderedMap (String × String) PerformanceMetrics := OrderedMap.empty

def AppliedPersonalization.shown (personalization : AppliedPersonalization) : String × String :=
  (personalization.ruleId, personalization.variationId)

namespace Counters

def analyticsOf (c : Counters) (ruleId : String) : PersonalizationAnalytics :=
  (c.analytics.get? ruleId).getD {}

def metricsOf (c : Counters) (shown : String × String) : PerformanceMetrics :=
  (c.metrics.get? shown).getD {}

def trackPersonalizationImpression (c : Counters) (personalization : AppliedPersonalization) :
    Counters :=
  let analytics := c.analyticsOf personalization.ruleId
  let metrics := c.metricsOf personalization.shown
  { analytics := c.analytics.set personalization.ruleId
      { analytics with totalImpressions := analytics.totalImpressions + 1 }
    metrics := c.metrics.set personalization.shown
      { metrics with impressions := metrics.impressions + 1 } }

/-- The loop body of `trackConversion`. -/
def credit (c : Counters) (personalization : AppliedPersonalization) : Counters :=
  let metrics := c.metricsOf personalization.shown
  { analytics :=
      match c.analytics.get? personalization.ruleId with
      | some analytics => c.analytics.set personalization.ruleId
          { analytics with totalConversions := analytics.totalConversions + 1 }
      | none => c.analytics
    metrics := c.metrics.set personalization.shown
      { metrics with
        conversions := metrics.conversions + 1
        conversionRate := (metrics.conversions + 1 : Nat) / metrics.impressions } }

end Counters

/-- With the history of responses, the newest first with their visitors, and the variations due at
each conversion: those its visitor had received last. -/
structure State where
  now : Nat := 0
  cache : OrderedMap String PersonalizationResponse := OrderedMap.empty
  visitorPersonalizations : OrderedMap String PersonalizationResponse := OrderedMap.empty
  counters : Counters := {}
  returned : List (String × PersonalizationResponse) := []
  due : List (String × String) := []

def isCacheValid (now : Nat) (cached : PersonalizationResponse) : Bool :=
  now - cached.timestamp < 300 * 1000

def State.cached (s : State) (request : PersonalizationRequest) : Option PersonalizationResponse :=
  (s.cache.get? (generateCacheKey request)).filter (isCacheValid s.now)

def State.getPersonalizedContent (service : Service) (s : State)
    (request : PersonalizationRequest) : State × PersonalizationResponse :=
  match s.cached request with
  | some cached => (s, cached)
  | none =>
    let personalizations := service.personalize request
    let response := ⟨request.visitorId, personalizations, s.now⟩
    ({ s with
        counters := personalizations.foldl Counters.trackPersonalizationImpression s.counters
        cache := s.cache.set (generateCacheKey request) response
        visitorPersonalizations := s.visitorPersonalizations.set request.visitorId response },
      response)

def State.trackConversion (s : State) (visitorId : String) : State :=
  match s.visitorPersonalizations.get? visitorId with
  | none => s
  | some response =>
    { s with counters := response.personalizations.foldl Counters.credit s.counters }

def State.lastReceived (s : State) (visitorId : String) : List AppliedPersonalization :=
  ((OrderedMap.lookup visitorId s.returned).map (·.personalizations)).getD []

inductive Label where
  | get (request : PersonalizationRequest)
  | convert (visitorId : String)
  | cleanupCache
  | advance (milliseconds : Nat)

def step (service : Service) (s : State) : Label → Option State
  | .get request =>
    let (answered, response) := s.getPersonalizedContent service request
    some { answered with returned := (request.visitorId, response) :: s.returned }
  | .convert visitorId =>
    some { s.trackConversion visitorId with
      due := s.due ++ (s.lastReceived visitorId).map (·.shown) }
  | .cleanupCache => some { s with cache := s.cache.filter fun _ => isCacheValid s.now }
  | .advance milliseconds => some { s with now := s.now + milliseconds }

def Label.request : Label → Option PersonalizationRequest
  | .get request => some request
  | _ => none

/-- A request with the cache key of this one is made by the same visitor with the same profile. -/
def Alike (request : PersonalizationRequest) (_ : State) (label : Label) : Prop :=
  ∀ earlier ∈ label.request, generateCacheKey earlier = generateCacheKey request →
    earlier.visitorId = request.visitorId ∧
      earlier.psychographicProfile = request.psychographicProfile

/-- The response that the request gets from an evaluation of its own. -/
def Own (service : Service) (request : PersonalizationRequest)
    (response : PersonalizationResponse) : Prop :=
  response.personalizations = service.personalize request ∧ response.visitorId = request.visitorId

variable {service : Service} {request : PersonalizationRequest} {s t : State} {l : Label}

def CacheOwn (service : Service) (request : PersonalizationRequest) (s : State) : Prop :=
  ∀ response ∈ s.cache.get? (generateCacheKey request), Own service request response

lemma personalize_congr {e : PersonalizationRequest}
    (hs : e.psychographicProfile = request.psychographicProfile) :
    service.personalize e = service.personalize request := by
  have he : applyPersonalizationRule service.conversions e =
      applyPersonalizationRule service.conversions request := by
    funext entry
    rw [applyPersonalizationRule, applyPersonalizationRule, hs]
  rw [Service.personalize, Service.personalize, he]

lemma cacheOwn_set (own : CacheOwn service request s) {e : PersonalizationRequest}
    (ha : Alike request s (.get e)) {rs : PersonalizationResponse} (hc : Own service e rs) :
    ∀ found ∈ (s.cache.set (generateCacheKey e) rs).get? (generateCacheKey request),
      Own service request found := by
  intro found mem
  rw [OrderedMap.get?_set] at mem
  split at mem
  · rename_i hs
    obtain ⟨hv, p⟩ := ha e rfl hs
    cases mem
    exact ⟨hc.1.trans (personalize_congr p), hc.2.trans hv⟩
  · exact own found mem

lemma step_cacheOwn (own : CacheOwn service request s) (ha : Alike request s l)
    (hs : step service s l = some t) : CacheOwn service request t := by
  cases l with
  | get earlier =>
    cases hs
    split
    · exact own
    · exact cacheOwn_set own ha ⟨rfl, rfl⟩
  | convert visitorId =>
    cases hs
    rw [State.trackConversion]
    split <;> exact own
  | cleanupCache =>
    cases hs
    exact fun r mem => own r (OrderedMap.get?_of_filter mem)
  | advance milliseconds =>
    cases hs
    exact own

lemma own_of_cacheOwn (own : CacheOwn service request s) :
    Own service request (s.getPersonalizedContent service request).2 := by
  rw [State.getPersonalizedContent]
  split
  · rename_i c hit
    exact own c (Option.mem_def.mpr (Option.filter_eq_some_iff.mp hit).1)
  · exact ⟨rfl, rfl⟩

/-- While requests with its cache key come from one visitor with one profile, a request is answered
with its own evaluation, whatever the histories were. -/
theorem own_response_of_alike {ls ms : List Label}
    (first : Run (step service) (Alike request) {} ls s)
    (second : Run (step service) (Alike request) {} ms t) :
    Own service request (s.getPersonalizedContent service request).2 ∧
      (s.getPersonalizedContent service request).2.personalizations =
        (t.getPersonalizedContent service request).2.personalizations := by
  have hi : CacheOwn service request {} := nofun
  have one := own_of_cacheOwn (first.invariant (CacheOwn service request)
    (fun _ _ _ => step_cacheOwn) hi)
  have ho := own_of_cacheOwn (second.invariant (CacheOwn service request)
    (fun _ _ _ => step_cacheOwn) hi)
  exact ⟨one, one.1.trans ho.1.symm⟩

def stages : Service where
  conversions := .plain
  rules := OrderedMap.empty.set "headline"
    { conditions := []
      variations := [⟨"early", "Learn more", { buyingJourneyStage := ["awareness"] }, 1, 0⟩,
        ⟨"late", "Buy now", { buyingJourneyStage := ["decision"] }, 1, 0⟩]
      priority := 1
      active := true }

/-- A request of a visitor at a stage of the journey; the cache key does not have the stage. -/
def requestAt (visitorId url stage : String) : PersonalizationRequest where
  visitorId := visitorId
  url := url
  psychographicProfile := some ⟨"analytical", "low", "price", "direct", stage, 1, fun _ => .null⟩
  device := ""

theorem otherPage_keeps_response :
    ∃ s, Run (step stages) (Alike (requestAt "a" "/" "decision")) {}
        [.get (requestAt "b" "/pricing" "awareness")] s ∧
      Own stages (requestAt "a" "/" "decision")
        (s.getPersonalizedContent stages (requestAt "a" "/" "decision")).2 := by
  have ho : Alike (requestAt "a" "/" "decision") {}
      (.get (requestAt "b" "/pricing" "awareness")) := by
    rintro earlier ⟨⟩ hs
    exact absurd hs (by decide)
  have run : Run (step stages) _ {} _ _ := .single ho rfl
  exact ⟨_, run, (own_response_of_alike run (.nil _)).1⟩

/-- A visitor ready to buy gets what was chosen for another visitor, with that visitor's id. -/
theorem cached_response_interferes :
    ∃ s, Run (step stages) Always {} [.get (requestAt "b" "/" "awareness")] s ∧
      let response := (s.getPersonalizedContent stages (requestAt "a" "/" "decision")).2
      let alone := (State.getPersonalizedContent stages {} (requestAt "a" "/" "decision")).2
      (response.visitorId, response.personalizations.map (·.variationId)) = ("b", ["early"]) ∧
      (alone.visitorId, alone.personalizations.map (·.variationId)) = ("a", ["late"]) :=
  exists_run_seen (by decide +kernel)

end DynamicPersonalization
