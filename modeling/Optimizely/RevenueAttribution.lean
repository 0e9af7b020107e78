import Mathlib.Tactic
import Optimizely.OrderedMap

/-!
# Revenue attribution

`calculateAttribution` distributes the amount of a revenue event over the channels of its
touchpoints. Numbers are exact. Powers of 0.5 and the conditions of custom models, evaluated as
JavaScript, belong to the environment.
-/

namespace RevenueAttribution

open List OrderedMap

inductive Position where
  | first
  | middle
  | last
  | only
  deriving DecidableEq

/-- A `Date`, or the ISO text that `JSON.stringify` makes of one. -/
inductive Timestamp where
  | date (ms : Int)
  | text (ms : Int)
  deriving DecidableEq

structure AttributionTouchpoint where
  id : String
  sessionId : String
  visitorId : String
  timestamp : Timestamp
  channel : String
  campaign : Option String
  position : Position
  conversionDistance : Int
  deriving DecidableEq

inductive ModelType where
  | firstTouch
  | lastTouch
  | linear
  | timeDecay
  | positionBased
  | dataDriven
  | custom
  deriving DecidableEq

structure AttributionWeightingRule where
  condition : String
  weight : Rat
  deriving DecidableEq

structure ModelParameters where
  halfLife : Option Rat
  firstTouchWeight : Option Rat
  lastTouchWeight : Option Rat
  middleTouchWeight : Option Rat
  deriving DecidableEq

structure AttributionModel where
  id : String
  type : ModelType
  parameters : ModelParameters
  weightingRules : List AttributionWeightingRule
  isActive : Bool
  deriving DecidableEq

structure RevenueEvent where
  id : String
  visitorId : String
  amount : Rat
  timestamp : Timestamp
  touchpoints : List AttributionTouchpoint
  deriving DecidableEq

/-- The names of `Object.prototype`, which a plain object has without an entry. -/
def inheritedNames : List String :=
  ["constructor", "hasOwnProperty", "isPrototypeOf", "propertyIsEnumerable", "toLocaleString",
    "toString", "valueOf", "__defineGetter__", "__defineSetter__", "__lookupGetter__",
    "__lookupSetter__", "__proto__"]

/-- Then a plain object keyed by the channels of the event is a map. -/
def OwnChannels (event : RevenueEvent) : Prop :=
  ∀ tp ∈ event.touchpoints, tp.channel ∉ inheritedNames

/-- Attributed revenue by channel. -/
abbrev Attribution := OrderedMap String Rat

structure Environment where
  /-- `Math.pow(0.5, x)` -/
  halfPower : Rat → Rat
  /-- The conversion rates cached in Redis. -/
  cachedRates : Option (OrderedMap String Rat)
  evaluateCondition : String → AttributionTouchpoint → Bool

/-- `value || default` for numbers. -/
def orElse (value : Option Rat) (default : Rat) : Rat :=
  match value with
  | some q => if q = 0 then default else q
  | none => default

lemma orElse_pos {v : Option Rat} {default : Rat} (hdf : 0 < default)
    (hv : ∀ q, v = some q → 0 < q) : 0 < orElse v default := by
  cases v with
  | none => exact hdf
  | some q =>
    have hq := hv q rfl
    simpa [orElse, ne_of_gt hq] using hq

def getPositionMultiplier : Position → Rat
  | .first => 12 / 10
  | .last => 15 / 10
  | .only => 2
  | .middle => 8 / 10

lemma getPositionMultiplier_pos (pos : Position) : 0 < getPositionMultiplier pos := by
  cases pos <;> norm_num [getPositionMultiplier]

def calculateChannelConversionRates : OrderedMap String Rat where
  entries := [("paid_search", 5 / 100), ("organic_search", 3 / 100), ("social", 2 / 100),
    ("email", 8 / 100), ("direct", 4 / 100), ("referral", 25 / 1000), ("display", 15 / 1000)]
  nodup := by decide

def getChannelConversionRates (env : Environment) : OrderedMap String Rat :=
  env.cachedRates.getD calculateChannelConversionRates

/-- Shares of the revenue in proportion to weights, added up by channel. -/
def distribute (weight : AttributionTouchpoint → Rat) (touchpoints : List AttributionTouchpoint)
    (revenue : Rat) : Attribution :=
  let totalWeight := (touchpoints.map weight).sum
  touchpoints.foldl
    (fun attribution tp => attribution.addTo tp.channel (weight tp / totalWeight * revenue))
    .empty

def calculateTimeDecayAttribution (env : Environment) (touchpoints : List AttributionTouchpoint)
    (revenue : Rat) (parameters : ModelParameters) : Attribution :=
  let halfLife := orElse parameters.halfLife 7
  distribute (fun tp => env.halfPower (tp.conversionDistance / halfLife)) touchpoints revenue

def dataDrivenWeight (env : Environment) (tp : AttributionTouchpoint) : Rat :=
  orElse ((getChannelConversionRates env).get? tp.channel) (1 / 100) *
    getPositionMultiplier tp.position

def calculateDataDrivenAttribution (env : Environment) (touchpoints : List AttributionTouchpoint)
    (revenue : Rat) : Attribution :=
  distribute (dataDrivenWeight env) touchpoints revenue

def calculateCustomAttribution (env : Environment) (touchpoints : List AttributionTouchpoint)
    (revenue : Rat) (model : AttributionModel) : Attribution :=
  model.weightingRules.foldl (fun attribution rule =>
    let matching := touchpoints.filter (env.evaluateCondition rule.condition)
    let totalWeight := (matching.map fun _ => rule.weight).sum
    matching.foldl
      (fun attribution tp => attribution.addTo tp.channel (rule.weight / totalWeight * revenue))
      attribution) .empty

/-- The path `first, middle, last` of two or more touchpoints; a path of one gets all. -/
def calculatePositionBasedAttribution (touchpoints : List AttributionTouchpoint)
    (revenue : Rat) (parameters : ModelParameters) : Attribution :=
  let firstTouchWeight := orElse parameters.firstTouchWeight (4 / 10)
  let lastTouchWeight := orElse parameters.lastTouchWeight (4 / 10)
  let middleTouchWeight := orElse parameters.middleTouchWeight (2 / 10)
  match touchpoints with
  | [] => .empty
  | [tp] => OrderedMap.empty.set tp.channel revenue
  | first :: second :: rest =>
    let last := (second :: rest).getLast (by simp)
    let ends := (OrderedMap.empty.set first.channel (revenue * firstTouchWeight)).addTo
      last.channel (revenue * lastTouchWeight)
    let middle := (second :: rest).dropLast
    if 2 < touchpoints.length then
      middle.foldl (fun attribution tp => attribution.addTo tp.channel
        (revenue * middleTouchWeight / middle.length)) ends
    else ends

def calculateAttribution (env : Environment) (revenueEvent : RevenueEvent)
    (model : AttributionModel) : Attribution :=
  let amount := revenueEvent.amount
  match revenueEvent.touchpoints with
  | [] => .empty
  | first :: rest =>
    let touchpoints := first :: rest
    match model.type with
    | .firstTouch => OrderedMap.empty.set first.channel amount
    | .lastTouch => OrderedMap.empty.set (touchpoints.getLast (by simp)).channel amount
    | .linear => touchpoints.foldl
        (fun attribution tp => attribution.addTo tp.channel (amount / touchpoints.length)) .empty
    | .timeDecay => calculateTimeDecayAttribution env touchpoints amount model.parameters
    | .positionBased => calculatePositionBasedAttribution touchpoints amount model.parameters
    | .dataDriven => calculateDataDrivenAttribution env touchpoints amount
    | .custom => calculateCustomAttribution env touchpoints amount model

variable {touchpoints : List AttributionTouchpoint} {parameters : ModelParameters}

lemma sum_map_weight_pos {wg : AttributionTouchpoint → Rat} (hp : ∀ tp, 0 < wg tp)
    (hn : touchpoints ≠ []) : 0 < (touchpoints.map wg).sum := by
  apply sum_pos
  · intro w hw
    obtain ⟨tp, -, rfl⟩ := mem_map.mp hw
    exact hp tp
  · simpa using hn

lemma distribute_conserves {w : AttributionTouchpoint → Rat} (hp : ∀ tp, 0 < w tp)
    (hn : touchpoints ≠ []) (revenue : Rat) :
    (distribute w touchpoints revenue).values.sum = revenue := by
  have ht := sum_map_weight_pos hp hn
  rw [distribute, sum_values_foldl_addTo]
  have hs : (touchpoints.map fun tp => w tp / (touchpoints.map w).sum * revenue).sum =
      (touchpoints.map w).sum / (touchpoints.map w).sum * revenue := by
    simp only [div_eq_mul_inv, sum_map_mul_right]
  rw [hs, div_self (ne_of_gt ht), one_mul]
  exact zero_add revenue

lemma equal_shares_conserve (hn : touchpoints ≠ []) (amount : Rat) (start : Attribution) :
    (touchpoints.foldl (fun a tp =>
      a.addTo tp.channel (amount / touchpoints.length)) start).values.sum =
      start.values.sum + amount := by
  have hl : (touchpoints.length : Rat) ≠ 0 := by
    simpa using hn
  rw [sum_values_foldl_addTo]
  simp only [map_const', sum_replicate, nsmul_eq_mul]
  rw [mul_div_cancel₀ amount hl]

/-- The weights that a position based model uses unless it sets others. -/
def DefaultWeights (parameters : ModelParameters) : Prop :=
  orElse parameters.firstTouchWeight (4 / 10) = 4 / 10 ∧
  orElse parameters.lastTouchWeight (4 / 10) = 4 / 10 ∧
  orElse parameters.middleTouchWeight (2 / 10) = 2 / 10

lemma positionBased_pair (first l : AttributionTouchpoint) (rv : Rat)
    (hdf : DefaultWeights parameters) :
    (calculatePositionBasedAttribution [first, l] rv parameters).values.sum = rv * (8 / 10) := by
  obtain ⟨hf, hl, -⟩ := hdf
  simp only [calculatePositionBasedAttribution, hf, hl, length_cons, length_nil,
    lt_self_iff_false, if_false, sum_values_addTo, values_set_empty, sum_singleton]
  ring

lemma positionBased_long (first s t : AttributionTouchpoint)
    (r : List AttributionTouchpoint) (revenue : Rat) (hdf : DefaultWeights parameters) :
    (calculatePositionBasedAttribution (first :: s :: t :: r) revenue
      parameters).values.sum = revenue := by
  obtain ⟨hf, hl, hm⟩ := hdf
  have hln : 2 < (first :: s :: t :: r).length := by simp
  have hmd : (s :: t :: r).dropLast ≠ [] := by simp
  simp only [calculatePositionBasedAttribution, hf, hl, hm, if_pos hln]
  rw [equal_shares_conserve hmd, sum_values_addTo, values_set_empty, sum_singleton]
  ring

/-- A path of two touchpoints has no middle, so under a position based model the middle
share goes to nobody. -/
def LosesMiddleShare (revenueEvent : RevenueEvent) (model : AttributionModel) : Prop :=
  model.type = .positionBased ∧ revenueEvent.touchpoints.length = 2 ∧ revenueEvent.amount ≠ 0

lemma positionBased_conserves_iff (hn : touchpoints ≠ []) (rv : Rat)
    (hdf : DefaultWeights parameters) :
    (calculatePositionBasedAttribution touchpoints rv parameters).values.sum = rv ↔
      ¬ (touchpoints.length = 2 ∧ rv ≠ 0) := by
  match touchpoints with
  | [] => exact absurd rfl hn
  | [tp] => simp [calculatePositionBasedAttribution]
  | [first, last] =>
    rw [positionBased_pair first last rv hdf]
    constructor
    · rintro h ⟨-, hnz⟩
      apply hnz
      linarith
    · intro h
      have hz : rv = 0 := by
        by_contra hnz
        exact h ⟨rfl, hnz⟩
      simp [hz]
  | first :: s :: t :: r =>
    rw [positionBased_long first s t r rv hdf]
    simp

lemma calculateChannelConversionRates_pos {c : String} {rate : Rat}
    (mem : (c, rate) ∈ calculateChannelConversionRates.entries) : 0 < rate := by
  simp only [calculateChannelConversionRates, mem_cons, Prod.mk.injEq, not_mem_nil, or_false] at mem
  rcases mem with ⟨-, rfl⟩ | ⟨-, rfl⟩ | ⟨-, rfl⟩ | ⟨-, rfl⟩ | ⟨-, rfl⟩ | ⟨-, rfl⟩ | ⟨-, rfl⟩ <;>
    norm_num

lemma dataDrivenWeight_pos {env : Environment} (rt : ∀ rt, env.cachedRates = some rt →
      ∀ c r, rt.get? c = some r → 0 < r)
    (tp : AttributionTouchpoint) : 0 < dataDrivenWeight env tp := by
  apply mul_pos _ (getPositionMultiplier_pos tp.position)
  apply orElse_pos (by norm_num)
  intro r hr
  cases hc : env.cachedRates with
  | some cc =>
    simp only [getChannelConversionRates, hc, Option.getD_some] at hr
    exact rt cc hc tp.channel r hr
  | none =>
    simp only [getChannelConversionRates, hc, Option.getD_none] at hr
    exact calculateChannelConversionRates_pos (mem_of_get? hr)

/-- With positive powers and rates and channels that are own keys, every built-in model distributes
exactly the amount of the event, except for the lost middle share. -/
theorem conserves_iff_not_losesMiddleShare (env : Environment) (powers : ∀ x, 0 < env.halfPower x)
    (rates : ∀ rates, env.cachedRates = some rates →
      ∀ channel rate, rates.get? channel = some rate → 0 < rate)
    (revenueEvent : RevenueEvent) (nonempty : revenueEvent.touchpoints ≠ [])
    (_own : OwnChannels revenueEvent) (model : AttributionModel) (builtIn : model.type ≠ .custom)
    (defaults : model.type = .positionBased → DefaultWeights model.parameters) :
    (calculateAttribution env revenueEvent model).values.sum = revenueEvent.amount ↔
      ¬ LosesMiddleShare revenueEvent model := by
  unfold LosesMiddleShare calculateAttribution
  match hpath : revenueEvent.touchpoints with
  | [] => exact absurd hpath nonempty
  | first :: r =>
    have hpt : first :: r ≠ [] := by simp
    cases ht : model.type with
    | firstTouch | lastTouch => simp
    | linear =>
      have hs := equal_shares_conserve hpt revenueEvent.amount .empty
      simpa using hs
    | timeDecay =>
      have hs := distribute_conserves (fun tp => powers
        (tp.conversionDistance / orElse model.parameters.halfLife 7)) hpt revenueEvent.amount
      simpa [calculateTimeDecayAttribution] using hs
    | positionBased =>
      have hp := positionBased_conserves_iff hpt revenueEvent.amount (defaults ht)
      simpa using hp
    | dataDriven =>
      have hs := distribute_conserves (dataDrivenWeight_pos rates) hpt revenueEvent.amount
      simpa [calculateDataDrivenAttribution] using hs
    | custom => exact absurd ht builtIn

/-- `Math.pow(0.5, x)` at 0, no cached rates, no custom conditions. -/
def plainEnvironment : Environment where
  halfPower := fun _ => 1
  cachedRates := none
  evaluateCondition := fun _ _ => false

def touch (id channel : String) (position : Position) : AttributionTouchpoint where
  id := id
  sessionId := "s1"
  visitorId := "v1"
  timestamp := .text 0
  channel := channel
  campaign := none
  position := position
  conversionDistance := 0

def purchase : RevenueEvent where
  id := "r1"
  visitorId := "v1"
  amount := 100
  timestamp := .date 0
  touchpoints := [touch "t1" "email" .first, touch "t2" "direct" .last]

def plainModel (type : ModelType) : AttributionModel where
  id := "m1"
  type := type
  parameters := ⟨none, none, none, none⟩
  weightingRules := []
  isActive := true

theorem purchase_loses_middle_share :
    (calculateAttribution plainEnvironment purchase (plainModel .positionBased)).values.sum = 80 ∧
    (calculateAttribution plainEnvironment purchase (plainModel .positionBased)).values.sum ≠
      purchase.amount := by
  have hs : (calculateAttribution plainEnvironment purchase
      (plainModel .positionBased)).values.sum = 100 * (8 / 10) :=
    positionBased_pair _ _ 100 ⟨rfl, rfl, rfl⟩
  rw [hs]
  norm_num [purchase]

theorem purchase_conserved_by_timeDecay :
    (calculateAttribution plainEnvironment purchase (plainModel .timeDecay)).values.sum = 100 := by
  have hc := conserves_iff_not_losesMiddleShare plainEnvironment
    (by intro x; norm_num [plainEnvironment]) (by intro rates h; cases h) purchase
    (by simp [purchase]) (by unfold OwnChannels; decide) (plainModel .timeDecay)
    (by simp [plainModel]) (by intro h; cases h)
  apply hc.mpr
  rintro ⟨h, -, -⟩
  cases h

end RevenueAttribution
