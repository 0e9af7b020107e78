import Mathlib.Analysis.Complex.Exponential

/-!
# Attribution of a conversion to an exposure

`calculateAttribution` attributes a conversion to the exposure with the highest influence. The
influence decays with the time since the first exposure, so this is always the first. Numbers are
those of an ordered field, with `Math.exp` for a parameter.
-/

namespace ExposureAttribution

open List

structure Exposure (K : Type*) where
  experimentId : String
  variationId : String
  timestamp : K
  pageUrl : Option String
  action : Option String

structure TouchpointData (K : Type*) where
  experimentId : String
  variationId : String
  timestamp : K
  pageUrl : String
  action : String
  influence : K

structure AttributionData (K : Type*) where
  experimentId : String
  variationId : String
  testStartDate : K
  exposureTime : K
  conversionTime : K
  timesToConversion : K
  touchpoints : List (TouchpointData K)
  confidence : K

variable {K : Type*} [Field K] [LinearOrder K]

/-- `text || default` -/
def orText (text : Option String) (default : String) : String :=
  (text.filter (· ≠ "")).getD default

def touchpoint (exp : K → K) (firstExposure lastExposure : Exposure K) (length : Nat)
    (exposure : Exposure K) : TouchpointData K :=
  let totalTimespan := lastExposure.timestamp - firstExposure.timestamp
  let timeSinceFirst := exposure.timestamp - firstExposure.timestamp
  { experimentId := exposure.experimentId
    variationId := exposure.variationId
    timestamp := exposure.timestamp
    pageUrl := orText exposure.pageUrl ""
    action := orText exposure.action "view"
    influence :=
      if 0 < totalTimespan then exp (-timeSinceFirst / (totalTimespan / 2)) else 1 / length }

def TouchpointData.normalize (totalInfluence : K) (tp : TouchpointData K) : TouchpointData K :=
  { tp with influence := tp.influence / totalInfluence }

def higher (prev current : TouchpointData K) : TouchpointData K :=
  if prev.influence < current.influence then current else prev

/-- `Date.now()` is read twice, as `now` and `later`. -/
def calculateAttribution (exp : K → K) (now later : K) :
    List (Exposure K) → Except String (AttributionData K)
  | [] => .error "No exposures to calculate attribution"
  | firstExposure :: rest =>
    let lastExposure := rest.getLastD firstExposure
    let weigh := touchpoint exp firstExposure lastExposure (rest.length + 1)
    let totalInfluence := ((firstExposure :: rest).map fun e => (weigh e).influence).sum
    let normalized := fun e => (weigh e).normalize totalInfluence
    let primaryTouchpoint := (rest.map normalized).foldl higher (normalized firstExposure)
    .ok {
      experimentId := primaryTouchpoint.experimentId
      variationId := primaryTouchpoint.variationId
      testStartDate := firstExposure.timestamp
      exposureTime := firstExposure.timestamp
      conversionTime := now
      timesToConversion := later - firstExposure.timestamp
      touchpoints := (firstExposure :: rest).map normalized
      confidence := min (95 / 100) totalInfluence }

/-- Last touch with time decay. -/
structure LastTouch (exposures : List (Exposure K)) (data : AttributionData K) : Prop where
  total : (data.touchpoints.map (·.influence)).sum = 1
  ordered : data.touchpoints.Pairwise (·.influence ≤ ·.influence)
  last : ∀ e ∈ exposures.getLast?,
    data.experimentId = e.experimentId ∧ data.variationId = e.variationId

/-- What the code computes instead: first touch with time decay. -/
structure FirstTouch (exposures : List (Exposure K)) (data : AttributionData K) : Prop where
  total : (data.touchpoints.map (·.influence)).sum = 1
  ordered : data.touchpoints.Pairwise (·.influence > ·.influence)
  length : data.touchpoints.length = exposures.length
  first : ∀ e ∈ exposures.head?,
    data.experimentId = e.experimentId ∧ data.variationId = e.variationId

lemma FirstTouch.not_lastTouch {es : List (Exposure K)} {data : AttributionData K}
    (h : FirstTouch es data) (two : 2 ≤ es.length) : ¬ LastTouch es data := by
  intro l
  rw [← h.length] at two
  have h₀ := pairwise_iff_getElem.mp h.ordered 0 1 (by omega) (by omega) (by omega)
  have h₁ := pairwise_iff_getElem.mp l.ordered 0 1 (by omega) (by omega) (by omega)
  exact absurd h₁ (not_le.mpr h₀)

omit [Field K] in
lemma foldl_higher {tp : TouchpointData K} {tps : List (TouchpointData K)}
    (h : ∀ x ∈ tps, x.influence ≤ tp.influence) : tps.foldl higher tp = tp := by
  refine foldlRecOn (motive := (· = tp)) _ _ rfl fun _ hk x mem => ?_
  rw [hk, higher, if_neg (not_lt.mpr (h x mem))]

variable [IsStrictOrderedRing K]

lemma influence_lt {exp : K → K} (h : StrictMono exp) {first l a b : Exposure K}
    (hs : first.timestamp < l.timestamp) (hab : a.timestamp < b.timestamp) (n : Nat) :
    (touchpoint exp first l n b).influence < (touchpoint exp first l n a).influence := by
  have pos : 0 < l.timestamp - first.timestamp := sub_pos.mpr hs
  simp only [touchpoint, if_pos pos]
  apply h
  gcongr

variable {exp : K → K} (hp : ∀ x, 0 < exp x) (hi : StrictMono exp) (now later : K)
  {first second : Exposure K} {rest : List (Exposure K)}
  (hs : (first :: second :: rest).Pairwise (·.timestamp < ·.timestamp))

include hp hi hs

lemma firstTouch_calculateAttribution : ∃ data,
    calculateAttribution exp now later (first :: second :: rest) = .ok data ∧
      FirstTouch (first :: second :: rest) data := by
  generalize hl : (second :: rest).getLastD first = last
  have span : first.timestamp < last.timestamp := by
    rw [← hl, getLastD_eq_getLast?, getLast?_eq_some_getLast (cons_ne_nil second rest),
      Option.getD_some]
    exact (pairwise_cons.mp hs).1 _ (getLast_mem _)
  generalize hw : touchpoint exp first last ((second :: rest).length + 1) = weigh
  generalize ht : ((first :: second :: rest).map fun e => (weigh e).influence).sum = total
  have htotal : 0 < total := by
    rw [← ht]
    apply sum_pos _ _ (by simp)
    intro x mem
    obtain ⟨e, -, rfl⟩ := mem_map.mp mem
    rw [← hw, touchpoint, if_pos (sub_pos.mpr span)]
    exact hp _
  have less : (first :: second :: rest).Pairwise fun a b =>
      ((weigh a).normalize total).influence > ((weigh b).normalize total).influence := by
    refine hs.imp fun {a b} hab => ?_
    have lt := influence_lt hi span hab ((second :: rest).length + 1)
    rw [hw] at lt
    exact div_lt_div_of_pos_right lt htotal
  have highest : ((second :: rest).map fun e => (weigh e).normalize total).foldl higher
      ((weigh first).normalize total) = (weigh first).normalize total := by
    apply foldl_higher
    intro x mem
    obtain ⟨e, he, rfl⟩ := mem_map.mp mem
    exact ((pairwise_cons.mp less).1 e he).le
  refine ⟨_, rfl, ?_⟩
  simp only [hl, hw, ht, highest]
  refine ⟨?_, pairwise_map.mpr less, length_map .., ?_⟩
  · rw [map_map, ← div_self htotal.ne', div_eq_mul_inv]
    nth_rewrite 2 [← ht]
    rw [← sum_map_mul_right]
    exact congrArg sum (map_congr_left fun _ _ => div_eq_mul_inv ..)
  · rintro e ⟨⟩
    rw [← hw]
    exact ⟨rfl, rfl⟩

theorem attributes_first : ∃ data,
    calculateAttribution exp now later (first :: second :: rest) = .ok data ∧
      FirstTouch (first :: second :: rest) data ∧ ¬ LastTouch (first :: second :: rest) data := by
  obtain ⟨data, r, h⟩ := firstTouch_calculateAttribution hp hi now later hs
  exact ⟨data, r, h, h.not_lastTouch (by simp)⟩

omit hp hi hs

def banner : Exposure ℝ := ⟨"banner", "blue", 0, some "/", none⟩
def checkout : Exposure ℝ := ⟨"checkout", "short", 1, some "/cart", some "click"⟩

lemma banner_first : [banner, checkout].Pairwise (·.timestamp < ·.timestamp) := by
  simp [banner, checkout]

theorem banner_attributed : ∃ data,
    calculateAttribution Real.exp 2 2 [banner, checkout] = .ok data ∧
      FirstTouch [banner, checkout] data ∧ ¬ LastTouch [banner, checkout] data :=
  attributes_first Real.exp_pos Real.exp_strictMono 2 2 banner_first

/-- The last exposure is of another experiment. -/
theorem checkout_not_attributed : ∃ data,
    calculateAttribution Real.exp 2 2 [banner, checkout] = .ok data ∧
      data.experimentId = "banner" ∧ ¬ LastTouch [banner, checkout] data := by
  obtain ⟨data, r, h⟩ :=
    firstTouch_calculateAttribution Real.exp_pos Real.exp_strictMono 2 2 banner_first
  exact ⟨data, r, (h.first _ rfl).1, h.not_lastTouch le_rfl⟩

end ExposureAttribution
