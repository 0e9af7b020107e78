import Optimizely.JsValue
import Optimizely.TouchpointSequence

/-!
# Overlapping rules and the report

Every weighting rule of a custom model distributes the whole amount over the touchpoints that it
matches. The report adds the revenue of a channel to a campaign once for each touchpoint, and throws
at the path of every event with touchpoints: a stored event has a text for its time.
-/

namespace CampaignRevenue

open RevenueAttribution TouchpointSequence List OrderedMap

structure CampaignAttribution where
  campaign : String
  channel : String
  attributedRevenue : Rat
  percentage : Rat

structure ConversionPath where
  id : String
  touchpoints : List AttributionTouchpoint
  revenue : Rat
  conversionTime : Rat
  frequency : Nat
  percentage : Rat

structure Totals where
  totalRevenue : Rat
  attributedRevenue : Rat
  campaignRevenue : OrderedMap String Attribution
  conversionPaths : List ConversionPath

structure AttributionReport where
  totalRevenue : Rat
  attributedRevenue : Rat
  unattributedRevenue : Rat
  campaignAttribution : List CampaignAttribution

def addToCampaign (campaignRevenue : OrderedMap String Attribution) (campaign channel : String)
    (revenue : Rat) : OrderedMap String Attribution :=
  campaignRevenue.set campaign (((campaignRevenue.get? campaign).getD .empty).addTo channel revenue)

/-- The aggregation by campaign that the report makes for each event. -/
def aggregateByCampaign (attribution : Attribution) (touchpoints : List AttributionTouchpoint)
    (campaignRevenue : OrderedMap String Attribution) : OrderedMap String Attribution :=
  touchpoints.foldl (fun campaignRevenue tp =>
    match truthyText tp.campaign with
    | some campaign =>
      addToCampaign campaignRevenue campaign tp.channel ((attribution.get? tp.channel).getD 0)
    | none => campaignRevenue) campaignRevenue

def createConversionPath (event : RevenueEvent) : Except JsError ConversionPath := do
  let conversionTime : Rat ← if 0 < event.touchpoints.length then do
      let converted ← getTime "event.timestamp" event.timestamp
      let touched ← event.touchpoints.mapM fun tp => getTime "tp.timestamp" tp.timestamp
      pure ((converted - touched.min?.getD 0) / (24 * 60 * 60 * 1000))
    else pure 0
  return ⟨"path_" ++ event.id, event.touchpoints, event.amount, conversionTime, 1, 0⟩

/-- The loop body of `calculateAttributionReport`. -/
def reportEvent (env : Environment) (model : AttributionModel) (totals : Totals)
    (event : RevenueEvent) : Except JsError Totals := do
  let attribution := calculateAttribution env event model
  let path ← createConversionPath event
  return {
    totalRevenue := totals.totalRevenue + event.amount
    attributedRevenue := totals.attributedRevenue + attribution.values.sum
    campaignRevenue := aggregateByCampaign attribution event.touchpoints totals.campaignRevenue
    conversionPaths := totals.conversionPaths ++ [path] }

def createCampaignAttribution (campaignRevenue : OrderedMap String Attribution) :
    List CampaignAttribution :=
  let campaigns : List CampaignAttribution := campaignRevenue.entries.flatMap fun e =>
    e.2.entries.map fun channel => ⟨e.1, channel.1, channel.2, 0⟩
  let totalRevenue := (campaigns.map (·.attributedRevenue)).sum
  let percentage (revenue : Rat) := if 0 < totalRevenue then revenue / totalRevenue * 100 else 0
  (campaigns.map fun c => { c with percentage := percentage c.attributedRevenue }).mergeSort
    fun a b => b.attributedRevenue ≤ a.attributedRevenue

/-- The report on the events of a timeframe, which Redis keeps as JSON. -/
def calculateAttributionReport (env : Environment) (model : AttributionModel)
    (revenueEvents : List RevenueEvent) : Except JsError AttributionReport := do
  let totals ← (revenueEvents.map stringifyEvent).foldlM (reportEvent env model) ⟨0, 0, .empty, []⟩
  return {
    totalRevenue := totals.totalRevenue
    attributedRevenue := totals.attributedRevenue
    unattributedRevenue := totals.totalRevenue - totals.attributedRevenue
    campaignAttribution := createCampaignAttribution totals.campaignRevenue }

def campaignTotal (report : AttributionReport) : Rat :=
  (report.campaignAttribution.map (·.attributedRevenue)).sum

/-- At most the amount is attributed, and in a report the event adds at most as much to the
campaigns as to the attributed revenue. -/
structure AtMostAmount (env : Environment) (event : RevenueEvent) (model : AttributionModel) :
    Prop where
  attributed : (calculateAttribution env event model).values.sum ≤ event.amount
  reported : ∀ events report report', calculateAttributionReport env model events = .ok report →
    calculateAttributionReport env model (events ++ [event]) = .ok report' →
    campaignTotal report' - campaignTotal report ≤
      report'.attributedRevenue - report.attributedRevenue

def matching (env : Environment) (touchpoints : List AttributionTouchpoint)
    (rule : AttributionWeightingRule) : List AttributionTouchpoint :=
  touchpoints.filter (env.evaluateCondition rule.condition)

/-- The rules that match some touchpoint of the event. -/
def matchingRules (env : Environment) (event : RevenueEvent) (model : AttributionModel) : Nat :=
  model.weightingRules.countP fun rule => matching env event.touchpoints rule ≠ []

variable {env : Environment} {tps : List AttributionTouchpoint} {x : Rat}

lemma sum_rule {r : AttributionWeightingRule} (hw : 0 < r.weight) (a : Attribution) :
    ((matching env tps r).foldl (fun a tp => a.addTo tp.channel
      (r.weight / ((matching env tps r).map fun _ => r.weight).sum * x)) a).values.sum =
      a.values.sum + if matching env tps r ≠ [] then x else 0 := by
  rw [sum_values_foldl_addTo]
  by_cases hm : matching env tps r = []
  · simp [hm]
  · have hl : ((matching env tps r).length : Rat) ≠ 0 := by simpa using hm
    simp only [map_const', sum_replicate, nsmul_eq_mul, if_pos hm]
    rw [div_mul_cancel_right₀ hw.ne', mul_inv_cancel_left₀ hl]

lemma sum_custom {m : AttributionModel} (hw : ∀ r ∈ m.weightingRules, 0 < r.weight) :
    (calculateCustomAttribution env tps x m).values.sum =
      m.weightingRules.countP (fun r => matching env tps r ≠ []) * x := by
  have hfl : ∀ rs : List AttributionWeightingRule, (∀ r ∈ rs, 0 < r.weight) → ∀ a : Attribution,
      (rs.foldl (fun a r => (matching env tps r).foldl (fun a tp => a.addTo tp.channel
        (r.weight / ((matching env tps r).map fun _ => r.weight).sum * x)) a) a).values.sum =
      a.values.sum + rs.countP (fun r => matching env tps r ≠ []) * x := by
    intro rs hw
    induction rs with
    | nil => simp
    | cons r rs ih =>
      intro a
      obtain ⟨hr, hw⟩ := forall_mem_cons.mp hw
      rw [foldl_cons, ih hw, sum_rule hr, countP_cons]
      by_cases hm : matching env tps r = [] <;> simp [hm]
      ring
  exact (hfl _ hw .empty).trans (zero_add _)

lemma reportEvent_cons {m : AttributionModel} {e : RevenueEvent} {tp : AttributionTouchpoint}
    (h : e.touchpoints = tp :: tps) (t : Totals) : reportEvent env m t (stringifyEvent e) =
      .error (.notAFunction "event.timestamp.getTime") := by
  simp [reportEvent, createConversionPath, stringifyEvent, h, reread, getTime, bind, Except.bind]

/-- An event without touchpoints adds nothing to campaigns, and for others there is no report. -/
lemma reported {m : AttributionModel} {e : RevenueEvent} {es : List RevenueEvent}
    {r r' : AttributionReport} (h : calculateAttributionReport env m es = .ok r)
    (h' : calculateAttributionReport env m (es ++ [e]) = .ok r') :
    campaignTotal r' = campaignTotal r ∧ r'.attributedRevenue = r.attributedRevenue := by
  simp only [calculateAttributionReport, map_append, foldlM_append] at h h'
  cases hf : (es.map stringifyEvent).foldlM (reportEvent env m) ⟨0, 0, .empty, []⟩ with
  | error thrown =>
    rw [hf] at h
    cases h
  | ok totals =>
    rw [hf] at h h'
    cases h
    cases ht : e.touchpoints with
    | nil =>
      simp [reportEvent, createConversionPath, stringifyEvent, ht, bind, Except.bind, pure,
        Except.pure] at h'
      cases h'
      simp [campaignTotal, aggregateByCampaign, calculateAttribution]
    | cons tp tps =>
      simp [reportEvent_cons ht, bind, Except.bind] at h'

/-- The amount bounds the attribution just when not too many rules match, and what is reported is
bounded always. -/
theorem atMostAmount_iff (env : Environment) (event : RevenueEvent) (_own : OwnChannels event)
    (_campaigns : ∀ tp ∈ event.touchpoints, ∀ campaign ∈ tp.campaign, campaign ∉ inheritedNames)
    (model : AttributionModel) (custom : model.type = .custom)
    (weights : ∀ rule ∈ model.weightingRules, 0 < rule.weight) :
    AtMostAmount env event model ↔ matchingRules env event model * event.amount ≤ event.amount := by
  have ha : calculateAttribution env event model =
      calculateCustomAttribution env event.touchpoints event.amount model := by
    rw [calculateAttribution, custom]
    cases event.touchpoints with
    | nil =>
      rw [calculateCustomAttribution]
      simp
    | cons tp tps => rfl
  rw [matchingRules, ← sum_custom weights, ← ha]
  refine ⟨AtMostAmount.attributed, fun h => ⟨h, fun events report report' hr hr' => ?_⟩⟩
  obtain ⟨same, same'⟩ := reported hr hr'
  rw [same, same', sub_self, sub_self]

def everyTouch : Environment := { plainEnvironment with evaluateCondition := fun _ _ => true }

def ruled (rules : List AttributionWeightingRule) : AttributionModel :=
  { plainModel .custom with weightingRules := rules }

def promoted (channels : List (String × String)) : RevenueEvent :=
  { purchase with touchpoints := channels.map fun e =>
      { touch "t1" e.1 .middle with campaign := some e.2 } }

theorem distinct_channels_bounded : AtMostAmount everyTouch
    (promoted [("email", "spring"), ("social", "spring")]) (ruled [⟨"true", 1⟩]) :=
  (atMostAmount_iff everyTouch _ (by unfold OwnChannels; decide) (by decide) _ rfl
    (by decide +kernel)).mpr (by decide +kernel)

/-- Two rules attribute 200 of 100; the report throws. -/
theorem overlaps_exceed_amount :
    (calculateAttribution everyTouch (promoted [("email", "spring")])
      (ruled [⟨"true", 1⟩, ⟨"true", 1⟩])).values.sum = 200 ∧
    calculateAttributionReport everyTouch (ruled []) [promoted [("email", "spring")]] =
      .error (.notAFunction "event.timestamp.getTime") ∧
    ¬ AtMostAmount everyTouch (promoted [("email", "spring")])
      (ruled [⟨"true", 1⟩, ⟨"true", 1⟩]) := by
  refine ⟨by decide +kernel, rfl, fun h => ?_⟩
  exact absurd h.attributed (by decide +kernel)

end CampaignRevenue
