import Optimizely.DynamicPersonalization

/-!
# Impressions and conversions

A cached answer counts no impression and does not become the visitor's record, and an impression
does not renew the rate. The counters are right as long as answers are computed and no variation is
shown again after a conversion.
-/

namespace DynamicPersonalization

open TransitionRuns List Counters

/-- A request finds no valid entry, and no variation it shows has been converted. -/
def Careful (service : Service) (s : State) : Label → Prop
  | .get request => s.cached request = none ∧
      ∀ p ∈ service.personalize request, (s.counters.metricsOf p.shown).conversions = 0
  | _ => True

instance (service : Service) (s : State) (label : Label) : Decidable (Careful service s label) := by
  cases label <;> dsimp only [Careful] <;> infer_instance

structure Accounted (s : State) : Prop where
  impressions : ∀ ruleId, (s.counters.analyticsOf ruleId).totalImpressions =
    s.returned.countP fun entry => ruleId ∈ entry.2.personalizations.map (·.ruleId)
  credited : ∀ shown, (s.counters.metricsOf shown).conversions = s.due.count shown
  rate : ∀ shown, 0 < (s.counters.metricsOf shown).impressions →
    (s.counters.metricsOf shown).conversionRate =
      (s.counters.metricsOf shown).conversions / (s.counters.metricsOf shown).impressions

def Rated (c : Counters) : Prop :=
  ∀ shown, (0 < (c.metricsOf shown).impressions → (c.metricsOf shown).conversionRate =
      (c.metricsOf shown).conversions / (c.metricsOf shown).impressions) ∧
    ((c.metricsOf shown).conversions = 0 → (c.metricsOf shown).conversionRate = 0)

variable {c : Counters} {ps : List AppliedPersonalization} {service : Service} {s t : State}
  {l : Label} {rq : PersonalizationRequest}

section

variable (c : Counters) (p : AppliedPersonalization)

lemma metricsOf_track (shown : String × String) :
    (c.trackPersonalizationImpression p).metricsOf shown = if p.shown = shown then
        { c.metricsOf shown with impressions := (c.metricsOf shown).impressions + 1 }
      else c.metricsOf shown := by
  by_cases hs : p.shown = shown <;>
    simp [trackPersonalizationImpression, metricsOf, OrderedMap.get?_set, hs]

lemma metricsOf_credit (shown : String × String) : (c.credit p).metricsOf shown =
      if p.shown = shown then { c.metricsOf shown with
          conversions := (c.metricsOf shown).conversions + 1
          conversionRate :=
            ((c.metricsOf shown).conversions + 1 : Nat) / (c.metricsOf shown).impressions }
      else c.metricsOf shown := by
  by_cases hs : p.shown = shown <;> simp [credit, metricsOf, OrderedMap.get?_set, hs]

lemma totalImpressions_track (r : String) :
    ((c.trackPersonalizationImpression p).analyticsOf r).totalImpressions =
      (c.analyticsOf r).totalImpressions + if p.ruleId == r then 1 else 0 := by
  by_cases hs : p.ruleId = r <;>
    simp [trackPersonalizationImpression, analyticsOf, OrderedMap.get?_set, hs]

lemma totalImpressions_credit (r : String) : ((c.credit p).analyticsOf r).totalImpressions =
      (c.analyticsOf r).totalImpressions := by
  rw [credit, analyticsOf]
  split
  · rename_i analytics hf
    rw [OrderedMap.get?_set, analyticsOf]
    split
    · rename_i hs
      rw [← hs, hf]
      rfl
    · rfl
  · rfl

end

lemma rated_track (hr : Rated c) {p : AppliedPersonalization}
    (u : (c.metricsOf p.shown).conversions = 0) : Rated (c.trackPersonalizationImpression p) := by
  intro s
  rw [metricsOf_track]
  split
  · rename_i hs
    rw [hs] at u
    simp [u, (hr s).2 u]
  · exact hr s

lemma rated_credit (hr : Rated c) (p : AppliedPersonalization) : Rated (c.credit p) := by
  intro s
  rw [metricsOf_credit]
  split
  · exact ⟨fun _ => rfl, nofun⟩
  · exact hr s

lemma totalImpressions_foldl_track (c : Counters) (ruleId : String) :
    ((ps.foldl trackPersonalizationImpression c).analyticsOf ruleId).totalImpressions =
      (c.analyticsOf ruleId).totalImpressions + (ps.map (·.ruleId)).count ruleId := by
  induction ps generalizing c with
  | nil => rfl
  | cons p ps ih =>
    rw [foldl_cons, ih, totalImpressions_track, map_cons, count_cons]
    omega

lemma conversions_track (c : Counters) (p : AppliedPersonalization) (sh : String × String) :
    ((c.trackPersonalizationImpression p).metricsOf sh).conversions =
      (c.metricsOf sh).conversions := by
  rw [metricsOf_track]
  split <;> rfl

lemma conversions_foldl_track (c : Counters) (sh : String × String) :
    ((ps.foldl trackPersonalizationImpression c).metricsOf sh).conversions =
      (c.metricsOf sh).conversions := by
  induction ps generalizing c with
  | nil => rfl
  | cons p ps ih =>
    rw [foldl_cons, ih, conversions_track]

lemma rated_foldl_track (hr : Rated c) (u : ∀ p ∈ ps, (c.metricsOf p.shown).conversions = 0) :
    Rated (ps.foldl trackPersonalizationImpression c) := by
  induction ps generalizing c with
  | nil => exact hr
  | cons p ps ih =>
    obtain ⟨first, r⟩ := forall_mem_cons.mp u
    refine ih (rated_track hr first) fun q mem => ?_
    rw [conversions_track, r q mem]

lemma foldl_credit (c : Counters) (sh : String × String) (r : String) :
    ((ps.foldl credit c).metricsOf sh).conversions =
        (c.metricsOf sh).conversions + (ps.map (·.shown)).count sh ∧
      ((ps.foldl credit c).analyticsOf r).totalImpressions =
        (c.analyticsOf r).totalImpressions := by
  induction ps generalizing c with
  | nil => exact ⟨rfl, rfl⟩
  | cons p ps ih =>
    obtain ⟨cs, hi⟩ := ih (c.credit p)
    refine ⟨?_, hi.trans (totalImpressions_credit c p r)⟩
    rw [foldl_cons, cs, metricsOf_credit, map_cons, count_cons]
    by_cases hs : p.shown = sh
    · simp [hs]
      omega
    · simp [hs]

lemma rated_foldl_credit (hr : Rated c) (ps : List AppliedPersonalization) :
    Rated (ps.foldl credit c) :=
  foldlRecOn _ _ hr fun _ hr p _ => rated_credit hr p

lemma ruleIds_sublist (cs : JsConversions) (r : PersonalizationRequest)
    (es : List (String × PersonalizationRule)) :
    ((es.filterMap (applyPersonalizationRule cs r)).map (·.ruleId)).Sublist (es.map Prod.fst) := by
  induction es with
  | nil => exact .slnil
  | cons e es ih =>
    cases ha : applyPersonalizationRule cs r e with
    | none => simpa [ha] using ih.cons _
    | some p =>
      have hn : p.ruleId = e.1 := by
        rw [applyPersonalizationRule] at ha
        split at ha
        · cases ha
        · split at ha
          · obtain ⟨best, -, rfl⟩ := Option.map_eq_some_iff.mp ha
            rfl
          · cases ha
      simpa [ha, hn] using ih

lemma nodup_ruleIds (s : Service) (r : PersonalizationRequest) :
    ((s.personalize r).map (·.ruleId)).Nodup := by
  have ha := s.rules.nodup.sublist ((filter_sublist (p := fun e => e.2.active)).map Prod.fst)
  exact (((perm_insertionSort _ _).map _).nodup_iff.mpr ha).sublist (ruleIds_sublist _ _ _)

structure Kept (s : State) : Prop extends Accounted s where
  rated : Rated s.counters
  received : ∀ visitorId, s.visitorPersonalizations.get? visitorId =
    OrderedMap.lookup visitorId s.returned

lemma step_kept (hk : Kept s) (hc : Careful service s l)
    (hs : step service s l = some t) : Kept t := by
  cases l with
  | get rq =>
    obtain ⟨hm, u⟩ := hc
    simp only [step, State.getPersonalizedContent, hm] at hs
    cases hs
    have hr := rated_foldl_track hk.rated u
    refine ⟨⟨fun ri => ?_, fun sh => ?_, fun sh => (hr sh).1⟩, hr, fun v => ?_⟩
    · rw [totalImpressions_foldl_track, hk.impressions, (nodup_ruleIds _ _).count, countP_cons]
      simp
    · exact (conversions_foldl_track _ sh).trans (hk.credited sh)
    · rw [OrderedMap.get?_set, OrderedMap.lookup, hk.received]
  | convert v =>
    cases hs
    rw [State.trackConversion, State.lastReceived, ← hk.received v]
    cases record : s.visitorPersonalizations.get? v with
    | none =>
      exact ⟨⟨hk.impressions, fun sh => (hk.credited sh).trans (by simp), hk.rate⟩,
        hk.rated, hk.received⟩
    | some r =>
      have hr := rated_foldl_credit hk.rated r.personalizations
      refine ⟨⟨fun ri => ?_, fun sh => ?_, fun sh => (hr sh).1⟩, hr, hk.received⟩
      · exact (foldl_credit _ ("", "") ri).2.trans (hk.impressions ri)
      · rw [(foldl_credit _ sh "").1, hk.credited, count_append]
        rfl
  | cleanupCache | advance _ =>
    cases hs
    exact ⟨{ hk with }, hk.rated, hk.received⟩

end DynamicPersonalization
