import Mathlib.Tactic
import Optimizely.StringSimilarity

/-!
# Scores of candidate duplicates

`calculateDuplicateScore` folds the best similarity of each field, weighted, into one
score. Confidence levels and thresholds read that score as a percentage.
-/

namespace DuplicateScore

open Utf16 StringSimilarity List Option

structure Thresholds where
  autoMerge : Rat
  humanReview : Rat
  ignore : Rat
  deriving DecidableEq

structure MatchingRule where
  id : String
  recordType : String
  isActive : Bool
  fields : List FieldMatchingConfig
  thresholds : Thresholds
  deriving DecidableEq

/-- A record by field name; an undefined field has no value. -/
abbrev Record := String → Option Value

inductive Confidence where
  | low
  | medium
  | high
  | veryHigh
  deriving DecidableEq

inductive Recommendation where
  | ignore
  | review
  | autoMerge
  deriving DecidableEq

structure FieldScore where
  fieldName : String
  score : Rat
  weight : Rat
  contribution : Rat
  algorithm : String
  sourceValue : Value
  candidateValue : Value
  normalized : Bool
  deriving DecidableEq

structure Score where
  totalScore : Rat
  fieldScores : List FieldScore
  algorithmScores : OrderedMap String Rat
  weightedScore : Rat
  confidence : Confidence
  recommendation : Recommendation

structure Best where
  bestScore : Rat
  bestAlgorithm : String
  algorithmScores : OrderedMap String Rat

structure Totals where
  fieldScores : List FieldScore
  algorithmScores : OrderedMap String Rat
  totalWeightedScore : Rat
  totalWeight : Rat

variable (casing : CaseMapping)

def tryAlgorithm (fieldConfig : FieldMatchingConfig) (sourceValue candidateValue : Value)
    (best : Best) (algorithmName : String) : Option Best := do
  let score ← calculateFieldSimilarity casing sourceValue candidateValue algorithmName fieldConfig
  let algorithmScores := best.algorithmScores.addTo algorithmName score
  if best.bestScore < score then return ⟨score, algorithmName, algorithmScores⟩
  else return { best with algorithmScores := algorithmScores }

def addField (totals : Totals) (fieldConfig : FieldMatchingConfig)
    (sourceValue candidateValue : Value) (best : Best) : Totals :=
  if fieldConfig.minimumSimilarity ≤ best.bestScore then
    let contribution := best.bestScore * fieldConfig.weight / 100
    { fieldScores := totals.fieldScores ++ [{
        fieldName := fieldConfig.fieldName
        score := best.bestScore * 100
        weight := fieldConfig.weight
        contribution := contribution
        algorithm := best.bestAlgorithm
        sourceValue := sourceValue
        candidateValue := candidateValue
        normalized := fieldConfig.normalizeBeforeMatch }]
      algorithmScores := best.algorithmScores
      totalWeightedScore := totals.totalWeightedScore + contribution
      totalWeight := totals.totalWeight + fieldConfig.weight }
  else { totals with algorithmScores := best.algorithmScores }

def scoreField (sourceRecord candidateRecord : Record) (totals : Totals)
    (fieldConfig : FieldMatchingConfig) : Option Totals :=
  match sourceRecord fieldConfig.fieldName, candidateRecord fieldConfig.fieldName with
  | some sourceValue, some candidateValue => do
    let best ← fieldConfig.algorithms.foldlM
      (tryAlgorithm casing fieldConfig sourceValue candidateValue)
      ⟨0, "", totals.algorithmScores⟩
    return addField totals fieldConfig sourceValue candidateValue best
  | _, _ => some totals

def confidenceOf (finalScore : Rat) : Confidence :=
  if 90 ≤ finalScore then .veryHigh
  else if 75 ≤ finalScore then .high
  else if 50 ≤ finalScore then .medium
  else .low

def recommendationOf (thresholds : Thresholds) (finalScore : Rat) : Recommendation :=
  if thresholds.autoMerge ≤ finalScore then .autoMerge
  else if thresholds.humanReview ≤ finalScore then .review
  else .ignore

def finish (rule : MatchingRule) (totals : Totals) : Score :=
  let finalScore :=
    if 0 < totals.totalWeight then totals.totalWeightedScore / totals.totalWeight * 100 else 0
  { totalScore := finalScore
    fieldScores := totals.fieldScores
    algorithmScores := totals.algorithmScores
    weightedScore := totals.totalWeightedScore
    confidence := confidenceOf finalScore
    recommendation := recommendationOf rule.thresholds finalScore }

def calculateDuplicateScore (sourceRecord candidateRecord : Record) (rule : MatchingRule) :
    Option Score := do
  let totals ← rule.fields.foldlM (scoreField casing sourceRecord candidateRecord)
    ⟨[], .empty, 0, 0⟩
  return finish rule totals

lemma similarity_isSome (v v' : Value) (alg : String) (c : FieldMatchingConfig) :
    (calculateFieldSimilarity casing v v' alg c).isSome := by
  obtain ⟨similarity, h⟩ := calculateFieldSimilarity_terminates casing v v' alg c
  simp [h]

def similarity (value1 value2 : Value) (algorithm : String) (config : FieldMatchingConfig) : Rat :=
  (calculateFieldSimilarity casing value1 value2 algorithm config).get
    (similarity_isSome casing value1 value2 algorithm config)

/-- The best similarity over the configured algorithms, at least 0. -/
def bestSimilarity (config : FieldMatchingConfig) (value1 value2 : Value) : Rat :=
  (config.algorithms.map fun algorithm => similarity casing value1 value2 algorithm config).foldl
    max 0

/-- Weight and best similarity of a field that is present in both records and meets its
minimum. -/
def countedField (sourceRecord candidateRecord : Record) (config : FieldMatchingConfig) :
    Option (Rat × Rat) :=
  match sourceRecord config.fieldName, candidateRecord config.fieldName with
  | some sourceValue, some candidateValue =>
    let best := bestSimilarity casing config sourceValue candidateValue
    if config.minimumSimilarity ≤ best then some (config.weight, best) else none
  | _, _ => none

def countedFields (sourceRecord candidateRecord : Record) (rule : MatchingRule) :
    List (Rat × Rat) :=
  rule.fields.filterMap (countedField casing sourceRecord candidateRecord)

def weightedMean (counted : List (Rat × Rat)) : Rat :=
  if counted = [] then 0
  else (counted.map fun field => field.1 * field.2).sum / (counted.map Prod.fst).sum

lemma tryAlgorithm_spec (c : FieldMatchingConfig) (v v' : Value) (b : Best) (alg : String) :
    ∃ t, tryAlgorithm casing c v v' b alg = some t ∧
      t.bestScore = max b.bestScore (similarity casing v v' alg c) := by
  have hf : calculateFieldSimilarity casing v v' alg c = some (similarity casing v v' alg c) := by
    simp [similarity]
  rw [tryAlgorithm, hf]
  by_cases hb : b.bestScore < similarity casing v v' alg c
  · exact ⟨_, if_pos hb, (max_eq_right hb.le).symm⟩
  · exact ⟨_, if_neg hb, (max_eq_left (not_lt.mp hb)).symm⟩

lemma bestSimilarity_spec (c : FieldMatchingConfig) (v v' : Value) (al : List String) (b : Best) :
    ∃ t, al.foldlM (tryAlgorithm casing c v v') b = some t ∧ t.bestScore =
        (al.map fun alg => similarity casing v v' alg c).foldl max b.bestScore := by
  induction al generalizing b with
  | nil => exact ⟨b, rfl, rfl⟩
  | cons alg al ih =>
    obtain ⟨next, hn, hm⟩ := tryAlgorithm_spec casing c v v' b alg
    obtain ⟨t, ht, hb⟩ := ih next
    exact ⟨t, by simpa [foldlM_cons, hn] using ht, by rw [hb, hm, map_cons, foldl_cons]⟩

lemma scoreField_spec (s s' : Record) (ts : Totals) (c : FieldMatchingConfig) :
    ∃ t, scoreField casing s s' ts c = some t ∧ let ct := (countedField casing s s' c).toList
      t.totalWeightedScore = ts.totalWeightedScore +
        (ct.map fun field => field.1 * field.2).sum / 100 ∧
      t.totalWeight = ts.totalWeight + (ct.map Prod.fst).sum := by
  unfold scoreField countedField
  match s c.fieldName, s' c.fieldName with
  | none, _ => exact ⟨ts, rfl, by simp⟩
  | some _, none => exact ⟨ts, rfl, by simp⟩
  | some v, some v' =>
    obtain ⟨b, hr, hb⟩ := bestSimilarity_spec casing c v v' c.algorithms ⟨0, "", ts.algorithmScores⟩
    refine ⟨addField ts c v v' b, ?_, ?_⟩
    · simp [hr]
    · have hsm : b.bestScore = bestSimilarity casing c v v' := hb
      by_cases met : c.minimumSimilarity ≤ bestSimilarity casing c v v' <;>
        simp [addField, met, hsm, mul_comm]

lemma scoreFields_spec (s s' : Record) (fs : List FieldMatchingConfig) (ts : Totals) :
    ∃ t, fs.foldlM (scoreField casing s s') ts = some t ∧
      let ct := fs.filterMap (countedField casing s s')
      t.totalWeightedScore = ts.totalWeightedScore +
        (ct.map fun field => field.1 * field.2).sum / 100 ∧
      t.totalWeight = ts.totalWeight + (ct.map Prod.fst).sum := by
  induction fs generalizing ts with
  | nil => exact ⟨ts, rfl, by simp⟩
  | cons c fs ih =>
    obtain ⟨next, hn, hsc, hwg⟩ := scoreField_spec casing s s' ts c
    obtain ⟨t, ha, hs, hw⟩ := ih next
    refine ⟨t, by simpa [foldlM_cons, hn] using ha, ?_⟩
    have split : (c :: fs).filterMap (countedField casing s s') =
        (countedField casing s s' c).toList ++ fs.filterMap (countedField casing s s') := by
      rw [filterMap_cons]
      cases countedField casing s s' c <;> rfl
    dsimp only at hsc hwg hs hw ⊢
    rw [split, map_append, map_append, sum_append, sum_append, hs, hsc, hw, hwg]
    constructor <;> ring

def PositiveWeights (rule : MatchingRule) : Prop := ∀ config ∈ rule.fields, 0 < config.weight

variable {casing} {s s' : Record} {field : Rat × Rat} {rule : MatchingRule} {ct : List (Rat × Rat)}

lemma countedField_cases {c : FieldMatchingConfig} (hct : countedField casing s s' c = some field) :
    ∃ v v', s c.fieldName = some v ∧ s' c.fieldName = some v' ∧
      field = (c.weight, bestSimilarity casing c v v') ∧
      c.minimumSimilarity ≤ bestSimilarity casing c v v' := by
  rw [countedField] at hct
  split at hct
  · rename_i v v' hs hs'
    dsimp only at hct
    split at hct
    · rename_i met
      cases hct
      exact ⟨v, v', hs, hs', rfl, met⟩
    · cases hct
  · cases hct

lemma countedFields_weight_pos (hp : PositiveWeights rule)
    (mem : field ∈ countedFields casing s s' rule) : 0 < field.1 := by
  obtain ⟨c, hc, hct⟩ := mem_filterMap.mp mem
  obtain ⟨-, -, -, -, rfl, -⟩ := countedField_cases hct
  exact hp c hc

lemma sum_weights_pos (hp : ∀ field ∈ ct, 0 < field.1)
    (hn : ct ≠ []) : 0 < (ct.map Prod.fst).sum := by
  apply sum_pos
  · intro weight hw
    obtain ⟨field, hf, rfl⟩ := mem_map.mp hw
    exact hp field hf
  · simpa using hn

/-- The score is the weighted mean itself, between 0 and 1, not its percentage. -/
lemma totalScore_eq_weightedMean (c : CaseMapping) (hp : PositiveWeights rule) (s s' : Record) :
    ∃ score, calculateDuplicateScore c s s' rule = some score ∧
      score.totalScore = weightedMean (countedFields c s s' rule) := by
  obtain ⟨ts, hr, hs, hwg⟩ := scoreFields_spec c s s' rule.fields ⟨[], .empty, 0, 0⟩
  refine ⟨finish rule ts, by simp [calculateDuplicateScore, hr], ?_⟩
  have hw : ∀ field ∈ countedFields c s s' rule,
      0 < field.1 := fun field mem => countedFields_weight_pos hp mem
  simp only [zero_add] at hs hwg
  change ts.totalWeight = ((countedFields c s s' rule).map Prod.fst).sum at hwg
  change ts.totalWeightedScore = ((countedFields c s s' rule).map fun field =>
      field.1 * field.2).sum / 100 at hs
  simp only [finish, hs, hwg, weightedMean]
  by_cases none : countedFields c s s' rule = []
  · simp [none]
  · have ht := sum_weights_pos hw none
    rw [if_pos ht, if_neg none]
    field_simp

/-- The score is the percentage that confidence levels and thresholds expect. -/
def ScoresPercentage (casing : CaseMapping) (sourceRecord candidateRecord : Record)
    (rule : MatchingRule) : Prop :=
  ∃ score, calculateDuplicateScore casing sourceRecord candidateRecord rule = some score ∧
    score.totalScore =
      100 * weightedMean (countedFields casing sourceRecord candidateRecord rule) ∧
    0 ≤ score.totalScore ∧ score.totalScore ≤ 100 ∧
    (countedFields casing sourceRecord candidateRecord rule ≠ [] →
      (∀ field ∈ countedFields casing sourceRecord candidateRecord rule, field.2 = 1) →
      score.totalScore = 100)

/-- No algorithm of the field finds any similarity, or none reaches the minimum. -/
def Dissimilar (casing : CaseMapping) (config : FieldMatchingConfig) (value1 value2 : Value) :
    Prop :=
  (∀ algorithm ∈ config.algorithms, similarity casing value1 value2 algorithm config ≤ 0) ∨
  (0 < config.minimumSimilarity ∧ ∀ algorithm ∈ config.algorithms,
    similarity casing value1 value2 algorithm config < config.minimumSimilarity)

lemma foldl_max_iff {r : Rat → Prop} (h : ∀ a b, r (max a b) ↔ r a ∧ r b) (vs : List Rat)
    (s : Rat) : r (vs.foldl max s) ↔ r s ∧ ∀ v ∈ vs, r v := by
  induction vs generalizing s with
  | nil => simp
  | cons v vs ih => simp [ih, h, and_assoc]

lemma bestSimilarity_nonneg (c : FieldMatchingConfig) (v v' : Value) :
    0 ≤ bestSimilarity casing c v v' :=
  ((foldl_max_iff (r := (· ≤ bestSimilarity casing c v v')) (fun _ _ => max_le_iff) _ _).mp
    le_rfl).1

lemma dissimilar_iff (c : FieldMatchingConfig) (v v' : Value) :
    Dissimilar casing c v v' ↔ bestSimilarity casing c v v' = 0 ∨
      bestSimilarity casing c v v' < c.minimumSimilarity := by
  have hz : bestSimilarity casing c v v' = 0 ↔ bestSimilarity casing c v v' ≤ 0 :=
    ⟨le_of_eq, fun h => le_antisymm h (bestSimilarity_nonneg c v v')⟩
  rw [hz, bestSimilarity, foldl_max_iff (r := (· ≤ 0)) fun _ _ => max_le_iff,
    foldl_max_iff (r := (· < _)) fun _ _ => max_lt_iff]
  simp [Dissimilar]

section

variable (hpos : ∀ field ∈ ct, 0 < field.1) (hnn : ∀ field ∈ ct, 0 ≤ field.2)
include hpos hnn

lemma products_nonneg : ∀ p ∈ ct.map fun field => field.1 * field.2, 0 ≤ p := by
  intro product hp
  obtain ⟨x, hx, rfl⟩ := mem_map.mp hp
  exact mul_nonneg (hpos x hx).le (hnn x hx)

lemma weightedMean_nonneg : 0 ≤ weightedMean ct := by
  by_cases hn : ct = []
  · simp [weightedMean, hn]
  · rw [weightedMean, if_neg hn]
    exact div_nonneg (sum_nonneg (products_nonneg hpos hnn)) (sum_weights_pos hpos hn).le

lemma weightedMean_eq_zero_iff : weightedMean ct = 0 ↔ ∀ field ∈ ct, field.2 = 0 := by
  by_cases none : ct = []
  · simp [weightedMean, none]
  · have ht := sum_weights_pos hpos none
    rw [weightedMean, if_neg none, div_eq_zero_iff, or_iff_left (ne_of_gt ht)]
    constructor
    · intro sum field mem
      have htr : field.1 * field.2 = 0 :=
        all_zero_of_le_zero_le_of_sum_eq_zero (products_nonneg hpos hnn) sum (mem_map_of_mem mem)
      rcases mul_eq_zero.mp htr with w | b
      · exact absurd w (ne_of_gt (hpos field mem))
      · exact b
    · intro hz
      apply sum_eq_zero
      intro product hp
      obtain ⟨field, hf, rfl⟩ := mem_map.mp hp
      rw [hz field hf, mul_zero]

end

/-- Every counted field has similarity 0 exactly if no field of the rule finds the records
similar. -/
lemma countedFields_zero_iff (r : MatchingRule) (s s' : Record) :
    (∀ field ∈ countedFields casing s s' r, field.2 = 0) ↔
      ∀ c ∈ r.fields, ∀ v v', s c.fieldName = some v → s' c.fieldName = some v' →
        Dissimilar casing c v v' := by
  constructor
  · intro hz c hc v v' hs hs'
    rw [dissimilar_iff]
    by_cases met : c.minimumSimilarity ≤ bestSimilarity casing c v v'
    · left
      have hct : countedField casing s s' c = some (c.weight, bestSimilarity casing c v v') := by
        simp [countedField, hs, hs', met]
      exact hz _ (mem_filterMap.mpr ⟨c, hc, hct⟩)
    · right
      exact not_le.mp met
  · intro hds field mem
    obtain ⟨c, hc, hct⟩ := mem_filterMap.mp mem
    obtain ⟨v, v', hs, hs', rfl, met⟩ := countedField_cases hct
    have ha := hds c hc v v' hs hs'
    rcases (dissimilar_iff _ _ _).mp ha with hz | below
    · exact hz
    · exact absurd met (not_le.mpr below)

lemma countedFields_nonneg (mem : field ∈ countedFields casing s s' rule) : 0 ≤ field.2 := by
  obtain ⟨c, -, hct⟩ := mem_filterMap.mp mem
  obtain ⟨v, v', -, -, rfl, -⟩ := countedField_cases hct
  exact bestSimilarity_nonneg c v v'

/-- With positive weights the score is a percentage only where it is 0 anyway. -/
theorem scoresPercentage_iff_dissimilar (casing : CaseMapping) (rule : MatchingRule)
    (positive : PositiveWeights rule) (sourceRecord candidateRecord : Record) :
    ScoresPercentage casing sourceRecord candidateRecord rule ↔
      ∀ config ∈ rule.fields, ∀ sourceValue candidateValue,
        sourceRecord config.fieldName = some sourceValue →
        candidateRecord config.fieldName = some candidateValue →
        Dissimilar casing config sourceValue candidateValue := by
  obtain ⟨s, hs, ht⟩ := totalScore_eq_weightedMean casing positive sourceRecord candidateRecord
  have hm : weightedMean (countedFields casing sourceRecord candidateRecord rule) = 0 ↔
      ∀ field ∈ countedFields casing sourceRecord candidateRecord rule, field.2 = 0 :=
    weightedMean_eq_zero_iff (fun _ mem => countedFields_weight_pos positive mem)
      (fun _ mem => countedFields_nonneg mem)
  rw [← countedFields_zero_iff, ← hm]
  constructor
  · rintro ⟨score', hs', percentage, -, -, -⟩
    rw [hs] at hs'
    cases hs'
    linarith
  · intro hz
    rw [hz] at ht
    refine ⟨s, hs, by rw [ht, hz, mul_zero], by rw [ht], by rw [ht]; norm_num, ?_⟩
    intro hn ho
    exfalso
    obtain ⟨field, mem⟩ := exists_mem_of_ne_nil _ hn
    have one := ho field mem
    rw [hm.mp hz field mem] at one
    norm_num at one

def emailRule : MatchingRule where
  id := "r1"
  recordType := "contact"
  isActive := true
  fields := [{
    fieldName := "email"
    dataType := .email
    weight := 10
    algorithms := ["exact"]
    normalizeBeforeMatch := true
    caseSensitive := false
    ignoreSpecialChars := false
    minimumSimilarity := 1 / 2 }]
  thresholds := ⟨95, 75, 30⟩

def contact (email : String) : Record := fun fieldName =>
  if fieldName = "email" then some (.string (ofString email)) else none

lemma emailRule_positive : PositiveWeights emailRule := by
  intro c hc
  rw [mem_singleton.mp hc]
  norm_num

theorem equal_emails_score_one :
    (calculateDuplicateScore asciiCaseMapping (contact "a@b.c") (contact "a@b.c")
      emailRule).map (fun score => (score.totalScore, score.confidence, score.recommendation)) =
      some (1, .low, .ignore) ∧
    ¬ ScoresPercentage asciiCaseMapping (contact "a@b.c") (contact "a@b.c") emailRule := by
  refine ⟨by decide +kernel, ?_⟩
  rintro ⟨fn, hf, p, -⟩
  have mean : weightedMean (countedFields asciiCaseMapping (contact "a@b.c") (contact "a@b.c")
      emailRule) = 1 := by
    decide +kernel
  have one : ∀ score ∈ calculateDuplicateScore asciiCaseMapping (contact "a@b.c")
      (contact "a@b.c") emailRule, score.totalScore = 1 := by
    decide +kernel
  rw [mean, one fn hf] at p
  norm_num at p

theorem different_emails_score_zero :
    ScoresPercentage asciiCaseMapping (contact "a@b.c") (contact "d@e.f") emailRule := by
  apply (scoresPercentage_iff_dissimilar asciiCaseMapping emailRule emailRule_positive _ _).mpr
  intro config hcn sourceValue candidateValue hs hc
  rw [mem_singleton.mp hcn] at hs hc ⊢
  cases hs
  cases hc
  left
  decide +kernel

/-- The candidates differ in one field, and the second one is as similar there as the first. -/
structure Closer (casing : CaseMapping) (rule : MatchingRule) (sourceRecord first second : Record)
    (fieldName : String) : Prop where
  same : ∀ name, name ≠ fieldName → first name = second name
  closer : ∀ config ∈ rule.fields, config.fieldName = fieldName →
    ∃ sourceValue value1 value2, sourceRecord fieldName = some sourceValue ∧
      first fieldName = some value1 ∧ second fieldName = some value2 ∧
      bestSimilarity casing config sourceValue value1 ≤
        bestSimilarity casing config sourceValue value2

/-- The field was counted for the first candidate already, or it is not counted for the second one,
or it is as similar as the fields counted for the first one are on average, if there are any. -/
def Level (casing : CaseMapping) (rule : MatchingRule) (sourceRecord first second : Record)
    (config : FieldMatchingConfig) : Prop :=
  (countedField casing sourceRecord first config).isSome ∨
    countedFields casing sourceRecord first rule = [] ∨
    ∀ field ∈ countedField casing sourceRecord second config,
      weightedMean (countedFields casing sourceRecord first rule) ≤ field.2

/-- What a field contributes above a level. -/
def lift (level : Rat) (counted : Option (Rat × Rat)) : Rat :=
  counted.elim 0 fun field => field.1 * (field.2 - level)

lemma sum_lift (m : Rat) (counted : FieldMatchingConfig → Option (Rat × Rat))
    (fs : List FieldMatchingConfig) : (fs.map fun cn => lift m (counted cn)).sum =
      ((fs.filterMap counted).map fun x => x.1 * x.2).sum -
        m * ((fs.filterMap counted).map Prod.fst).sum := by
  induction fs with
  | nil => simp
  | cons cn fs ih =>
    rw [map_cons, sum_cons, ih]
    cases h : counted cn <;> simp [h, lift]
    ring

variable {c c' : Record} {f : String} {cn : FieldMatchingConfig}

lemma Closer.other (h : Closer casing rule s c c' f) (hf : cn.fieldName ≠ f) :
    countedField casing s c' cn = countedField casing s c cn := by
  rw [countedField, countedField, h.same _ hf]

lemma Closer.kept (h : Closer casing rule s c c' f) (mem : cn ∈ rule.fields) {p : Rat × Rat}
    (hp : countedField casing s c cn = some p) :
    ∃ b, p.2 ≤ b ∧ countedField casing s c' cn = some (p.1, b) := by
  by_cases hf : cn.fieldName = f
  · obtain ⟨v, x, x', hs, hc, hc', hb⟩ := h.closer cn mem hf
    obtain ⟨_, _, hv, hx, rfl, met⟩ := countedField_cases hp
    cases hs.symm.trans (hf ▸ hv)
    cases hc.symm.trans (hf ▸ hx)
    exact ⟨bestSimilarity casing cn v x', hb, by simp [countedField, hf, hs, hc', met.trans hb]⟩
  · exact ⟨p.2, le_rfl, (h.other hf).trans hp⟩

lemma Closer.lift_le (h : Closer casing rule s c c' f) (positive : PositiveWeights rule)
    (hn : countedFields casing s c rule ≠ []) (mem : cn ∈ rule.fields)
    (hl : Level casing rule s c c' cn) :
    lift (weightedMean (countedFields casing s c rule)) (countedField casing s c cn) ≤
      lift (weightedMean (countedFields casing s c rule)) (countedField casing s c' cn) := by
  have hw : ∀ c p, countedField casing s c cn = some p → 0 < p.1 := fun _ _ hp =>
    countedFields_weight_pos positive (mem_filterMap.mpr ⟨cn, mem, hp⟩)
  cases hp : countedField casing s c cn with
  | some p =>
    obtain ⟨b, hb, hp'⟩ := h.kept mem hp
    rw [hp']
    exact mul_le_mul_of_nonneg_left (sub_le_sub_right hb _) (hw c p hp).le
  | none =>
    rcases hl with counted | none | above
    · simp [hp] at counted
    · exact absurd none hn
    · cases hp' : countedField casing s c' cn with
      | none => exact le_rfl
      | some q => exact mul_nonneg (hw c' q hp').le (sub_nonneg.mpr (above q hp'))

lemma lift_lt (positive : PositiveWeights rule) (mem : cn ∈ rule.fields)
    (hl : ¬ Level casing rule s c c' cn) :
    lift (weightedMean (countedFields casing s c rule)) (countedField casing s c' cn) <
      lift (weightedMean (countedFields casing s c rule)) (countedField casing s c cn) := by
  simp only [Level, not_or, not_isSome_iff_eq_none, not_forall, not_le] at hl
  obtain ⟨none, -, q, hq, below⟩ := hl
  have hw := countedFields_weight_pos positive (mem_filterMap.mpr ⟨cn, mem, hq⟩)
  rw [none, hq]
  exact mul_neg_of_pos_of_neg hw (sub_neg.mpr below)

/-- Two scores are compared by what the fields contribute above the first one. -/
lemma weightedMean_le_iff (positive : PositiveWeights rule)
    (hn : countedFields casing s c rule ≠ []) (hn' : countedFields casing s c' rule ≠ []) :
    weightedMean (countedFields casing s c rule) ≤ weightedMean (countedFields casing s c' rule) ↔
      (rule.fields.map fun cn => lift (weightedMean (countedFields casing s c rule))
        (countedField casing s c cn)).sum ≤
      (rule.fields.map fun cn => lift (weightedMean (countedFields casing s c rule))
        (countedField casing s c' cn)).sum := by
  have hw := sum_weights_pos (fun _ => countedFields_weight_pos positive) hn
  have hw' := sum_weights_pos (fun _ => countedFields_weight_pos positive) hn'
  have zero : (rule.fields.map fun cn => lift (weightedMean (countedFields casing s c rule))
      (countedField casing s c cn)).sum = 0 := by
    rw [sum_lift, weightedMean, if_neg hn]
    exact sub_eq_zero.mpr (div_mul_cancel₀ _ hw.ne').symm
  rw [zero, sum_lift, sub_nonneg, weightedMean.eq_def (countedFields casing s c' rule), if_neg hn']
  exact le_div_iff₀ hw'

/-- The score does not fall when every configuration of the field is level; if the field is
configured in one way only, just then. -/
theorem totalScore_le_of_level (positive : PositiveWeights rule) (h : Closer casing rule s c c' f) :
    ∃ score score', calculateDuplicateScore casing s c rule = some score ∧
      calculateDuplicateScore casing s c' rule = some score' ∧
      ((∀ config ∈ rule.fields, config.fieldName = f → Level casing rule s c c' config) →
        score.totalScore ≤ score'.totalScore) ∧
      ((∀ config ∈ rule.fields, ∀ other ∈ rule.fields, config.fieldName = f →
          other.fieldName = f → other = config) →
        score.totalScore ≤ score'.totalScore →
        ∀ config ∈ rule.fields, config.fieldName = f → Level casing rule s c c' config) := by
  obtain ⟨score, hs, ht⟩ := totalScore_eq_weightedMean casing positive s c
  obtain ⟨score', hs', ht'⟩ := totalScore_eq_weightedMean casing positive s c'
  refine ⟨score, score', hs, hs', ?_⟩
  rw [ht, ht']
  by_cases hn : countedFields casing s c rule = []
  · have hnn : 0 ≤ weightedMean (countedFields casing s c' rule) :=
      weightedMean_nonneg (fun _ => countedFields_weight_pos positive) fun _ => countedFields_nonneg
    exact ⟨fun _ => by simpa [hn, weightedMean] using hnn, fun _ _ _ _ _ => .inr (.inl hn)⟩
  have hn' : countedFields casing s c' rule ≠ [] := by
    obtain ⟨p, mem⟩ := exists_mem_of_ne_nil _ hn
    obtain ⟨config, hi, hp⟩ := mem_filterMap.mp mem
    obtain ⟨b, -, hb⟩ := h.kept hi hp
    exact ne_nil_of_mem (mem_filterMap.mpr ⟨config, hi, hb⟩)
  rw [weightedMean_le_iff positive hn hn']
  constructor
  · intro level
    refine sum_le_sum fun cn mem => ?_
    by_cases hf : cn.fieldName = f
    · exact h.lift_le positive hn mem (level cn mem hf)
    · rw [h.other hf]
  · intro once hsum config mem hf
    by_contra hl
    have fall := lift_lt positive mem hl
    refine absurd hsum (not_le.mpr (sum_lt_sum _ _ (fun cn hi => ?_) ⟨config, mem, fall⟩))
    by_cases hf' : cn.fieldName = f
    · rw [once config mem cn hi hf hf']
      exact fall.le
    · rw [h.other hf']

def nameRule : MatchingRule :=
  { emailRule with
    fields := emailRule.fields ++ emailRule.fields.map fun config =>
      { config with fieldName := "name", algorithms := ["levenshtein"] } }

def person (name : String) : Record := fun fieldName =>
  if fieldName = "name" then some (.string (ofString name)) else contact "a@b.c" fieldName

lemma nameRule_positive : PositiveWeights nameRule := by
  unfold PositiveWeights
  decide +kernel

lemma person_closer :
    Closer asciiCaseMapping nameRule (person "ab") (person "xy") (person "ay") "name" where
  same name ne := by simp [person, ne]
  closer config mem here := by
    refine ⟨.string (ofString "ab"), .string (ofString "xy"), .string (ofString "ay"), rfl, rfl,
      rfl, ?_⟩
    revert config
    decide +kernel

theorem person_score_falls : ∃ score score',
    calculateDuplicateScore asciiCaseMapping (person "ab") (person "xy") nameRule = some score ∧
    calculateDuplicateScore asciiCaseMapping (person "ab") (person "ay") nameRule = some score' ∧
      ¬ score.totalScore ≤ score'.totalScore := by
  obtain ⟨score, score', h, h', -, level⟩ := totalScore_le_of_level nameRule_positive person_closer
  refine ⟨score, score', h, h', fun le => ?_⟩
  have name := level (by decide +kernel) le
  revert name
  unfold Level
  decide +kernel

theorem half_similar_name_lowers_score :
    Closer asciiCaseMapping nameRule (person "ab") (person "xy") (person "ay") "name" ∧
    (calculateDuplicateScore asciiCaseMapping (person "ab") (person "xy") nameRule).map
      (·.totalScore) = some 1 ∧
    (calculateDuplicateScore asciiCaseMapping (person "ab") (person "ay") nameRule).map
      (·.totalScore) = some (3 / 4) :=
  ⟨person_closer, by decide +kernel, by decide +kernel⟩

end DuplicateScore
