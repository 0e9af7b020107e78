import Mathlib.Tactic

/-!
# Rule based audience segments

`evaluateRuleBasedMatch` counts and weighs the rules that a profile passes. A rule is given by its
weight and outcome.
-/

namespace AudienceMatch

structure Rule where
  weight : Rat
  passed : Bool

inductive LogicalOperator where
  | and
  | or
  deriving DecidableEq

structure SegmentCriteria where
  demographicRules : Option (List Rule)
  behavioralRules : Option (List Rule)
  engagementRules : Option (List Rule)
  customRules : Option (List Rule)
  logicalOperator : LogicalOperator
  minConfidenceScore : Option Rat

structure Counts where
  totalScore : Rat
  maxScore : Rat
  passedChecks : Nat
  totalChecks : Nat

def Counts.add (counts : Counts) (rule : Rule) : Counts where
  totalScore := if rule.passed then counts.totalScore + rule.weight else counts.totalScore
  maxScore := counts.maxScore + rule.weight
  passedChecks := if rule.passed then counts.passedChecks + 1 else counts.passedChecks
  totalChecks := counts.totalChecks + 1

def Counts.evaluate (counts : Counts) (rules : Option (List Rule)) : Counts :=
  (rules.getD []).foldl .add counts

def SegmentCriteria.counts (criteria : SegmentCriteria) : Counts :=
  (((Counts.evaluate ⟨0, 0, 0, 0⟩ criteria.demographicRules).evaluate
    criteria.behavioralRules).evaluate criteria.engagementRules).evaluate criteria.customRules

/-- `minConfidenceScore || default` -/
def SegmentCriteria.threshold (criteria : SegmentCriteria) (default : Rat) : Rat :=
  (criteria.minConfidenceScore.filter (· ≠ 0)).getD default

def Counts.confidence (counts : Counts) : Rat :=
  if 0 < counts.maxScore then counts.totalScore / counts.maxScore else 0

structure Match where
  isMatch : Bool
  confidence : Rat
  deriving DecidableEq

def evaluateRuleBasedMatch (criteria : SegmentCriteria) : Match :=
  let counts := criteria.counts
  { isMatch := match criteria.logicalOperator with
      | .and => counts.passedChecks = counts.totalChecks ∧
          criteria.threshold (1 / 2) ≤ counts.confidence
      | .or => 0 < counts.passedChecks ∧ criteria.threshold (3 / 10) ≤ counts.confidence
    confidence := counts.confidence }

def SegmentCriteria.rules (criteria : SegmentCriteria) : List Rule :=
  criteria.demographicRules.getD [] ++ criteria.behavioralRules.getD [] ++
    criteria.engagementRules.getD [] ++ criteria.customRules.getD []

/-- The same rule, not turned from pass to fail. -/
def Rule.Improves (rule rule' : Rule) : Prop :=
  rule'.weight = rule.weight ∧ (rule.passed → rule'.passed)

/-- The same criteria with some outcomes turned from fail to pass. -/
structure Improves (criteria criteria' : SegmentCriteria) : Prop where
  rules : List.Forall₂ Rule.Improves criteria.rules criteria'.rules
  operator : criteria'.logicalOperator = criteria.logicalOperator
  minimum : criteria'.minConfidenceScore = criteria.minConfidenceScore

structure Coherent (criteria : SegmentCriteria) : Prop where
  confidence : 0 ≤ (evaluateRuleBasedMatch criteria).confidence ∧
    (evaluateRuleBasedMatch criteria).confidence ≤ 1
  monotone : ∀ criteria', Improves criteria criteria' →
    (evaluateRuleBasedMatch criteria).isMatch → (evaluateRuleBasedMatch criteria').isMatch
  operators : (evaluateRuleBasedMatch { criteria with logicalOperator := .and }).isMatch →
    (evaluateRuleBasedMatch { criteria with logicalOperator := .or }).isMatch

/-- There is a rule, or the minimum is not negative. -/
def Guarded (criteria : SegmentCriteria) : Prop :=
  criteria.rules ≠ [] ∨ ∀ score ∈ criteria.minConfidenceScore, 0 ≤ score

/-- Counts of the same rules, the second with more outcomes passed. -/
structure Below (t t' : Counts) : Prop where
  nonneg : 0 ≤ t.totalScore
  score : t.totalScore ≤ t'.totalScore
  bound : t'.totalScore ≤ t'.maxScore
  max : t'.maxScore = t.maxScore
  passed : t.passedChecks ≤ t'.passedChecks
  checked : t'.passedChecks ≤ t'.totalChecks
  total : t'.totalChecks = t.totalChecks

variable {t t' : Counts} {r r' : Rule} {c c' : SegmentCriteria}

lemma Below.add (h : Below t t') (hr : r.Improves r') (hw : 0 ≤ r.weight) :
    Below (t.add r) (t'.add r') := by
  obtain ⟨hs, hp⟩ := hr
  obtain ⟨h₀, h₁, h₂, h₃, h₄, h₅, h₆⟩ := h
  rw [Counts.add, Counts.add, hs]
  cases hr : r.passed with
  | true =>
    simp only [hp hr, if_true]
    constructor <;> linarith
  | false =>
    cases r'.passed <;> simp only [if_true, Bool.false_eq_true, if_false]
    all_goals constructor <;> linarith

lemma Below.foldl {rs rs' : List Rule} (hr : List.Forall₂ Rule.Improves rs rs')
    (hw : ∀ r ∈ rs, 0 ≤ r.weight) (h : Below t t') :
    Below (rs.foldl .add t) (rs'.foldl .add t') := by
  induction hr generalizing t t' with
  | nil => exact h
  | cons hi _ ih =>
    obtain ⟨hr, hw⟩ := List.forall_mem_cons.mp hw
    exact ih hw (h.add hi hr)

lemma counts_eq : c.counts = c.rules.foldl .add ⟨0, 0, 0, 0⟩ := by
  simp [SegmentCriteria.counts, Counts.evaluate, SegmentCriteria.rules, List.foldl_append]

lemma totalChecks_foldl (rs : List Rule) :
    (rs.foldl .add t).totalChecks = t.totalChecks + rs.length := by
  induction rs generalizing t with
  | nil => rfl
  | cons r rs ih =>
    have ha : (t.add r).totalChecks = t.totalChecks + 1 := rfl
    rw [List.foldl_cons, ih, ha, List.length_cons, Nat.add_right_comm, Nat.add_assoc]

lemma Below.confidence (h : Below t t') : t.confidence ≤ t'.confidence := by
  rw [Counts.confidence, Counts.confidence, h.max]
  split
  next hm => exact div_le_div_of_nonneg_right h.score hm.le
  next => rfl

lemma counts_below (hw : ∀ r ∈ c.rules, 0 ≤ r.weight)
    (hr : List.Forall₂ Rule.Improves c.rules c'.rules) : Below c.counts c'.counts := by
  rw [counts_eq, counts_eq]
  exact .foldl hr hw ⟨le_rfl, le_rfl, le_rfl, rfl, le_rfl, le_rfl, rfl⟩

lemma confidence_bounds (h : Below t t') : 0 ≤ t'.confidence ∧ t'.confidence ≤ 1 := by
  have h₀ := h.nonneg.trans h.score
  rw [Counts.confidence]
  split
  next hm => exact ⟨div_nonneg h₀ hm.le, (div_le_one hm).mpr h.bound⟩
  next => exact ⟨le_rfl, zero_le_one⟩

lemma isMatch_and (ho : c.logicalOperator = .and) : (evaluateRuleBasedMatch c).isMatch ↔
    c.counts.passedChecks = c.counts.totalChecks ∧ c.threshold (1 / 2) ≤ c.counts.confidence := by
  simp [evaluateRuleBasedMatch, ho]

lemma isMatch_or (ho : c.logicalOperator = .or) : (evaluateRuleBasedMatch c).isMatch ↔
    0 < c.counts.passedChecks ∧ c.threshold (3 / 10) ≤ c.counts.confidence := by
  simp [evaluateRuleBasedMatch, ho]

lemma match_mono (hi : Improves c c') (h : Below c.counts c'.counts)
    (hm : (evaluateRuleBasedMatch c).isMatch) : (evaluateRuleBasedMatch c').isMatch := by
  have hc := h.confidence
  have ht (x : Rat) : c'.threshold x = c.threshold x := by
    rw [SegmentCriteria.threshold, hi.minimum, SegmentCriteria.threshold]
  obtain ⟨-, -, -, -, passed, checked, total⟩ := h
  cases ho : c.logicalOperator with
  | and =>
    obtain ⟨all, le⟩ := (isMatch_and ho).mp hm
    exact (isMatch_and (hi.operator.trans ho)).mpr ⟨by omega, ht _ ▸ le.trans hc⟩
  | or =>
    obtain ⟨some, le⟩ := (isMatch_or ho).mp hm
    exact (isMatch_or (hi.operator.trans ho)).mpr ⟨by omega, ht _ ▸ le.trans hc⟩

lemma threshold_mono {x y : Rat} (h : x ≤ y) : c.threshold x ≤ c.threshold y := by
  rw [SegmentCriteria.threshold, SegmentCriteria.threshold]
  cases c.minConfidenceScore.filter (· ≠ 0) with
  | none => exact h
  | some q => rfl

lemma threshold_pos {x : Rat} (hx : 0 < x) (h : ∀ q ∈ c.minConfidenceScore, 0 ≤ q) :
    0 < c.threshold x := by
  rw [SegmentCriteria.threshold]
  cases hq : c.minConfidenceScore.filter (· ≠ 0) with
  | none => exact hx
  | some q =>
    obtain ⟨hm, hn⟩ := Option.filter_eq_some_iff.mp hq
    exact lt_of_le_of_ne (h q hm) (Ne.symm (of_decide_eq_true hn))

lemma counts_nil (hn : c.rules = []) : c.counts = ⟨0, 0, 0, 0⟩ := by
  rw [counts_eq, hn]
  rfl

lemma guarded_of_operators
    (h : (evaluateRuleBasedMatch { c with logicalOperator := .and }).isMatch →
      (evaluateRuleBasedMatch { c with logicalOperator := .or }).isMatch) : Guarded c := by
  by_contra hg
  simp only [Guarded, not_or, not_not, not_forall, not_le] at hg
  obtain ⟨hn, q, hm, neg⟩ := hg
  have hz := counts_nil hn
  have ht : c.threshold (1 / 2) ≤ c.counts.confidence := by
    rw [SegmentCriteria.threshold, hm, hz]
    simpa [Option.filter, neg.ne, Counts.confidence] using neg.le
  have none : c.counts.passedChecks = 0 := by rw [hz]
  have all : c.counts.passedChecks = c.counts.totalChecks := by rw [hz]
  have some := ((isMatch_or rfl).mp (h ((isMatch_and rfl).mpr ⟨all, ht⟩))).1
  exact absurd none some.ne'

lemma operators_of_guarded (h : Guarded c)
    (hm : (evaluateRuleBasedMatch { c with logicalOperator := .and }).isMatch) :
    (evaluateRuleBasedMatch { c with logicalOperator := .or }).isMatch := by
  obtain ⟨all, le⟩ := (isMatch_and rfl).mp hm
  have ht : c.threshold (3 / 10) ≤ c.threshold (1 / 2) := threshold_mono (by norm_num)
  refine (isMatch_or rfl).mpr ⟨?_, ht.trans le⟩
  by_cases hn : c.rules = []
  · have pos := threshold_pos (x := 1 / 2) (by norm_num) (h.resolve_left (not_not.mpr hn))
    have hz : c.counts.confidence = 0 := by rw [counts_nil hn]; rfl
    exact absurd (pos.trans_le le) hz.not_gt
  · have htt : 0 < c.counts.totalChecks := by
      rw [counts_eq, totalChecks_foldl]
      exact Nat.add_pos_right _ (List.length_pos_iff.mpr hn)
    exact all ▸ htt

def unruled (minConfidenceScore : Rat) (operator : LogicalOperator) : SegmentCriteria :=
  ⟨none, none, none, none, operator, some minConfidenceScore⟩

end AudienceMatch
