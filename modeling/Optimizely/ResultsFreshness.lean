import Optimizely.ParticipantCounting

/-!
# Fresh results

`calculateResults` reads the counters one by one and caches the results for five minutes.
`recordConversion` clears the cache, `addParticipant` does not, and a slow computation can write old
counts after that. A call includes what was completed before it began if the cache never holds
counts that are not current.
-/

namespace ResultsFreshness

open UniversalABTesting TransitionRuns List Option OrderedMap TaskLists ExpiringKeys Redis
open ParticipantCounting

/-- The counts of an analysis are those of the listed participants and conversions. -/
structure CountsOf (analysis : StatisticalAnalysis) (experiment : Experiment)
    (participants : List (String × String)) (conversions : List (Nat × String)) : Prop where
  variants : analysis.variants.map (·.variantId) = experiment.variants.map (·.id)
  participants : ∀ result ∈ analysis.variants,
    result.participantCount = (participants.map (·.2)).count result.variantId
  conversions : ∀ result ∈ analysis.variants,
    result.conversionCount = (conversions.map (·.2)).count result.variantId
  totalParticipants :
    analysis.totalParticipants = (analysis.variants.map (·.participantCount)).sum
  totalConversions :
    analysis.totalConversions = (analysis.variants.map (·.conversionCount)).sum

lemma compareWith_counts (env : Environment) (e : Experiment) (c r : ExperimentResult) :
    (compareWith env e c r).variantId = r.variantId ∧
      (compareWith env e c r).participantCount = r.participantCount ∧
      (compareWith env e c r).conversionCount = r.conversionCount := by
  rw [compareWith]
  split <;> exact ⟨rfl, rfl, rfl⟩

lemma results_variants (env : Environment) (cs : Counts) :
    (cs.results env).map (·.variantId) = cs.experiment.variants.map (·.id) := by
  simp only [Counts.results]
  split
  · rw [List.map_map, List.map_map]
    exact map_congr_left fun vr _ => (compareWith_counts env _ _ _).1
  · rw [List.map_map]
    rfl

lemma mem_results {env : Environment} {cs : Counts} {r : ExperimentResult}
    (mem : r ∈ cs.results env) : r.participantCount = countOf cs.participantCounts r.variantId ∧
      r.conversionCount = countOf cs.conversionCounts r.variantId := by
  simp only [Counts.results] at mem
  split at mem
  · obtain ⟨s, hb, rfl⟩ := mem_map.mp mem
    obtain ⟨vr, -, rfl⟩ := mem_map.mp hb
    obtain ⟨hid, hp, hc⟩ := compareWith_counts env cs.experiment _ _
    rw [hid, hp, hc]
    exact ⟨rfl, rfl⟩
  · obtain ⟨vr, -, rfl⟩ := mem_map.mp mem
    exact ⟨rfl, rfl⟩

lemma countsOf_analysis {env : Environment} {cs : Counts} {c : ChartData}
    {participants : List (String × String)} {conversions : List (Nat × String)}
    (hp : cs.participantCounts = .tally (participants.map (·.2)))
    (hc : cs.conversionCounts = .tally (conversions.map (·.2))) :
    CountsOf (cs.analysis env c) cs.experiment participants conversions where
  variants := results_variants env cs
  participants r mem := by
    rw [(mem_results mem).1, hp]
    exact getD_tally _ _
  conversions r mem := by
    rw [(mem_results mem).2, hc]
    exact getD_tally _ _
  totalParticipants := rfl
  totalConversions := rfl

lemma CountsOf.afterJson {a : StatisticalAnalysis} {e : Experiment}
    {ps : List (String × String)} {conversions : List (Nat × String)}
    (cs : CountsOf a e ps conversions) : CountsOf a.afterJson e ps conversions := by
  constructor
  · rw [StatisticalAnalysis.afterJson, List.map_map]
    exact cs.variants
  · intro r mem
    obtain ⟨s, hb, rfl⟩ := mem_map.mp mem
    exact cs.participants s hb
  · intro r mem
    obtain ⟨s, hb, rfl⟩ := mem_map.mp mem
    exact cs.conversions s hb
  · rw [StatisticalAnalysis.afterJson, List.map_map]
    exact cs.totalParticipants
  · rw [StatisticalAnalysis.afterJson, List.map_map]
    exact cs.totalConversions

/-- The step from one state to the other has lost nothing: logs grow, and calls of
`recordConversion` that have returned stay so. -/
structure Later (s t : State) : Prop where
  participants : ∀ experimentId, s.participantLog experimentId <+: t.participantLog experimentId
  conversions : ∀ experimentId goalId,
    s.conversionLog experimentId goalId <+: t.conversionLog experimentId goalId
  recorded : ∀ (i : Nat) (conversion : ConversionEvent),
    s.conversions[i]? = some ⟨conversion, .returned⟩ →
      t.conversions[i]? = some ⟨conversion, .returned⟩

section

variable (experiments : ExpiringKeys String Experiment)

/-- The experiment is the one stored under the id. -/
def Stored (experimentId : String) (experiment : Experiment) : Prop :=
  ∃ entry, experiments experimentId = some entry ∧ entry.value = experiment

/-- A conversion for the primary goal names one of the variants. -/
def KnownVariant (conversion : ConversionEvent) : Prop :=
  ∀ entry ∈ experiments conversion.experimentId,
    conversion.goalId = entry.value.primaryGoal.id →
      conversion.variantId ∈ entry.value.variants.map (·.id)

/-- What had been completed when a call began. -/
structure Began (s : State) (call : AnalysisCall) : Prop where
  joined : ∀ join ∈ call.joined, join ∈ s.participantLog call.experimentId ∧
    ∀ experiment, Stored experiments call.experimentId experiment →
      join.2 ∈ experiment.variants.map (·.id)
  recorded : ∀ conversion ∈ call.recorded,
    s.conversions[conversion.1]? = some ⟨conversion.2, .returned⟩ ∧
      conversion.2.experimentId = call.experimentId

/-- The participants had been counted up to some point after the call began. -/
def SeesParticipants (s : State) (call : AnalysisCall) (participantCounts : CountHash) : Prop :=
  ∃ participants, participants <+: s.participantLog call.experimentId ∧
    participantCounts = .tally (participants.map (·.2)) ∧
    ∀ join ∈ call.joined, join ∈ participants

def SeesConversions (s : State) (call : AnalysisCall) (goalId : String)
    (conversionCounts : CountHash) : Prop :=
  ∃ conversions, conversions <+: s.conversionLog call.experimentId goalId ∧
    conversionCounts = .tally (conversions.map (·.2)) ∧
    ∀ conversion ∈ call.recorded, conversion.2.goalId = goalId →
      (conversion.1, conversion.2.variantId) ∈ conversions

/-- What the call has computed with is not older than its beginning. -/
structure Reads (s : State) (call : AnalysisCall) (counts : Counts) : Prop where
  stored : Stored experiments call.experimentId counts.experiment
  participants : SeesParticipants s call counts.participantCounts
  conversions : SeesConversions s call counts.experiment.primaryGoal.id counts.conversionCounts

/-- The counts are those of participants and conversions among which is everything that had been
completed when the call began. -/
def Fresh (s : State) (call : AnalysisCall) (analysis : StatisticalAnalysis) : Prop :=
  ∃ experiment participants conversions,
    Stored experiments call.experimentId experiment ∧
    participants <+: s.participantLog call.experimentId ∧
    conversions <+: s.conversionLog call.experimentId experiment.primaryGoal.id ∧
    CountsOf analysis experiment participants conversions ∧
    (∀ join ∈ call.joined, join ∈ participants ∧
      join.2 ∈ analysis.variants.map (·.variantId)) ∧
    ∀ conversion ∈ call.recorded, conversion.2.goalId = experiment.primaryGoal.id →
      (conversion.1, conversion.2.variantId) ∈ conversions ∧
        conversion.2.variantId ∈ analysis.variants.map (·.variantId)

def Watches (s : State) (call : AnalysisCall) : Prop :=
  match call.stage with
  | .readResults => True
  | .readExperiment => True
  | .readParticipants experiment => Stored experiments call.experimentId experiment
  | .readConversions experiment participantCounts =>
    Stored experiments call.experimentId experiment ∧ SeesParticipants s call participantCounts
  | .readRevenue experiment participantCounts conversionCounts =>
    Stored experiments call.experimentId experiment ∧
      SeesParticipants s call participantCounts ∧
      SeesConversions s call experiment.primaryGoal.id conversionCounts
  | .readDayParticipants counts _ _ => Reads experiments s call counts
  | .readDayConversions counts _ _ _ => Reads experiments s call counts
  | .readDistribution counts _ => Reads experiments s call counts
  | .storeResults counts analysis => Reads experiments s call counts ∧
      ∃ env chartData, analysis = counts.analysis env chartData
  | .returned analysis => Fresh experiments s call analysis
  | .rejected _ => True

end

section

variable {ex : ExpiringKeys String Experiment} {s t : State} {c : AnalysisCall} (hl : Later s t)
include hl

lemma Began.later (hb : Began ex s c) : Began ex t c where
  joined join mem := by
    obtain ⟨hlg, hkn⟩ := hb.joined join mem
    exact ⟨(hl.participants _).subset hlg, hkn⟩
  recorded cv mem := by
    obtain ⟨hr, hh⟩ := hb.recorded cv mem
    exact ⟨hl.recorded _ _ hr, hh⟩

lemma SeesParticipants.later {participantCounts : CountHash}
    (hs : SeesParticipants s c participantCounts) : SeesParticipants t c participantCounts := by
  obtain ⟨ps, hea, r⟩ := hs
  exact ⟨ps, hea.trans (hl.participants _), r⟩

lemma SeesConversions.later {g : String} {conversionCounts : CountHash}
    (hs : SeesConversions s c g conversionCounts) : SeesConversions t c g conversionCounts := by
  obtain ⟨cs, hea, r⟩ := hs
  exact ⟨cs, hea.trans (hl.conversions _ _), r⟩

lemma Reads.later {cs : Counts} (hr : Reads ex s c cs) : Reads ex t c cs where
  stored := hr.stored
  participants := hr.participants.later hl
  conversions := hr.conversions.later hl

lemma Fresh.later {analysis : StatisticalAnalysis} (hfr : Fresh ex s c analysis) :
    Fresh ex t c analysis := by
  obtain ⟨e, ps, cs, hst, hp, hc, r⟩ := hfr
  exact ⟨e, ps, cs, hst, hp.trans (hl.participants _), hc.trans (hl.conversions _ _), r⟩

lemma Watches.later (hwt : Watches ex s c) : Watches ex t c := by
  unfold Watches at hwt ⊢
  split at hwt
  · trivial
  · trivial
  · exact hwt
  · exact ⟨hwt.1, hwt.2.later hl⟩
  · exact ⟨hwt.1, hwt.2.1.later hl, hwt.2.2.later hl⟩
  · exact hwt.later hl
  · exact hwt.later hl
  · exact hwt.later hl
  · exact ⟨hwt.1.later hl, hwt.2⟩
  · exact hwt.later hl
  · trivial

end

/-- Nothing has changed that a call of `calculateResults` counts or finds in the cache. -/
structure SameTotals (redis after : Redis) : Prop where
  experiments : after.experiments = redis.experiments
  mappings : after.mappings = redis.mappings
  results : after.results = redis.results
  participants : ∀ experimentId,
    after.counters (.participants experimentId) = redis.counters (.participants experimentId)
  conversions : ∀ experimentId goalId, after.counters (.conversions experimentId goalId) =
    redis.counters (.conversions experimentId goalId)

lemma SameTotals.refl (redis : Redis) : SameTotals redis redis :=
  ⟨rfl, rfl, rfl, fun _ => rfl, fun _ _ => rfl⟩

/-- The conversion is in the total of its goal. -/
def isCounted : ConversionStage → Bool
  | .countDaily _ => true
  | .addRevenue _ => true
  | .addRevenueDaily _ _ => true
  | .clearResults => true
  | .returned => true
  | _ => false

/-- What a call of `recordConversion` can do in one step. -/
inductive ConversionMove (redis : Redis) (call : ConversionCall) :
    Redis → ConversionStage → Prop where
  | quiet {after : Redis} {stage : ConversionStage} (notCounting : call.stage ≠ .count)
      (counted : isCounted stage → isCounted call.stage) (notReturned : stage ≠ .returned)
      (same : SameTotals redis after) : ConversionMove redis call after stage
  | count (counting : call.stage = .count) (day : String) :
      ConversionMove redis call
        (redis.hincrby (.conversions call.conversion.experimentId call.conversion.goalId)
          call.conversion.variantId) (.countDaily day)
  | clear (clearing : call.stage = .clearResults) :
      ConversionMove redis call
        { redis with results := redis.results.del [call.conversion.experimentId] } .returned

/-- Revenue is in no count, whether or not Redis accepts the amount. -/
lemma quiet_addRevenue {c : ConversionCall} {rs af : Redis} {k : RevenueKey}
    {field : String} {a : JsNumber} {next sg : ConversionStage}
    (h : rs.addRevenue k field a next = (af, sg))
    (hnc : c.stage ≠ .count) (hct : isCounted c.stage) (hn : next ≠ .returned) :
    ConversionMove rs c af sg := by
  cases a with
  | finite a =>
    cases h
    exact .quiet hnc (fun _ => hct) hn ⟨rfl, rfl, rfl, fun _ => rfl, fun _ _ => rfl⟩
  | infinity _ | nan =>
    cases h
    exact .quiet hnc nofun nofun (.refl rs)

lemma sameTotals_countDaily (rs : Redis) (id g day field : String) :
    SameTotals rs (rs.hincrby (.conversionsDaily id g day) field) where
  experiments := rfl
  mappings := rfl
  results := rfl
  participants _ := counters_hincrby_of_ne _ _ (by simp)
  conversions _ _ := counters_hincrby_of_ne _ _ (by simp)

lemma conversionMove_of_next {c : ConversionCall} {rs a : Redis} {now : Nat}
    {sg : ConversionStage} (h : c.next rs now = some (a, sg)) : ConversionMove rs c a sg := by
  obtain ⟨cv, an⟩ := c
  cases an with
  | readExperiment =>
    simp only [ConversionCall.next] at h
    split at h <;> cases h <;> exact .quiet nofun nofun nofun (.refl rs)
  | storeConversion =>
    cases h
    exact .quiet nofun nofun nofun (.refl rs)
  | count =>
    cases h
    exact .count rfl _
  | countDaily day =>
    simp only [ConversionCall.next] at h
    split at h <;> cases h <;>
      exact .quiet nofun (fun _ => rfl) nofun (sameTotals_countDaily _ _ _ _ _)
  | addRevenue _ | addRevenueDaily _ _ => exact quiet_addRevenue (some.inj h) nofun rfl nofun
  | clearResults =>
    cases h
    exact .clear rfl
  | returned | rejected _ => cases h

section

variable (experiments : ExpiringKeys String Experiment)

/-- Cached results count everybody counted so far and every conversion recorded so far. -/
def Current (s : State) (experimentId : String) (analysis : StatisticalAnalysis) : Prop :=
  ∃ experiment conversions, Stored experiments experimentId experiment ∧
    conversions <+: s.conversionLog experimentId experiment.primaryGoal.id ∧
    CountsOf analysis experiment (s.participantLog experimentId) conversions ∧
    ∀ (i : Nat) (conversion : ConversionEvent),
      s.conversions[i]? = some ⟨conversion, .returned⟩ →
      conversion.experimentId = experimentId → conversion.goalId = experiment.primaryGoal.id →
      (i, conversion.variantId) ∈ conversions

structure ConversionsCounted (s : State) : Prop where
  tallied : ∀ experimentId goalId, s.redis.counters (.conversions experimentId goalId) =
    .tally ((s.conversionLog experimentId goalId).map (·.2))
  logged : ∀ (i : Nat) (call : ConversionCall), s.conversions[i]? = some call →
    isCounted call.stage → (i, call.conversion.variantId) ∈
      s.conversionLog call.conversion.experimentId call.conversion.goalId
  known : ∀ call ∈ s.conversions, KnownVariant experiments call.conversion

structure ParticipantsCounted (s : State) : Prop where
  consistent : Consistent s
  accounted : Accounted s
  settled : ∀ call ∈ s.participants, ∀ variantId, settledVariant call.stage = some variantId →
    (call.key, variantId) ∈ s.participantLog call.experimentId

structure Invariant (s : State) : Prop where
  unchanged : s.redis.experiments = experiments
  participants : ParticipantsCounted s
  conversions : ConversionsCounted experiments s
  cached : ∀ experimentId analysis, s.redis.results.get s.now experimentId = some analysis →
    Current experiments s experimentId analysis
  began : ∀ call ∈ s.analyses, Began experiments s call
  watches : ∀ call ∈ s.analyses, Watches experiments s call

end

/-- The call stands between storing an assignment and counting it. -/
def isCounting : ParticipantStage → Bool
  | .count _ => true
  | _ => false

/-- A participant is counted only while no results are cached, and a stored assignment is returned
only when it has been counted. -/
def CarefulParticipant (s : State) (call : ParticipantCall) : Prop :=
  (isCounting call.stage → (s.redis.results.get s.now call.experimentId).isNone) ∧
    (readsMapping call.stage →
      (truthyText (s.redis.mappings.get s.now (call.experimentId, call.key))).isSome →
      ∀ other ∈ s.participants, other.experimentId = call.experimentId → other.key = call.key →
        isCounting other.stage = false)

/-- The counts behind the results that are about to be cached. -/
def storedCounts : AnalysisStage → Option Counts
  | .storeResults counts _ => some counts
  | _ => none

/-- Results are cached only while the counters are as they were read. -/
def CarefulAnalysis (s : State) (call : AnalysisCall) : Prop :=
  ∀ counts ∈ storedCounts call.stage,
    counts.participantCounts = s.redis.counters (.participants call.experimentId) ∧
      counts.conversionCounts = s.redis.counters
        (.conversions call.experimentId counts.experiment.primaryGoal.id)

def Careful (s : State) : Label → Prop
  | .addParticipant _ => True
  | .resumeParticipant index => ∀ call ∈ s.participants[index]?, CarefulParticipant s call
  | .recordConversion conversion => KnownVariant s.redis.experiments conversion
  | .resumeConversion _ => True
  | .calculateResults _ => True
  | .resumeAnalysis index => ∀ call ∈ s.analyses[index]?, CarefulAnalysis s call
  | .advance _ => True
  | _ => False

section

variable {es : ExpiringKeys String Experiment} {s t : State} {analysis : StatisticalAnalysis}
  {id : String} {af redis : Redis} {now i : Nat} {c : AnalysisCall} {env : Environment}

/-- Cached results stay current while nobody is counted and no conversion is completed. -/
lemma Current.later (hcr : Current es s id analysis) (hl : Later s t)
    (log : t.participantLog id = s.participantLog id) (hrc : ∀ (i : Nat) (cv : ConversionEvent),
      t.conversions[i]? = some ⟨cv, .returned⟩ → cv.experimentId = id →
      s.conversions[i]? = some ⟨cv, .returned⟩) : Current es t id analysis := by
  obtain ⟨e, cs, hst, hea, counts, hc⟩ := hcr
  refine ⟨e, cs, hst, hea.trans (hl.conversions _ _), ?_, ?_⟩
  · rwa [log]
  · intro i cv hr hh hg
    exact hc i cv (hrc i cv hr hh) hh hg

lemma log_grows (c : ParticipantCall) (log : String → List (String × String))
    (id : String) : log id <+: logParticipant c log id := by
  cases h : c.stage with
  | count v =>
    simp only [logParticipant, h, Function.update_apply]
    split
    · rename_i hh
      rw [hh]
      exact prefix_append _ _
    · exact prefix_rfl
  | _ => rw [logParticipant, h]

lemma sameResults_of_move {c : ParticipantCall}
    {sg : ParticipantStage} (hm : Move redis now c af sg) :
    af.results = redis.results ∧ ∀ id goalId, af.counters (.conversions id goalId) =
        redis.counters (.conversions id goalId) := by
  cases hm with
  | count _ | countDaily _ =>
    exact ⟨rfl, fun _ _ => counters_hincrby_of_ne _ _ (by simp)⟩
  | _ => exact ⟨rfl, fun _ _ => rfl⟩

section

variable (h : s.resumeParticipant i = some t)
include h

lemma participants_resume (hct : ParticipantsCounted s)
    (hca : ∀ c ∈ s.participants[i]?, CarefulParticipant s c) : ParticipantsCounted t := by
  refine ⟨consistent_resume hct.consistent h, accounted_resume hct.accounted h, ?_⟩
  obtain ⟨c, redis, sg, hf, hm, rfl⟩ := move_of_resume h
  have hg := log_grows c s.participantLog
  apply forall_set
  · intro x mem v hse
    exact (hg _).subset (hct.settled x mem v hse)
  · intro v hse
    rcases hm.settled hse with old | hc | hrs
    · exact (hg _).subset (hct.settled c (mem_of_getElem? hf) v old)
    · exact mem_logParticipant.mpr (.inr ⟨rfl, rfl, hc⟩)
    · obtain ⟨⟨vs, hr⟩, hp⟩ := hrs
      have ha := (hca c hf).2 (by rw [hr]; rfl)
      obtain ⟨e, hst, rfl⟩ := stored_of_found hp
      rcases hct.accounted.mapped _ _ e hst with hlg | ⟨x, mem, hexperiment, hkey, hc⟩
      · exact (hg _).subset hlg
      · have hse := ha (by rw [hp]; rfl) x mem hexperiment hkey
        rw [hc] at hse
        cases hse

lemma later_resumeParticipant : Later s t := by
  obtain ⟨c, redis, sg, hf, move, rfl⟩ := move_of_resume h
  exact ⟨log_grows c s.participantLog, fun _ _ => prefix_rfl, fun _ _ hr => hr⟩

lemma invariant_resumeParticipant (inv : Invariant es s)
    (hca : ∀ c ∈ s.participants[i]?, CarefulParticipant s c) : Invariant es t := by
  have hl := later_resumeParticipant h
  have hp := participants_resume h inv.participants hca
  obtain ⟨c, redis, sg, hf, hm, rfl⟩ := move_of_resume h
  obtain ⟨rs, hc⟩ := sameResults_of_move hm
  refine ⟨hm.experiments.trans inv.unchanged, hp, ?_, ?_, ?_, ?_⟩
  · refine ⟨?_, inv.conversions.logged, inv.conversions.known⟩
    intro id goalId
    rw [hc]
    exact inv.conversions.tallied id goalId
  · intro id analysis hlv
    rw [rs] at hlv
    refine (inv.cached id analysis hlv).later hl ?_ fun _ _ hr _ => hr
    -- somebody is counted only where nothing is cached
    by_cases hct : ∃ v, c.stage = .count v
    · obtain ⟨v, hct⟩ := hct
      have hab := (hca c hf).1 (by rw [hct]; rfl)
      rw [isNone_iff_eq_none] at hab
      refine logParticipant_elsewhere ?_ _
      rintro rfl
      cases hab.symm.trans hlv
    · rw [logParticipant_of_ne (not_exists.mp hct)]
  · exact fun x mem => (inv.began x mem).later hl
  · exact fun x mem => (inv.watches x mem).later hl

end

section

variable (c : ConversionCall) (i : Nat) (log : String → String → List (Nat × String))
  (id goalId : String)

lemma logConversion_eq : logConversion c i log id goalId = log id goalId ++ if c.stage = .count ∧
      id = c.conversion.experimentId ∧ goalId = c.conversion.goalId
        then [(i, c.conversion.variantId)] else [] := by
  by_cases hct : c.stage = .count
  · simp only [logConversion, hct, Function.update_apply]
    split_ifs <;> simp_all
  · simp [logConversion, hct]

lemma conversionLog_grows : log id goalId <+: logConversion c i log id goalId := by
  rw [logConversion_eq]
  exact prefix_append _ _

end

lemma move_of_resumeConversion (h : s.resumeConversion i = some t) :
    ∃ c redis stage, s.conversions[i]? = some c ∧ c.stage ≠ .returned ∧
      ConversionMove s.redis c redis stage ∧ t = { s with
        redis := redis
        conversions := s.conversions.set i { c with stage := stage }
        conversionLog := logConversion c i s.conversionLog } := by
  obtain ⟨c, hf, r⟩ := bind_eq_some_iff.mp h
  obtain ⟨⟨redis, stage⟩, hn, rfl⟩ := map_eq_some_iff.mp r
  refine ⟨c, redis, stage, hf, ?_, conversionMove_of_next hn, rfl⟩
  intro hr
  simp [ConversionCall.next, hr] at hn

lemma later_resumeConversion (h : s.resumeConversion i = some t) : Later s t := by
  obtain ⟨c, redis, sg, hf, hr, move, rfl⟩ := move_of_resumeConversion h
  refine ⟨fun _ => prefix_rfl, conversionLog_grows c i s.conversionLog, ?_⟩
  intro j cv hrt
  have ne : i ≠ j := by
    rintro rfl
    cases hf.symm.trans hrt
    exact hr rfl
  exact (getElem?_set_ne ne).trans hrt

lemma conversions_resume (hct : ConversionsCounted es s)
    (h : s.resumeConversion i = some t) : ConversionsCounted es t := by
  obtain ⟨c, redis, sg, hf, hr, hm, rfl⟩ := move_of_resumeConversion h
  have hg := conversionLog_grows c i s.conversionLog
  refine ⟨?_, ?_, ?_⟩
  · intro id goalId
    have hb := hct.tallied id goalId
    dsimp only
    cases hm with
    | quiet hnc hc' hn hs =>
      rw [logConversion_eq, if_neg (hnc ·.1), append_nil, hs.conversions]
      exact hb
    | count hc day =>
      by_cases hh : id = c.conversion.experimentId ∧ goalId = c.conversion.goalId
      · obtain ⟨rfl, rfl⟩ := hh
        rw [logConversion_eq, if_pos ⟨hc, rfl, rfl⟩, counters_hincrby_self, hb,
          map_append, map_singleton, tally_concat]
      · rw [logConversion_eq, if_neg (hh ·.2), append_nil, counters_hincrby_of_ne]
        · exact hb
        · intro hs
          exact hh (CounterKey.conversions.inj hs)
    | clear hcl =>
      rw [logConversion_eq, if_neg (by simp [hcl]), append_nil]
      exact hb
  · intro j x ho hi'
    rcases getElem?_set_cases ho with ⟨rfl, rfl⟩ | ⟨-, old⟩
    · cases hm with
      | quiet hnc hc' hn hs =>
        exact (hg _ _).subset (hct.logged _ c hf (hc' hi'))
      | count hc day =>
        dsimp only
        rw [logConversion_eq, if_pos ⟨hc, rfl, rfl⟩]
        exact mem_append_right _ (mem_singleton_self _)
      | clear hcl =>
        exact (hg _ _).subset (hct.logged _ c hf (by rw [hcl]; rfl))
    · exact (hg _ _).subset (hct.logged j x old hi')
  · exact forall_set hct.known i (hct.known c (mem_of_getElem? hf))

lemma ParticipantsCounted.of_same (hct : ParticipantsCounted s)
    (hs : SameParticipants s t) : ParticipantsCounted t where
  consistent := hct.consistent.of_same hs
  accounted := hct.accounted.of_same hs
  settled := by
    rw [hs.participants, hs.log]
    exact hct.settled

lemma ConversionMove.participants {c : ConversionCall}
    {sg : ConversionStage} (hm : ConversionMove redis c af sg) :
    af.experiments = redis.experiments ∧ af.mappings = redis.mappings ∧
      ∀ id, af.counters (.participants id) = redis.counters (.participants id) := by
  cases hm with
  | quiet hnc hct notReturned hs =>
    exact ⟨hs.experiments, hs.mappings, hs.participants⟩
  | count counting day =>
    exact ⟨rfl, rfl, fun _ => counters_hincrby_of_ne _ _ (by simp)⟩
  | clear clearing => exact ⟨rfl, rfl, fun _ => rfl⟩

/-- Results that are still cached were cached before, and the call has not just returned on their
experiment. -/
lemma ConversionMove.cached {c : ConversionCall}
    {sg : ConversionStage} (hm : ConversionMove redis c af sg)
    (hl : af.results.get now id = some analysis) : redis.results.get now id = some analysis ∧
      (sg = .returned → c.conversion.experimentId ≠ id) := by
  cases hm with
  | quiet hnc hct hn hs =>
    rw [hs.results] at hl
    exact ⟨hl, fun hr => absurd hr hn⟩
  | count counting day => exact ⟨hl, nofun⟩
  | clear clearing =>
    by_cases hh : id = c.conversion.experimentId
    · subst hh
      cases (get_del_self _ _ _).symm.trans hl
    · exact ⟨(get_del_of_ne _ _ hh).symm.trans hl, fun _ h => hh h.symm⟩

lemma invariant_resumeConversion (inv : Invariant es s)
    (h : s.resumeConversion i = some t) : Invariant es t := by
  have hl := later_resumeConversion h
  have hc := conversions_resume inv.conversions h
  obtain ⟨c, redis, sg, hf, hr, hm, rfl⟩ := move_of_resumeConversion h
  obtain ⟨hun, ms, hcn⟩ := hm.participants
  refine ⟨hun.trans inv.unchanged, ?_, hc, ?_, ?_, ?_⟩
  · exact inv.participants.of_same ⟨hun, ms, hcn, rfl, rfl⟩
  · intro id analysis hlv
    obtain ⟨b, he⟩ := hm.cached hlv
    refine (inv.cached id analysis b).later hl rfl ?_
    intro j cv hrt hh
    rcases getElem?_set_cases hrt with ⟨rfl, hs⟩ | ⟨-, old⟩
    · cases hs
      exact absurd hh (he rfl)
    · exact old
  · exact fun x mem => (inv.began x mem).later hl
  · exact fun x mem => (inv.watches x mem).later hl

section

variable (hct : ConversionsCounted es s) (hb : Began es s c)
include hct hb

/-- Everything that had been completed when the call began counts for one of the variants. -/
lemma fresh_of_counts {e : Experiment} {ps : List (String × String)}
    {cs : List (Nat × String)} (hst : Stored es c.experimentId e)
    (hp : ps <+: s.participantLog c.experimentId)
    (hc : cs <+: s.conversionLog c.experimentId e.primaryGoal.id) (cn : CountsOf analysis e ps cs)
    (hj : ∀ j ∈ c.joined, j ∈ ps) (hrc : ∀ cv ∈ c.recorded, cv.2.goalId = e.primaryGoal.id →
        (cv.1, cv.2.variantId) ∈ cs) : Fresh es s c analysis := by
  refine ⟨e, ps, cs, hst, hp, hc, cn, ?_, ?_⟩
  · intro j mem
    rw [cn.variants]
    exact ⟨hj j mem, (hb.joined j mem).2 e hst⟩
  · intro cv mem hg
    obtain ⟨hr, hh⟩ := hb.recorded cv mem
    obtain ⟨en, hf, rfl⟩ := hst
    have hkn := hct.known _ (mem_of_getElem? hr) en (by rw [hh]; exact hf)
    rw [cn.variants]
    exact ⟨hrc cv mem hg, hkn hg⟩

lemma fresh_of_current (hcr : Current es s c.experimentId analysis) : Fresh es s c analysis := by
  obtain ⟨e, conversions, hst, hea, cs, hc⟩ := hcr
  refine fresh_of_counts hct hb hst prefix_rfl hea cs ?_ ?_
  · exact fun j mem => (hb.joined j mem).1
  · intro cv mem hg
    obtain ⟨hr, hh⟩ := hb.recorded cv mem
    exact hc _ _ hr hh hg

lemma Reads.fresh {cs : Counts} {cd : ChartData} (hr : Reads es s c cs) :
    Fresh es s c (cs.analysis env cd) := by
  obtain ⟨participants, hp, ht, hj⟩ := hr.participants
  obtain ⟨conversions, hc, ht', hrc⟩ := hr.conversions
  exact fresh_of_counts hct hb hr.stored hp hc (countsOf_analysis ht ht') hj hrc

end

lemma eq_of_tally {A : Type} {e log : List (A × String)} (h : e <+: log)
    (hs : tally (e.map (·.2)) = tally (log.map (·.2))) : e = log := by
  have ht := congrArg (fun cs : CountHash => cs.values.sum) hs
  simp only [sum_values_tally, length_map] at ht
  exact h.eq_of_length (Int.ofNat.inj ht)

/-- Counts that are cached while the counters are as they were read are current. -/
lemma Reads.current {cn : Counts} {cd : ChartData} (hr : Reads es s c cn)
    (inv : Invariant es s) (hs :
      cn.participantCounts = s.redis.counters (.participants c.experimentId))
    (hsm : cn.conversionCounts = s.redis.counters
      (.conversions c.experimentId cn.experiment.primaryGoal.id)) :
    Current es s c.experimentId (cn.analysis env cd).afterJson := by
  obtain ⟨ps, hp, ht, -⟩ := hr.participants
  obtain ⟨cs, hc, ht', -⟩ := hr.conversions
  have all : ps = s.participantLog c.experimentId := eq_of_tally hp
      (ht.symm.trans (hs.trans (inv.participants.accounted.tallied _)))
  have all' : cs = s.conversionLog c.experimentId cn.experiment.primaryGoal.id := eq_of_tally hc
      (ht'.symm.trans (hsm.trans (inv.conversions.tallied _ _)))
  subst all
  refine ⟨cn.experiment, cs, hr.stored, hc, (countsOf_analysis ht ht').afterJson, ?_⟩
  intro i cv hrt hh hg
  have hlg := inv.conversions.logged i _ hrt rfl
  rw [all', ← hh, ← hg]
  exact hlg

lemma stored_of_getExperiment {e : Experiment} (hun : s.redis.experiments = es)
    (hf : s.redis.getExperiment now id = some e) : Stored es id e := by
  obtain ⟨en, hst, -, v⟩ := get_eq_some_iff.mp hf
  exact ⟨en, hun ▸ hst, v⟩

lemma watches_next {stage : AnalysisStage} (inv : Invariant es s) (hb : Began es s c)
    (hwt : Watches es s c) (h : c.next env s.redis s.now = some (af, stage)) :
    Watches es s { c with stage := stage } := by
  obtain ⟨id, xs, rc, an⟩ := c
  cases an with
  | readResults =>
    simp only [AnalysisCall.next] at h
    split at h
    · rename_i rs hl
      cases h
      have hfr := fresh_of_current inv.conversions hb (inv.cached id rs hl)
      exact hfr
    · cases h
      trivial
  | readExperiment =>
    simp only [AnalysisCall.next] at h
    split at h
    · rename_i e hf
      cases h
      exact stored_of_getExperiment inv.unchanged hf
    · cases h
      trivial
  | readParticipants e =>
    cases h
    exact ⟨hwt, _, prefix_rfl, inv.participants.accounted.tallied id,
      fun j mem => (hb.joined j mem).1⟩
  | readConversions e ps =>
    cases h
    refine ⟨hwt.1, hwt.2, _, prefix_rfl, inv.conversions.tallied id _, ?_⟩
    intro cv mem hg
    obtain ⟨returned, hh⟩ := hb.recorded cv mem
    have hlg := inv.conversions.logged _ _ returned rfl
    rw [hh, hg] at hlg
    exact hlg
  | readRevenue e ps conversionCounts =>
    cases h
    exact ⟨hwt.1, hwt.2.1, hwt.2.2⟩
  | readDayParticipants cs t i =>
    cases h
    exact { hwt with }
  | readDayConversions cs t i dayParticipants =>
    cases i with
    | zero | succ _ =>
      cases h
      exact { hwt with }
  | readDistribution cs t =>
    cases h
    exact ⟨{ hwt with }, env, _, rfl⟩
  | storeResults cs analysis =>
    cases h
    obtain ⟨hr, env', cd, rfl⟩ := hwt
    have hfr : Fresh es s _ (cs.analysis env' cd) := hr.fresh inv.conversions hb
    exact hfr
  | returned _ | rejected _ => cases h

lemma redis_of_next {sg : AnalysisStage} (h : c.next env redis now = some (af, sg)) :
    af = redis ∨ ∃ cs a, c.stage = .storeResults cs a ∧ af = { redis with
        results := redis.results.setex now c.experimentId resultsCacheTtl a.afterJson } := by
  obtain ⟨id, xs, rc, an⟩ := c
  cases an with
  | readResults | readExperiment =>
    simp only [AnalysisCall.next] at h
    split at h <;> cases h <;> exact .inl rfl
  | readDayConversions _ _ i _ => cases i <;> cases h <;> exact .inl rfl
  | storeResults _ _ =>
    cases h
    exact .inr ⟨_, _, rfl, rfl⟩
  | returned _ | rejected _ => cases h
  | _ =>
    cases h
    exact .inl rfl

lemma invariant_resumeAnalysis (inv : Invariant es s)
    (hca : ∀ c ∈ s.analyses[i]?, CarefulAnalysis s c)
    (h : s.resumeAnalysis env i = some t) : Invariant es t := by
  obtain ⟨c, hf, r⟩ := bind_eq_some_iff.mp h
  obtain ⟨⟨redis, stage⟩, hn, rfl⟩ := map_eq_some_iff.mp r
  have mem := mem_of_getElem? hf
  have hbg := inv.began c mem
  have hwt := watches_next inv hbg (inv.watches c mem) hn
  have hl : Later s { s with
      redis := redis, analyses := s.analyses.set i { c with stage := stage } } :=
    ⟨fun _ => prefix_rfl, fun _ _ => prefix_rfl, fun _ _ hrt => hrt⟩
  have hb' : ∀ x ∈ s.analyses.set i { c with stage := stage }, Began es s x :=
    forall_set inv.began i ⟨hbg.joined, hbg.recorded⟩
  have hw' : ∀ x ∈ s.analyses.set i { c with stage := stage },
      Watches es s x := forall_set inv.watches i hwt
  have hsm : redis.experiments = s.redis.experiments ∧ redis.mappings = s.redis.mappings ∧
      redis.counters = s.redis.counters := by
    rcases redis_of_next hn with rfl | ⟨cs, analysis, -, rfl⟩ <;> exact ⟨rfl, rfl, rfl⟩
  obtain ⟨he', ms, hc⟩ := hsm
  refine ⟨he'.trans inv.unchanged, ?_, ?_, ?_, ?_, ?_⟩
  · exact inv.participants.of_same ⟨he', ms, fun _ => by rw [hc], rfl, rfl⟩
  · refine ⟨?_, inv.conversions.logged, inv.conversions.known⟩
    rw [hc]
    exact inv.conversions.tallied
  · intro id analysis hlv
    have hb : Current es s id analysis := by
      rcases redis_of_next hn with rfl | ⟨cs, st, hs, rfl⟩
      · exact inv.cached id analysis hlv
      · by_cases hh : id = c.experimentId
        · subst hh
          cases eq_of_get_setex hlv
          have hcr := hca c hf cs (by rw [hs]; rfl)
          have hr := inv.watches c mem
          rw [Watches, hs] at hr
          obtain ⟨hr, env', chartData, rfl⟩ := hr
          exact hr.current inv hcr.1 hcr.2
        · exact inv.cached id analysis ((get_setex_of_ne _ _ hh _ _).symm.trans hlv)
    exact hb.later hl rfl fun _ _ hrt _ => hrt
  · exact fun x ho => (hb' x ho).later hl
  · exact fun x ho => (hw' x ho).later hl

lemma mem_joined {j : String × String} (mem : j ∈ s.joined id) : ∃ c ∈ s.participants,
      c.experimentId = id ∧ c.key = j.1 ∧ c.stage = .returned j.2 := by
  obtain ⟨c, hc, hj⟩ := mem_filterMap.mp mem
  obtain ⟨hm, he⟩ := mem_filter.mp hc
  rw [ParticipantCall.joinedAs] at hj
  split at hj
  · rename_i hr
    cases hj
    exact ⟨c, hm, of_decide_eq_true he, rfl, hr⟩
  · cases hj

lemma mem_recorded {cv : Nat × ConversionEvent} (mem : cv ∈ s.recorded id) :
    s.conversions[cv.1]? = some ⟨cv.2, .returned⟩ ∧ cv.2.experimentId = id := by
  obtain ⟨⟨c, i⟩, hc, rfl⟩ := mem_map.mp mem
  obtain ⟨hm, hr⟩ := mem_filter.mp hc
  obtain ⟨hrt, hh⟩ := of_decide_eq_true hr
  have hf := mem_zipIdx_iff_getElem?.mp hm
  refine ⟨?_, hh⟩
  rw [hf, ← hrt]

variable (inv : Invariant es s)
include inv

lemma began_calculate (id : String) : Began es s
      ⟨id, s.joined id, s.recorded id, .readResults⟩ := by
  constructor
  · intro j mem
    obtain ⟨c, hc, rfl, hk, hr⟩ := mem_joined mem
    have hlg := inv.participants.settled c hc j.2 (by rw [hr]; rfl)
    rw [hk] at hlg
    refine ⟨hlg, ?_⟩
    rintro e ⟨entry, hst, rfl⟩
    obtain ⟨entry', hs', has⟩ := (inv.participants.consistent.calls c hc).variant
      j.2 (by rw [hr]; rfl)
    rw [inv.unchanged] at hs'
    cases hst.symm.trans hs'
    exact mem_of_assignVariant has
  · exact fun cv mem => mem_recorded mem

lemma Invariant.of_same (hn : s.now ≤ now) {js : List ParticipantCall}
    {cs : List AnalysisCall} (participants :
      ParticipantsCounted { s with now := now, participants := js, analyses := cs })
    (hb : ∀ c ∈ cs, Began es s c) (hwt : ∀ c ∈ cs, Watches es s c) :
    Invariant es { s with now := now, participants := js, analyses := cs } := by
  have hl : Later s { s with now := now, participants := js, analyses := cs } :=
    ⟨fun _ => prefix_rfl, fun _ _ => prefix_rfl, fun _ _ hr => hr⟩
  refine ⟨inv.unchanged, participants, { inv.conversions with }, ?_, ?_, ?_⟩
  · intro id analysis hlv
    exact (inv.cached id analysis (get_of_later hn hlv)).later hl rfl fun _ _ hr _ => hr
  · exact fun c mem => (hb c mem).later hl
  · exact fun c mem => (hwt c mem).later hl

lemma invariant_record {cv : ConversionEvent} (hkn : KnownVariant es cv) : Invariant es
      { s with conversions := s.conversions ++ [⟨cv, .readExperiment⟩] } := by
  have hl : Later s { s with conversions := s.conversions ++ [⟨cv, .readExperiment⟩] } := by
    refine ⟨fun _ => prefix_rfl, fun _ _ => prefix_rfl, ?_⟩
    intro i x hret
    obtain ⟨hin, -⟩ := List.getElem?_eq_some_iff.mp hret
    exact (getElem?_append_left hin).trans hret
  refine ⟨inv.unchanged, inv.participants.of_same ⟨rfl, rfl, fun _ => rfl, rfl, rfl⟩,
    ?_, ?_, ?_, ?_⟩
  · refine ⟨inv.conversions.tallied, ?_, forall_append inv.conversions.known hkn⟩
    intro i c hf hct
    rcases getElem?_append_cases hf with ⟨-, rfl⟩ | old
    · cases hct
    · exact inv.conversions.logged i c old hct
  · intro id analysis live
    refine (inv.cached id analysis live).later hl rfl ?_
    intro i x hret _
    rcases getElem?_append_cases hret with ⟨-, new⟩ | old
    · cases new
    · exact old
  · exact fun c mem => (inv.began c mem).later hl
  · exact fun c mem => (inv.watches c mem).later hl

lemma invariant_step {l : Label} (hca : Careful s l) (h : step env s l = some t) :
    Invariant es t := by
  cases l with
  | addParticipant p =>
    cases h
    refine inv.of_same le_rfl ?_ inv.began inv.watches
    refine ⟨consistent_add inv.participants.consistent p,
      accounted_add inv.participants.accounted p, ?_⟩
    apply forall_append inv.participants.settled
    rintro _ ⟨⟩
  | resumeParticipant i => exact invariant_resumeParticipant h inv hca
  | recordConversion cv =>
    cases h
    rw [Careful, inv.unchanged] at hca
    exact invariant_record inv hca
  | resumeConversion i => exact invariant_resumeConversion inv h
  | calculateResults id =>
    cases h
    exact inv.of_same le_rfl (inv.participants.of_same ⟨rfl, rfl, fun _ => rfl, rfl, rfl⟩)
      (forall_append inv.began (began_calculate inv id))
      (forall_append inv.watches trivial)
  | resumeAnalysis i => exact invariant_resumeAnalysis inv hca h
  | advance milliseconds =>
    cases h
    exact inv.of_same (Nat.le_add_right _ _)
      (inv.participants.of_same ⟨rfl, rfl, fun _ => rfl, rfl, rfl⟩) inv.began inv.watches
  | _ => exact hca.elim

end

lemma invariant_launched (ex : ExpiringKeys String Experiment) (now : Nat) :
    Invariant ex (launched ex now) where
  unchanged := rfl
  participants := by
    refine ⟨consistent_launched ex now, accounted_launched ex now, ?_⟩
    rintro _ ⟨⟩
  conversions := by
    refine ⟨fun _ _ => rfl, ?_, ?_⟩
    · rintro _ _ ⟨⟩
    · rintro _ ⟨⟩
  cached id analysis live := by
    obtain ⟨e, hst, -⟩ := get_eq_some_iff.mp live
    simp [launched, holding] at hst
  began := by rintro _ ⟨⟩
  watches := by rintro _ ⟨⟩

theorem fresh_of_careful (env : Environment) (experiments : ExpiringKeys String Experiment)
    (now : Nat) {labels : List Label} {t : State}
    (run : Run (step env) Careful (launched experiments now) labels t) :
    ∀ call ∈ t.analyses, ∀ analysis, call.stage = .returned analysis →
      Fresh experiments t call analysis := by
  have inv := run.invariant (Invariant experiments)
    (fun _ _ _ inv hc h => invariant_step inv hc h) (invariant_launched experiments now)
  intro call mem analysis hr
  have hw := inv.watches call mem
  rwa [Watches, hr] at hw

deriving instance Decidable for KnownVariant, CarefulParticipant, CarefulAnalysis

instance (s : State) (label : Label) : Decidable (Careful s label) := by
  induction label using Label.casesOn <;> dsimp only [Careful] <;> infer_instance

def concernsCounts : Label → Bool
  | .addParticipant _ => true
  | .resumeParticipant _ => true
  | .recordConversion _ => true
  | .resumeConversion _ => true
  | .calculateResults _ => true
  | .resumeAnalysis _ => true
  | .advance _ => true
  | _ => false

/-- Participants are added, conversions are recorded, results are asked for, and time passes. -/
def OnlyCounting (_ : State) (label : Label) : Prop := concernsCounts label

deriving instance Decidable for OnlyCounting

/-- Variant, participants and conversions. -/
def variantCounts (analysis : StatisticalAnalysis) : List (String × Int × Int) :=
  analysis.variants.map fun result =>
    (result.variantId, result.participantCount, result.conversionCount)

/-- Who had joined when a call began, how many conversions had been recorded, and what it
returned. -/
structure Outcome where
  joined : List (String × String)
  recorded : Nat
  counts : List (String × Int × Int)
  deriving DecidableEq

def outcome (call : AnalysisCall) : Option Outcome :=
  match call.stage with
  | .returned analysis => some ⟨call.joined, call.recorded.length, variantCounts analysis⟩
  | _ => none

lemma returned_of_outcome {c : AnalysisCall} {s : Outcome} (h : outcome c = some s) :
    c.joined = s.joined ∧ ∃ a, c.stage = .returned a ∧ variantCounts a = s.counts := by
  rw [outcome] at h
  split at h
  · rename_i a sg
    cases h
    exact ⟨rfl, a, sg, rfl⟩
  · cases h

def joins (userId : String) (index : Nat) : List Label :=
  .addParticipant (visitor userId) :: List.replicate 6 (.resumeParticipant index)

/-- A call that finds nothing cached: five reads, two for each of thirty days, one more, and the
write. -/
def calculates (index : Nat) : List Label :=
  .calculateResults "e1" :: List.replicate 67 (.resumeAnalysis index)

/-- A user joins and converts, and results are asked for twice. -/
def convertAndAsk : List Label := List.flatten
  [joins "u1" 0, [.recordConversion ⟨"e1", "treatment", "p1", "signup", none⟩],
    List.replicate 5 (.resumeConversion 0), calculates 0,
    [.advance 60000, .calculateResults "e1", .resumeAnalysis 1]]

theorem convertAndAsk_is_fresh : ∃ t call analysis,
    Run (step plainEnvironment) Careful (launched plainExperiments 0) convertAndAsk t ∧
    t.analyses[1]? = some call ∧ call.joined = [("u1", "treatment")] ∧
    call.stage = .returned analysis ∧
    variantCounts analysis = [("control", 0, 0), ("treatment", 1, 1)] ∧
    Fresh plainExperiments t call analysis := by
  have hrc : ∃ t ∈ execWithin (step plainEnvironment) Careful (launched plainExperiments 0)
      convertAndAsk, ∃ call ∈ t.analyses[1]?, outcome call =
        some ⟨[("u1", "treatment")], 1, [("control", 0, 0), ("treatment", 1, 1)]⟩ := by
    decide +kernel
  obtain ⟨t, he, call, hf, s⟩ := hrc
  obtain ⟨hj, analysis, hr, cs⟩ := returned_of_outcome s
  have run := run_of_execWithin he
  exact ⟨t, call, analysis, run, hf, hj, hr, cs,
    fresh_of_careful plainEnvironment plainExperiments 0 run call (mem_of_getElem? hf) analysis hr⟩

/-- Results are asked for, a user joins, and results are asked for again. -/
def joinAndAsk : List Label :=
  calculates 0 ++ joins "u1" 0 ++ [.calculateResults "e1", .resumeAnalysis 1]

theorem joinAndAsk_misses_the_participant : ∃ t call analysis,
    Run (step plainEnvironment) OnlyCounting (launched plainExperiments 0) joinAndAsk t ∧
    t.analyses[1]? = some call ∧ call.joined = [("u1", "treatment")] ∧
    call.stage = .returned analysis ∧
    variantCounts analysis = [("control", 0, 0), ("treatment", 0, 0)] ∧
    ¬ Fresh plainExperiments t call analysis := by
  have hrc : ∃ t ∈ execWithin (step plainEnvironment) OnlyCounting
      (launched plainExperiments 0) joinAndAsk, ∃ call ∈ t.analyses[1]?, outcome call =
        some ⟨[("u1", "treatment")], 0, [("control", 0, 0), ("treatment", 0, 0)]⟩ := by
    decide +kernel
  obtain ⟨t, he, call, hf, s⟩ := hrc
  obtain ⟨hjn, analysis, hr, cs⟩ := returned_of_outcome s
  refine ⟨t, call, analysis, run_of_execWithin he, hf, hjn, hr, cs, ?_⟩
  rintro ⟨experiment, ps, conversions, -, -, -, hi, hj, -⟩
  obtain ⟨c, hl⟩ := hj ("u1", "treatment") (by simp [hjn])
  obtain ⟨r, hrs, hid⟩ := mem_map.mp hl
  have hz : r.participantCount = 0 := by
    have mem : (r.variantId, r.participantCount, r.conversionCount) ∈
        variantCounts analysis := mem_map_of_mem hrs
    rw [cs] at mem
    simp only [mem_cons, Prod.mk.injEq, not_mem_nil, or_false] at mem
    omega
  have hp : 0 < (ps.map (·.2)).count "treatment" := count_pos_iff.mpr (mem_map_of_mem c)
  have ho := hi.participants r hrs
  rw [hz, hid] at ho
  exact absurd ho (by exact_mod_cast hp.ne)

end ResultsFreshness
