import Mathlib.Tactic.Cases
import Optimizely.UniversalABTesting

/-!
# Calls of the universal A/B testing service

The asynchronous methods split at their awaits. A call suspends before each Redis command; a step
executes the command and runs on to the next. Commands are atomic and do not fail. What a call has
read is kept in its stage.
-/

namespace UniversalABTesting

/-- The command that a call of `addParticipant` is about to execute. -/
inductive ParticipantStage where
  | readExperiment
  | readMapping (variants : List ExperimentVariant)
  | storeParticipant (variantId : String)
  | storeMapping (variantId : String)
  | count (variantId : String)
  | countDaily (variantId day : String)
  | returned (variantId : String)
  | rejected (message : String)
  deriving DecidableEq

structure ParticipantCall where
  participant : ParticipantInput
  stage : ParticipantStage
  deriving DecidableEq

namespace ParticipantCall

abbrev experimentId (call : ParticipantCall) : String := call.participant.experimentId

abbrev key (call : ParticipantCall) : String := call.participant.participantKey

/-- Where the call goes on once it knows the variants and the stored assignment. -/
def afterMapping (call : ParticipantCall) (variants : List ExperimentVariant)
    (existingVariant : Option String) : ParticipantStage :=
  match truthyText existingVariant with
  | some variantId => .returned variantId
  | none =>
    match assignVariant variants call.key with
    | some variantId => .storeParticipant variantId
    | none => .rejected "Cannot read properties of undefined (reading 'id')"

/-- The record written by `storeParticipant` is read by nothing. -/
def next (call : ParticipantCall) (redis : Redis) (now : Nat) : Option (Redis × ParticipantStage) :=
  match call.stage with
  | .readExperiment =>
    match redis.runningExperiment now call.experimentId with
    | .error message => some (redis, .rejected message)
    | .ok experiment => some (redis, .readMapping experiment.variants)
  | .readMapping variants =>
    some (redis, call.afterMapping variants (redis.mappings.get now (call.experimentId, call.key)))
  | .storeParticipant variantId => some (redis, .storeMapping variantId)
  | .storeMapping variantId =>
    some ({ redis with
      mappings := redis.mappings.setex now (call.experimentId, call.key) Redis.participantTtl
        variantId }, .count variantId)
  | .count variantId =>
    some (redis.hincrby (.participants call.experimentId) variantId,
      .countDaily variantId (getDateKey now))
  | .countDaily variantId day =>
    some (redis.hincrby (.participantsDaily call.experimentId day) variantId, .returned variantId)
  | .returned _ => none
  | .rejected _ => none

end ParticipantCall

structure ConversionEvent where
  experimentId : String
  variantId : String
  participantId : String
  goalId : String
  value : Option JsNumber
  deriving DecidableEq

/-- The value if it is truthy. -/
def ConversionEvent.amount (conversion : ConversionEvent) : Option JsNumber :=
  conversion.value.filter fun value => (JsValue.number value).truthy

inductive ConversionStage where
  | readExperiment
  | storeConversion
  | count
  | countDaily (day : String)
  | addRevenue (amount : JsNumber)
  | addRevenueDaily (amount : JsNumber) (day : String)
  | clearResults
  | returned
  | rejected (message : String)
  deriving DecidableEq

structure ConversionCall where
  conversion : ConversionEvent
  stage : ConversionStage
  deriving DecidableEq

/-- `hincrbyfloat` refuses an infinite increment. -/
def Redis.addRevenue (redis : Redis) (key : RevenueKey) (field : String) (amount : JsNumber)
    (stage : ConversionStage) : Redis × ConversionStage :=
  match amount with
  | .finite amount => (redis.hincrbyfloat key field amount, stage)
  | _ => (redis, .rejected "ERR value is NaN or Infinity")

def ConversionCall.next (call : ConversionCall) (redis : Redis) (now : Nat) :
    Option (Redis × ConversionStage) :=
  let conversion := call.conversion
  match call.stage with
  | .readExperiment =>
    match redis.runningExperiment now conversion.experimentId with
    | .error message => some (redis, .rejected message)
    | .ok _ => some (redis, .storeConversion)
  | .storeConversion => some (redis, .count)
  | .count =>
    some (redis.hincrby (.conversions conversion.experimentId conversion.goalId)
      conversion.variantId, .countDaily (getDateKey now))
  | .countDaily day =>
    let redis := redis.hincrby (.conversionsDaily conversion.experimentId conversion.goalId day)
      conversion.variantId
    match conversion.amount with
    | some amount => some (redis, .addRevenue amount)
    | none => some (redis, .clearResults)
  | .addRevenue amount =>
    some (redis.addRevenue (.revenue conversion.experimentId conversion.goalId)
      conversion.variantId amount (.addRevenueDaily amount (getDateKey now)))
  | .addRevenueDaily amount day =>
    some (redis.addRevenue (.revenueDaily conversion.experimentId conversion.goalId day)
      conversion.variantId amount .clearResults)
  | .clearResults =>
    some ({ redis with results := redis.results.del [conversion.experimentId] }, .returned)
  | .returned => none
  | .rejected _ => none

/-- The loop over the days holds the timeline so far and the number of the day. -/
inductive AnalysisStage where
  | readResults
  | readExperiment
  | readParticipants (experiment : Experiment)
  | readConversions (experiment : Experiment) (participantCounts : CountHash)
  | readRevenue (experiment : Experiment) (participantCounts conversionCounts : CountHash)
  | readDayParticipants (counts : Counts) (timeline : List TimelineEntry) (i : Nat)
  | readDayConversions (counts : Counts) (timeline : List TimelineEntry) (i : Nat)
      (dayParticipants : CountHash)
  | readDistribution (counts : Counts) (timeline : List TimelineEntry)
  | storeResults (counts : Counts) (analysis : StatisticalAnalysis)
  | returned (analysis : StatisticalAnalysis)
  | rejected (message : String)

/-- A call of `calculateResults`. `joined` and `recorded` hold what had been completed on the
experiment when it began: keys with the variant returned, and conversions with the number of their
call. -/
structure AnalysisCall where
  experimentId : String
  joined : List (String × String)
  recorded : List (Nat × ConversionEvent)
  stage : AnalysisStage

def AnalysisCall.next (env : Environment) (call : AnalysisCall) (redis : Redis) (now : Nat) :
    Option (Redis × AnalysisStage) :=
  let id := call.experimentId
  match call.stage with
  | .readResults =>
    match redis.results.get now id with
    | some results => some (redis, .returned results)
    | none => some (redis, .readExperiment)
  | .readExperiment =>
    match redis.getExperiment now id with
    | some experiment => some (redis, .readParticipants experiment)
    | none => some (redis, .rejected "Experiment not found")
  | .readParticipants experiment =>
    some (redis, .readConversions experiment (redis.counters (.participants id)))
  | .readConversions experiment participantCounts =>
    some (redis, .readRevenue experiment participantCounts
      (redis.counters (.conversions id experiment.primaryGoal.id)))
  | .readRevenue experiment participantCounts conversionCounts =>
    some (redis, .readDayParticipants
      { experimentId := id
        experiment := experiment
        participantCounts := participantCounts
        conversionCounts := conversionCounts
        revenueCounts := redis.revenue (.revenue id experiment.primaryGoal.id)
        readAt := now } [] 29)
  | .readDayParticipants counts timeline i =>
    some (redis, .readDayConversions counts timeline i
      (redis.counters (.participantsDaily id (dateKeyBefore counts.readAt i))))
  | .readDayConversions counts timeline i dayParticipants =>
    let date := dateKeyBefore counts.readAt i
    let dayConversions :=
      redis.counters (.conversionsDaily id counts.experiment.primaryGoal.id date)
    let timeline :=
      timeline ++ [timelineEntry counts.experiment date dayParticipants dayConversions]
    match i with
    | 0 => some (redis, .readDistribution counts timeline)
    | i + 1 => some (redis, .readDayParticipants counts timeline i)
  | .readDistribution counts timeline =>
    let distribution := distributionOf counts.experiment (redis.counters (.participants id))
    some (redis, .storeResults counts (counts.analysis env ⟨timeline, distribution⟩))
  | .storeResults _ analysis =>
    some ({ redis with
      results := redis.results.setex now id Redis.resultsCacheTtl analysis.afterJson },
      .returned analysis)
  | .returned _ => none
  | .rejected _ => none

/-- What `startExperiment`, `pauseExperiment` and `stopExperiment` do with the experiment they
have read, before they call `updateExperiment`. -/
inductive Lifecycle where
  | start
  | pause
  | stop (winnerId : Option String)
  deriving DecidableEq

def Lifecycle.updates (lifecycle : Lifecycle) (experiment : Experiment) (now : Nat) :
    Except String Updates :=
  match lifecycle with
  | .start =>
    if experiment.status ≠ .draft then .error "Only draft experiments can be started"
    else .ok { noUpdates with status := some .running, startDate := some now }
  | .pause =>
    if experiment.status ≠ .running then .error "Only running experiments can be paused"
    else .ok { noUpdates with status := some .paused }
  | .stop winnerId =>
    if experiment.status ≠ .running ∧ experiment.status ≠ .paused then
      .error "Only running or paused experiments can be stopped"
    else
      let updates := { noUpdates with status := some .completed, endDate := some now }
      match truthyText winnerId with
      | none => .ok updates
      | some winnerId =>
        match experiment.variants.find? (·.id = winnerId) with
        | none => .error "Invalid winner variant ID"
        | some winner =>
          .ok { updates with
            metadata := some { experiment.metadata with
              winnerId := some winnerId
              winnerName := some winner.name } }

/-- The first five stages are those of `createExperiment`, the others those of
`updateExperiment`, after the check of its callers. -/
inductive ChangeStage where
  | storeNew (experiment : Experiment)
  | addToAll (experiment : Experiment)
  | addToStatus (experiment : Experiment)
  | addToType (experiment : Experiment)
  | addToTeam (team : String)
  | check (lifecycle : Lifecycle)
  | read (updates : Updates)
  | storeUpdated (experiment : Experiment) (updates : Updates)
  | removeFromStatus (old new : Status)
  | addToNewStatus (new : Status)
  | returned
  | rejected (message : String)
  deriving DecidableEq

structure ChangeCall where
  experimentId : String
  stage : ChangeStage
  deriving DecidableEq

def updateGuard (experiment : Experiment) (updates : Updates) : Except String Unit :=
  if experiment.status = .running ∧ updates.isForbidden then
    .error "Cannot modify variants, goals, or settings while experiment is running"
  else .ok ()

/-- Where `updateExperiment` goes on once it has stored the experiment. -/
def afterUpdate (experiment : Experiment) (updates : Updates) : ChangeStage :=
  match updates.status with
  | some status =>
    if status ≠ experiment.status then .removeFromStatus experiment.status status else .returned
  | none => .returned

def Redis.store (redis : Redis) (now : Nat) (id : String) (experiment : Experiment) : Redis :=
  { redis with experiments := redis.experiments.setex now id Redis.experimentTtl experiment }

def Redis.saddStatus (redis : Redis) (status : Status) (id : String) : Redis :=
  { redis with
    byStatus := Function.update redis.byStatus status (insert id (redis.byStatus status)) }

def Redis.sremStatus (redis : Redis) (status : Status) (id : String) : Redis :=
  { redis with
    byStatus := Function.update redis.byStatus status ((redis.byStatus status).erase id) }

def Redis.saddType (redis : Redis) (type : ExperimentType) (id : String) : Redis :=
  { redis with byType := Function.update redis.byType type (insert id (redis.byType type)) }

def Redis.saddTeam (redis : Redis) (team : String) (id : String) : Redis :=
  { redis with byTeam := Function.update redis.byTeam team (insert id (redis.byTeam team)) }

def ChangeCall.next (call : ChangeCall) (redis : Redis) (now : Nat) :
    Option (Redis × ChangeStage) :=
  let id := call.experimentId
  match call.stage with
  | .storeNew experiment => some (redis.store now id experiment, .addToAll experiment)
  | .addToAll experiment =>
    some ({ redis with all := insert id redis.all }, .addToStatus experiment)
  | .addToStatus experiment =>
    some (redis.saddStatus experiment.status id, .addToType experiment)
  | .addToType experiment =>
    match truthyText experiment.metadata.team with
    | some team => some (redis.saddType experiment.type id, .addToTeam team)
    | none => some (redis.saddType experiment.type id, .returned)
  | .addToTeam team => some (redis.saddTeam team id, .returned)
  | .check lifecycle =>
    match redis.getExperiment now id with
    | none => some (redis, .rejected "Experiment not found")
    | some experiment =>
      match lifecycle.updates experiment now with
      | .error message => some (redis, .rejected message)
      | .ok updates => some (redis, .read updates)
  | .read updates =>
    match redis.getExperiment now id with
    | none => some (redis, .rejected "Experiment not found")
    | some experiment =>
      match updateGuard experiment updates with
      | .error message => some (redis, .rejected message)
      | .ok _ => some (redis, .storeUpdated experiment updates)
  | .storeUpdated experiment updates =>
    some (redis.store now id (experiment.updated updates), afterUpdate experiment updates)
  | .removeFromStatus old new => some (redis.sremStatus old id, .addToNewStatus new)
  | .addToNewStatus new => some (redis.saddStatus new id, .returned)
  | .returned => none
  | .rejected _ => none

/-- The logs are histories of the counters: the participants counted for an experiment, with their
variant, and the calls of `recordConversion` counted for a goal. -/
structure State where
  redis : Redis
  now : Nat
  participants : List ParticipantCall
  conversions : List ConversionCall
  analyses : List AnalysisCall
  changes : List ChangeCall
  participantLog : String → List (String × String)
  conversionLog : String → String → List (Nat × String)

/-- No call has been made yet, and Redis holds nothing but experiments. -/
def launched (experiments : ExpiringKeys String Experiment) (now : Nat) : State where
  redis := .holding experiments
  now := now
  participants := []
  conversions := []
  analyses := []
  changes := []
  participantLog := fun _ => []
  conversionLog := fun _ _ => []

inductive Label where
  | addParticipant (participant : ParticipantInput)
  | resumeParticipant (index : Nat)
  | recordConversion (conversion : ConversionEvent)
  | resumeConversion (index : Nat)
  | calculateResults (experimentId : String)
  | resumeAnalysis (index : Nat)
  | createExperiment (id : String) (experiment : NewExperiment)
  | updateExperiment (experimentId : String) (updates : Updates)
  | startExperiment (experimentId : String)
  | pauseExperiment (experimentId : String)
  | stopExperiment (experimentId : String) (winnerId : Option String)
  | resumeChange (index : Nat)
  | advance (milliseconds : Nat)

def ParticipantCall.joinedAs (call : ParticipantCall) : Option (String × String) :=
  match call.stage with
  | .returned variantId => some (call.key, variantId)
  | _ => none

/-- The keys whose `addParticipant` calls have returned, with the variant returned. -/
def State.joined (s : State) (experimentId : String) : List (String × String) :=
  (s.participants.filter (·.experimentId = experimentId)).filterMap (·.joinedAs)

/-- The `recordConversion` calls that have returned, with their number. -/
def State.recorded (s : State) (experimentId : String) : List (Nat × ConversionEvent) :=
  (s.conversions.zipIdx.filter fun call =>
    call.1.stage = .returned ∧ call.1.conversion.experimentId = experimentId).map
    fun call => (call.2, call.1.conversion)

def logParticipant (call : ParticipantCall) (log : String → List (String × String)) :
    String → List (String × String) :=
  match call.stage with
  | .count variantId =>
    Function.update log call.experimentId (log call.experimentId ++ [(call.key, variantId)])
  | _ => log

def logConversion (call : ConversionCall) (index : Nat)
    (log : String → String → List (Nat × String)) : String → String → List (Nat × String) :=
  let conversion := call.conversion
  match call.stage with
  | .count =>
    Function.update log conversion.experimentId
      (Function.update (log conversion.experimentId) conversion.goalId
        (log conversion.experimentId conversion.goalId ++ [(index, conversion.variantId)]))
  | _ => log

def State.resumeParticipant (s : State) (index : Nat) : Option State :=
  (s.participants[index]?).bind fun call =>
    (call.next s.redis s.now).map fun (redis, stage) =>
      { s with
        redis := redis
        participants := s.participants.set index { call with stage := stage }
        participantLog := logParticipant call s.participantLog }

def State.resumeConversion (s : State) (index : Nat) : Option State :=
  (s.conversions[index]?).bind fun call =>
    (call.next s.redis s.now).map fun (redis, stage) =>
      { s with
        redis := redis
        conversions := s.conversions.set index { call with stage := stage }
        conversionLog := logConversion call index s.conversionLog }

def State.resumeAnalysis (env : Environment) (s : State) (index : Nat) : Option State :=
  (s.analyses[index]?).bind fun call =>
    (call.next env s.redis s.now).map fun (redis, stage) =>
      { s with
        redis := redis
        analyses := s.analyses.set index { call with stage := stage } }

def State.resumeChange (s : State) (index : Nat) : Option State :=
  (s.changes[index]?).bind fun call =>
    (call.next s.redis s.now).map fun (redis, stage) =>
      { s with
        redis := redis
        changes := s.changes.set index { call with stage := stage } }

/-- Where `createExperiment` suspends first, unless it throws at once. -/
def createStage (id : String) (experiment : NewExperiment) : ChangeStage :=
  match validate experiment.variants with
  | .error message => .rejected message
  | .ok _ => .storeNew (experiment.full id)

def State.beginChange (s : State) (experimentId : String) (stage : ChangeStage) : State :=
  { s with changes := s.changes ++ [⟨experimentId, stage⟩] }

def step (env : Environment) (s : State) : Label → Option State
  | .addParticipant participant =>
    some { s with participants := s.participants ++ [⟨participant, .readExperiment⟩] }
  | .resumeParticipant index => s.resumeParticipant index
  | .recordConversion conversion =>
    some { s with conversions := s.conversions ++ [⟨conversion, .readExperiment⟩] }
  | .resumeConversion index => s.resumeConversion index
  | .calculateResults experimentId =>
    some { s with
      analyses := s.analyses ++
        [⟨experimentId, s.joined experimentId, s.recorded experimentId, .readResults⟩] }
  | .resumeAnalysis index => s.resumeAnalysis env index
  | .createExperiment id experiment => some (s.beginChange id (createStage id experiment))
  | .updateExperiment experimentId updates => some (s.beginChange experimentId (.read updates))
  | .startExperiment experimentId => some (s.beginChange experimentId (.check .start))
  | .pauseExperiment experimentId => some (s.beginChange experimentId (.check .pause))
  | .stopExperiment experimentId winnerId =>
    some (s.beginChange experimentId (.check (.stop winnerId)))
  | .resumeChange index => s.resumeChange index
  | .advance milliseconds => some { s with now := s.now + milliseconds }

/-- Rational stand-ins for the square root and the exponential of numbers below zero. -/
def plainEnvironment : Environment where
  sqrt q := if q < 0 then none else some (Nat.sqrt (q * 10 ^ 12).floor.toNat / 10 ^ 6)
  exp q := 1 / (1 - q + q ^ 2 / 2)
  showNumber q := toString q
  toFixed q := toString q

def plainExperiment : Experiment where
  id := "e1"
  type := .abTest
  status := .running
  startDate := none
  endDate := none
  targetingRules := "\x7b\x7d"
  variants := [⟨"control", "Control", 50, true⟩, ⟨"treatment", "Treatment", 50, false⟩]
  primaryGoal := ⟨"signup"⟩
  statisticalSettings := ⟨95, none⟩
  metadata := ⟨"owner", none, none, none⟩

/-- One running experiment, stored for a year. -/
def plainExperiments : ExpiringKeys String Experiment := fun id =>
  if id = "e1" then some ⟨plainExperiment, Redis.experimentTtl * 1000⟩ else none

end UniversalABTesting
