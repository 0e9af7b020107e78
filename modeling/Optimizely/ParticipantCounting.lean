import Optimizely.TaskLists
import Optimizely.TransitionRuns
import Optimizely.UniversalABTestingCalls

/-!
# Counting participants

`addParticipant` looks for a stored assignment, chooses a variant, stores and counts it, each in its
own command, and the stored assignment expires while the counters do not. Every call for one key
returns the same variant. The counters add up to the assigned keys as long as each is assigned once.
-/

namespace ParticipantCounting

open UniversalABTesting TransitionRuns List Option TaskLists ExpiringKeys

/-- What a call of `addParticipant` can do in one step. -/
inductive Move (redis : Redis) (now : Nat) (call : ParticipantCall) :
    Redis → ParticipantStage → Prop where
  | refuse (message : String) (stage : call.stage = .readExperiment) :
      Move redis now call redis (.rejected message)
  | read {entry : ExpiringEntry Experiment} (stage : call.stage = .readExperiment)
      (stored : redis.experiments call.experimentId = some entry) :
      Move redis now call redis (.readMapping entry.value.variants)
  | reuse {variants : List ExperimentVariant} {variantId : String}
      (stage : call.stage = .readMapping variants)
      (found : truthyText (redis.mappings.get now (call.experimentId, call.key)) = some variantId) :
      Move redis now call redis (.returned variantId)
  | choose {variants : List ExperimentVariant} {variantId : String}
      (stage : call.stage = .readMapping variants)
      (missing : truthyText (redis.mappings.get now (call.experimentId, call.key)) = none)
      (assigned : assignVariant variants call.key = some variantId) :
      Move redis now call redis (.storeParticipant variantId)
  | fail {variants : List ExperimentVariant} (message : String)
      (stage : call.stage = .readMapping variants) :
      Move redis now call redis (.rejected message)
  | store {variantId : String} (stage : call.stage = .storeParticipant variantId) :
      Move redis now call redis (.storeMapping variantId)
  | map {variantId : String} (stage : call.stage = .storeMapping variantId) :
      Move redis now call
        { redis with
          mappings := redis.mappings.setex now (call.experimentId, call.key)
            Redis.participantTtl variantId }
        (.count variantId)
  | count {variantId : String} (stage : call.stage = .count variantId) :
      Move redis now call (redis.hincrby (.participants call.experimentId) variantId)
        (.countDaily variantId (getDateKey now))
  | countDaily {variantId day : String} (stage : call.stage = .countDaily variantId day) :
      Move redis now call (redis.hincrby (.participantsDaily call.experimentId day) variantId)
        (.returned variantId)

variable {af redis : Redis} {c : ParticipantCall} {now i : Nat} {stage sg : ParticipantStage}
  {s t : State} {v id key k : String}

lemma move_of_next (h : c.next redis now = some (af, sg)) : Move redis now c af sg := by
  rw [ParticipantCall.next] at h
  split at h
  · rename_i hrd
    split at h
    · cases h
      exact .refuse _ hrd
    · rename_i hr
      cases h
      obtain ⟨e, hst, rfl⟩ := Redis.runningExperiment_ok hr
      exact .read hrd hst
  · rename_i vs hrd
    rw [ParticipantCall.afterMapping] at h
    split at h
    · rename_i hf
      cases h
      exact .reuse hrd hf
    · rename_i hmi
      split at h
      · rename_i has
        cases h
        exact .choose hrd hmi has
      · cases h
        exact .fail _ hrd
  · rename_i hs
    cases h
    exact .store hs
  · rename_i hs
    cases h
    exact .map hs
  · rename_i hct
    cases h
    exact .count hct
  · rename_i hct
    cases h
    exact .countDaily hct
  · cases h
  · cases h

lemma move_of_resume (h : s.resumeParticipant i = some t) :
    ∃ c redis stage, s.participants[i]? = some c ∧ Move s.redis s.now c redis stage ∧ t = { s with
        redis := redis
        participants := s.participants.set i { c with stage := stage }
        participantLog := logParticipant c s.participantLog } := by
  obtain ⟨c, hf, r⟩ := bind_eq_some_iff.mp h
  obtain ⟨⟨redis, stage⟩, hn, rfl⟩ := map_eq_some_iff.mp r
  exact ⟨c, redis, stage, hf, move_of_next hn, rfl⟩

lemma stored_of_found {k : String × String} (hf : truthyText (redis.mappings.get now k) = some v) :
    ∃ e, redis.mappings k = some e ∧ e.value = v := by
  obtain ⟨e, he, -, hv⟩ := get_eq_some_iff.mp (Option.filter_eq_some_iff.mp hf).1
  exact ⟨e, he, hv⟩

def variantOf : ParticipantStage → Option String
  | .storeParticipant variantId => some variantId
  | .storeMapping variantId => some variantId
  | .count variantId => some variantId
  | .countDaily variantId _ => some variantId
  | .returned variantId => some variantId
  | _ => none

/-- The variant of a call that has nothing left to count in the total. -/
def settledVariant : ParticipantStage → Option String
  | .countDaily variantId _ => some variantId
  | .returned variantId => some variantId
  | _ => none

lemma variantOf_of_settled (hse : settledVariant sg = some v) : variantOf sg = some v := by
  cases sg <;> first | exact hse | cases hse

/-- The variant that the stored experiment gives to a key. -/
def Assigns (redis : Redis) (experimentId key variantId : String) : Prop :=
  ∃ entry, redis.experiments experimentId = some entry ∧
    assignVariant entry.value.variants key = some variantId

lemma Assigns.unique {v w : String} (first : Assigns redis id k v) (hs : Assigns redis id k w) :
    v = w := by
  obtain ⟨e, hst, hv⟩ := first
  obtain ⟨entry', hs', hw⟩ := hs
  cases hst.symm.trans hs'
  exact some.inj (hv.symm.trans hw)

structure Agrees (redis : Redis) (call : ParticipantCall) : Prop where
  read : ∀ variants, call.stage = .readMapping variants →
    ∃ entry, redis.experiments call.experimentId = some entry ∧ entry.value.variants = variants
  variant : ∀ variantId, variantOf call.stage = some variantId →
    Assigns redis call.experimentId call.key variantId

structure Consistent (s : State) : Prop where
  mapped : ∀ experimentId key entry, s.redis.mappings (experimentId, key) = some entry →
    Assigns s.redis experimentId key entry.value
  calls : ∀ call ∈ s.participants, Agrees s.redis call

lemma consistent_launched (es : ExpiringKeys String Experiment) (now : Nat) :
    Consistent (launched es now) := by
  constructor
  · rintro _ _ _ ⟨⟩
  · rintro _ ⟨⟩

lemma Agrees.of_experiments (hag : Agrees redis c) (hs : af.experiments = redis.experiments) :
    Agrees af c := by
  constructor
  · rw [hs]
    exact hag.read
  · simp only [Assigns, hs]
    exact hag.variant

lemma Move.experiments (hm : Move redis now c af sg) : af.experiments = redis.experiments := by
  cases hm <;> rfl

lemma Agrees.keep (hag : Agrees redis c) (hs : variantOf stage = variantOf c.stage)
    (hn : ∀ vs, stage ≠ .readMapping vs) : Agrees redis { c with stage := stage } where
  read vs h := absurd h (hn vs)
  variant v h := hag.variant v (hs ▸ h)

lemma Move.agrees (hmv : Move redis now c af stage) (hag : Agrees redis c)
    (hm : ∀ e, redis.mappings (c.experimentId, c.key) = some e →
      Assigns redis c.experimentId c.key e.value) : Agrees redis { c with stage := stage } := by
  cases hmv with
  | refuse m hr => exact hag.keep (by rw [hr]; rfl) nofun
  | read hr hst =>
    constructor
    · rintro _ ⟨⟩
      exact ⟨_, hst, rfl⟩
    · rintro _ ⟨⟩
  | reuse hr hf =>
    constructor
    · rintro _ ⟨⟩
    · rintro _ ⟨⟩
      obtain ⟨e, hst, rfl⟩ := stored_of_found hf
      exact hm e hst
  | choose hr hmi has =>
    constructor
    · rintro _ ⟨⟩
    · rintro _ ⟨⟩
      obtain ⟨e, hst, rfl⟩ := hag.read _ hr
      exact ⟨e, hst, has⟩
  | fail m hr => exact hag.keep (by rw [hr]; rfl) nofun
  | store storing | map storing => exact hag.keep (by rw [storing]; rfl) nofun
  | count hct | countDaily hct => exact hag.keep (by rw [hct]; rfl) nofun

lemma Move.mappings (hm : Move redis now c af sg)
    {e : ExpiringEntry String} (hst : af.mappings (id, k) = some e) :
    redis.mappings (id, k) = some e ∨ (id = c.experimentId ∧ k = c.key ∧
        c.stage = .storeMapping e.value ∧ sg = .count e.value) := by
  cases hm with
  | map hs =>
    change redis.mappings.setex now (c.experimentId, c.key) _ _ (id, k) = some e at hst
    by_cases hsm : (id, k) = (c.experimentId, c.key)
    · rw [hsm, setex_self] at hst
      cases hst
      cases hsm
      exact .inr ⟨rfl, rfl, hs, rfl⟩
    · rw [setex_of_ne _ _ hsm] at hst
      exact .inl hst
  | _ => exact .inl hst

lemma consistent_resume (hc : Consistent s)
    (h : s.resumeParticipant i = some t) : Consistent t := by
  obtain ⟨c, redis, sg, hf, move, rfl⟩ := move_of_resume h
  have hag := hc.calls c (mem_of_getElem? hf)
  constructor
  · intro id k e hst
    simp only [Assigns, move.experiments]
    rcases move.mappings hst with old | ⟨rfl, rfl, hs, -⟩
    · exact hc.mapped _ _ _ old
    · exact hag.variant _ (by rw [hs]; rfl)
  · apply forall_set
    · intro x mem
      exact (hc.calls x mem).of_experiments move.experiments
    · exact (move.agrees hag (hc.mapped _ _)).of_experiments move.experiments

/-- A key has been counted with a variant, or a call is about to do so. -/
def Covered (s : State) (experimentId key variantId : String) : Prop :=
  (key, variantId) ∈ s.participantLog experimentId ∨
    ∃ call ∈ s.participants, call.experimentId = experimentId ∧ call.key = key ∧
      call.stage = .count variantId

structure Accounted (s : State) : Prop where
  tallied : ∀ experimentId, s.redis.counters (.participants experimentId) =
    .tally ((s.participantLog experimentId).map (·.2))
  mapped : ∀ experimentId key entry, s.redis.mappings (experimentId, key) = some entry →
    Covered s experimentId key entry.value
  settled : ∀ call ∈ s.participants, ∀ variantId, settledVariant call.stage = some variantId →
    Covered s call.experimentId call.key variantId
  logged : ∀ experimentId, ∀ join ∈ s.participantLog experimentId,
    ∃ call ∈ s.participants, call.experimentId = experimentId ∧ call.key = join.1 ∧
      settledVariant call.stage = some join.2

lemma accounted_launched (es : ExpiringKeys String Experiment) (now : Nat) :
    Accounted (launched es now) where
  tallied _ := rfl
  mapped := by rintro _ _ _ ⟨⟩
  settled := by rintro _ ⟨⟩
  logged := by rintro _ _ ⟨⟩

lemma mem_logParticipant {log : String → List (String × String)} {j : String × String} :
    j ∈ logParticipant c log id ↔ j ∈ log id ∨
        (c.experimentId = id ∧ c.key = j.1 ∧ c.stage = .count j.2) := by
  cases h : c.stage with
  | count chosen =>
    by_cases hs : c.experimentId = id
    · subst hs
      simp [logParticipant, h, Prod.ext_iff, eq_comm]
    · simp [logParticipant, h, hs, Function.update_of_ne (Ne.symm hs)]
  | _ => simp [logParticipant, h]

lemma Covered.resume (hcv : Covered s id k v) (h : s.resumeParticipant i = some t) :
    Covered t id k v := by
  obtain ⟨c, redis, sg, hf, move, rfl⟩ := move_of_resume h
  rcases hcv with hlg | ⟨x, mem, he, hk, hct⟩
  · exact .inl (mem_logParticipant.mpr (.inl hlg))
  · by_cases hs : x = c
    · subst hs
      exact .inl (mem_logParticipant.mpr (.inr ⟨he, hk, hct⟩))
    · exact .inr ⟨x, mem_set_of_ne _ hf mem hs, he, hk, hct⟩

lemma logParticipant_of_ne (hnc : ∀ v, c.stage ≠ .count v)
    (log : String → List (String × String)) : logParticipant c log = log := by
  rw [logParticipant]
  split
  · rename_i hct
    exact absurd hct (hnc _)
  · rfl

lemma logParticipant_elsewhere (ht : c.experimentId ≠ id) (log : String → List (String × String)) :
    logParticipant c log id = log id := by
  cases h : c.stage with
  | count v =>
    rw [logParticipant, h]
    exact Function.update_of_ne ht.symm _ _
  | _ => rw [logParticipant, h]

lemma Move.counters (hm : Move redis now c af sg) : (∃ v, c.stage = .count v ∧
        af = redis.hincrby (.participants c.experimentId) v) ∨
      ((∀ v, c.stage ≠ .count v) ∧ ∀ id, af.counters (.participants id) =
          redis.counters (.participants id)) := by
  cases hm with
  | count hct => exact .inl ⟨_, hct, rfl⟩
  | countDaily hct =>
    refine .inr ⟨by simp [hct], fun id => ?_⟩
    exact Redis.counters_hincrby_of_ne _ _ (by simp)
  | _ => exact .inr ⟨by simp [*], fun _ => rfl⟩

lemma tallied_resume (ha : Accounted s) (h : s.resumeParticipant i = some t) (id : String) :
    t.redis.counters (.participants id) = .tally ((t.participantLog id).map (·.2)) := by
  obtain ⟨c, redis, sg, hf, move, rfl⟩ := move_of_resume h
  have hb := ha.tallied id
  dsimp only
  rcases move.counters with ⟨v, hct, rfl⟩ | ⟨hnc, hs⟩
  · by_cases hh : id = c.experimentId
    · subst hh
      rw [Redis.counters_hincrby_self, hb]
      simp only [logParticipant, hct, Function.update_self, map_append, map_cons,
        map_nil, OrderedMap.tally_concat]
    · have ne : CounterKey.participants id ≠ .participants c.experimentId :=
        fun h => hh (CounterKey.participants.inj h)
      rw [Redis.counters_hincrby_of_ne _ _ ne, logParticipant_elsewhere (Ne.symm hh)]
      exact hb
  · rw [hs, logParticipant_of_ne hnc]
    exact hb

section

variable (move : Move redis now c af sg)
include move

/-- A call becomes settled by being counted, or by finding a stored assignment. -/
lemma Move.settled (hse : settledVariant sg = some v) :
    settledVariant c.stage = some v ∨ c.stage = .count v ∨ (∃ vs, c.stage = .readMapping vs) ∧
        truthyText (redis.mappings.get now (c.experimentId, c.key)) = some v := by
  cases move with
  | reuse hr hf =>
    cases hse
    exact .inr (.inr ⟨⟨_, hr⟩, hf⟩)
  | count hct =>
    cases hse
    exact .inr (.inl hct)
  | countDaily hct =>
    cases hse
    exact .inl (by rw [hct]; rfl)
  | _ => cases hse

lemma Move.settled_of_settled (hse : settledVariant c.stage = some v) :
    settledVariant sg = some v := by
  cases move <;> simp_all [settledVariant]

lemma Move.settled_of_count (hct : c.stage = .count v) : settledVariant sg = some v := by
  cases move <;> simp_all [settledVariant]

end

lemma accounted_resume (ha : Accounted s) (h : s.resumeParticipant i = some t) : Accounted t := by
  have ht := tallied_resume ha h
  have hk : ∀ {id k v}, Covered s id k v → Covered t id k v := fun hcv => hcv.resume h
  obtain ⟨c, redis, sg, hf, move, rfl⟩ := move_of_resume h
  have mem := mem_of_getElem? hf
  refine ⟨ht, ?_, ?_, ?_⟩
  · intro id k e hst
    rcases move.mappings hst with old | ⟨rfl, rfl, -, hct⟩
    · exact hk (ha.mapped _ _ _ old)
    · exact .inr ⟨_, mem_set_self _ hf, rfl, rfl, hct⟩
  · apply forall_set
    · intro x ho v hse
      exact hk (ha.settled x ho v hse)
    · intro v hse
      rcases move.settled hse with old | hct | ⟨-, hr⟩
      · exact hk (ha.settled c mem v old)
      · exact .inl (mem_logParticipant.mpr (.inr ⟨rfl, rfl, hct⟩))
      · obtain ⟨e, hst, rfl⟩ := stored_of_found hr
        exact hk (ha.mapped _ _ e hst)
  · intro id j hlg
    rcases mem_logParticipant.mp hlg with old | ⟨rfl, hky, hct⟩
    · obtain ⟨x, ho, he, hky, hse⟩ := ha.logged id j old
      by_cases hs : x = c
      · subst hs
        exact ⟨_, mem_set_self _ hf, he, hky, move.settled_of_settled hse⟩
      · exact ⟨x, mem_set_of_ne _ hf ho hs, he, hky, hse⟩
    · exact ⟨_, mem_set_self _ hf, rfl, hky, move.settled_of_count hct⟩

/-- Nothing that concerns participants has changed. -/
structure SameParticipants (s t : State) : Prop where
  experiments : t.redis.experiments = s.redis.experiments
  mappings : t.redis.mappings = s.redis.mappings
  counters : ∀ experimentId,
    t.redis.counters (.participants experimentId) = s.redis.counters (.participants experimentId)
  participants : t.participants = s.participants
  log : t.participantLog = s.participantLog

lemma Consistent.of_same (hc : Consistent s) (hs : SameParticipants s t) : Consistent t where
  mapped id k e hst := by
    rw [hs.mappings] at hst
    simp only [Assigns, hs.experiments]
    exact hc.mapped id k e hst
  calls c mem := by
    rw [hs.participants] at mem
    exact (hc.calls c mem).of_experiments hs.experiments

lemma Accounted.of_same (ha : Accounted s) (hs : SameParticipants s t) : Accounted t := by
  have hcv : ∀ {id k v}, Covered s id k v → Covered t id k v := by
    intro id k v h
    rwa [Covered, hs.log, hs.participants]
  constructor
  · intro id
    rw [hs.counters, hs.log]
    exact ha.tallied id
  · intro id k e hst
    rw [hs.mappings] at hst
    exact hcv (ha.mapped id k e hst)
  · intro c mem v hse
    rw [hs.participants] at mem
    exact hcv (ha.settled c mem v hse)
  · rw [hs.log, hs.participants]
    exact ha.logged

lemma consistent_add (hc : Consistent s) (p : ParticipantInput) :
    Consistent { s with participants := s.participants ++ [⟨p, .readExperiment⟩] } where
  mapped := hc.mapped
  calls := by
    apply TaskLists.forall_append hc.calls
    constructor <;> rintro _ ⟨⟩

lemma accounted_add (ha : Accounted s) (p : ParticipantInput) :
    Accounted { s with participants := s.participants ++ [⟨p, .readExperiment⟩] } := by
  have hcv : ∀ {id k v}, Covered s id k v →
      Covered { s with participants := s.participants ++ [⟨p, .readExperiment⟩] }
        id k v := by
    rintro id k v (hlg | ⟨c, mem, hct⟩)
    · exact .inl hlg
    · exact .inr ⟨c, mem_append_left _ mem, hct⟩
  refine ⟨ha.tallied, ?_, ?_, ?_⟩
  · intro id k e hst
    exact hcv (ha.mapped id k e hst)
  · apply TaskLists.forall_append
    · intro c mem v hse
      exact hcv (ha.settled c mem v hse)
    · rintro _ ⟨⟩
  · intro id j hlg
    obtain ⟨c, mem, r⟩ := ha.logged id j hlg
    exact ⟨c, mem_append_left _ mem, r⟩

/-- The call has chosen a variant and not counted it yet. -/
def isPending : ParticipantStage → Bool
  | .storeParticipant _ => true
  | .storeMapping _ => true
  | .count _ => true
  | _ => false

def pendingKey (experimentId : String) (call : ParticipantCall) : Option String :=
  if call.experimentId = experimentId ∧ isPending call.stage then some call.key else none

/-- The keys counted so far and those about to be. -/
def countedKeys (s : State) (experimentId : String) : List String :=
  (s.participantLog experimentId).map (·.1) ++ s.participants.filterMap (pendingKey experimentId)

def readsMapping : ParticipantStage → Bool
  | .readMapping _ => true
  | _ => false

def Misses (s : State) (call : ParticipantCall) : Prop :=
  readsMapping call.stage ∧
    truthyText (s.redis.mappings.get s.now (call.experimentId, call.key)) = none

def concernsParticipants : Label → Bool
  | .addParticipant _ => true
  | .resumeParticipant _ => true
  | .advance _ => true
  | _ => false

/-- Participants are added, and time passes. -/
def OnlyParticipants (_ : State) (label : Label) : Prop := concernsParticipants label

/-- Only participants are added, and a call that finds no stored assignment is the first for its
key: no call for the key has a variant, in flight or returned. -/
def Careful (s : State) : Label → Prop
  | .addParticipant _ => True
  | .resumeParticipant index => ∀ call ∈ s.participants[index]?, Misses s call →
      ∀ other ∈ s.participants, other.experimentId = call.experimentId → other.key = call.key →
        variantOf other.stage = none
  | .advance _ => True
  | _ => False

lemma variantOf_of_pending (hpe : pendingKey id c = some k) :
    c.experimentId = id ∧ c.key = k ∧ variantOf c.stage ≠ none := by
  rw [pendingKey] at hpe
  split at hpe
  · rename_i hwa
    refine ⟨hwa.1, some.inj hpe, ?_⟩
    cases h : c.stage <;> simp_all [isPending, variantOf]
  · cases hpe

lemma variant_of_counted (ha : Accounted s) (mem : k ∈ countedKeys s id) :
    ∃ c ∈ s.participants, c.experimentId = id ∧ c.key = k ∧ variantOf c.stage ≠ none := by
  rcases mem_append.mp mem with hlg | hpe
  · obtain ⟨j, hj, rfl⟩ := List.mem_map.mp hlg
    obtain ⟨c, hc, he, hk, hse⟩ := ha.logged id j hj
    refine ⟨c, hc, he, hk, ?_⟩
    rw [variantOf_of_settled hse]
    exact some_ne_none _
  · obtain ⟨c, hc, hp⟩ := mem_filterMap.mp hpe
    exact ⟨c, hc, variantOf_of_pending hp⟩

lemma pendingKey_here (hh : c.experimentId = id) (hpe : isPending c.stage) :
    pendingKey id c = some c.key :=
  if_pos ⟨hh, hpe⟩

lemma pendingKey_elsewhere (ht : c.experimentId ≠ id) : pendingKey id c = none :=
  if_neg fun h => ht h.1

lemma pendingKey_of_not_pending (hn : isPending c.stage = false) : pendingKey id c = none :=
  if_neg fun h => by simp [hn] at h

lemma Move.pending (hm : Move redis now c af sg) :
    ((∀ v, c.stage ≠ .count v) ∧ isPending sg = isPending c.stage) ∨
      ((∃ vs, c.stage = .readMapping vs) ∧
        truthyText (redis.mappings.get now (c.experimentId, c.key)) = none ∧ isPending sg) ∨
      ((∃ v, c.stage = .count v) ∧ isPending sg = false) := by
  cases hm with
  | choose hr hmi has => exact .inr (.inl ⟨⟨_, hr⟩, hmi, rfl⟩)
  | count hct => exact .inr (.inr ⟨⟨_, hct⟩, rfl⟩)
  | _ => exact .inl ⟨by simp [*], by simp [*, isPending]⟩

/-- What a step does to the keys that are counted or about to be: the key of a call that chooses
a variant is new, and nothing else changes but the order. -/
lemma countedKeys_resume (hf : s.participants[i]? = some c) (h : s.resumeParticipant i = some t)
    (id : String) : (countedKeys t id).Perm (countedKeys s id) ∨ (Misses s c ∧ c.experimentId = id ∧
        (countedKeys t id).Perm (countedKeys s id ++ [c.key])) := by
  obtain ⟨call', redis, stage, hf', move, rfl⟩ := move_of_resume h
  cases hf.symm.trans hf'
  have hmo := filterMap_set_perm (pendingKey id) hf { c with stage := stage }
  simp only [countedKeys]
  by_cases hh : c.experimentId = id
  · rcases move.pending with ⟨hnc, hs⟩ | ⟨⟨vs, hr⟩, hmi, hpe⟩ | ⟨⟨v, hct⟩, hse⟩
    · have he : pendingKey id { c with stage := stage } =
          pendingKey id c := by simp only [pendingKey, hs]
      rw [he] at hmo
      rw [logParticipant_of_ne hnc]
      exact .inl (((perm_append_right_iff _).mp hmo).append_left _)
    · have hb : pendingKey id c = none := pendingKey_of_not_pending (by rw [hr]; rfl)
      have af : pendingKey id { c with stage := stage } = some c.key := pendingKey_here hh hpe
      rw [hb, af, toList_none, append_nil] at hmo
      rw [logParticipant_of_ne (by simp [hr]), append_assoc]
      have hm : Misses s c := ⟨by rw [hr]; rfl, hmi⟩
      exact .inr ⟨hm, hh, hmo.append_left _⟩
    · have hb : pendingKey id c = some c.key := pendingKey_here hh (by rw [hct]; rfl)
      rw [hb, pendingKey_of_not_pending hse, toList_none, append_nil] at hmo
      subst hh
      simp only [logParticipant, hct, Function.update_self, map_append, append_assoc]
      exact .inl ((perm_append_comm.trans hmo).append_left _)
  · have af : pendingKey id { c with stage := stage } = none := pendingKey_elsewhere hh
    rw [pendingKey_elsewhere hh, af, toList_none, append_nil, append_nil] at hmo
    rw [logParticipant_elsewhere hh]
    exact .inl (hmo.append_left _)

lemma nodup_resume (ha : Accounted s) (hd : ∀ id, (countedKeys s id).Nodup)
    (hca : Careful s (.resumeParticipant i)) (h : s.resumeParticipant i = some t)
    (id : String) : (countedKeys t id).Nodup := by
  obtain ⟨c, redis, sg, hf, -, -⟩ := move_of_resume h
  rcases countedKeys_resume hf h id with hs | ⟨hm, hh, hex⟩
  · exact hs.nodup_iff.mpr (hd id)
  · rw [hex.nodup_iff, nodup_append]
    refine ⟨hd id, nodup_singleton _, ?_⟩
    rintro k hct _ hk rfl
    rw [mem_singleton] at hk
    obtain ⟨x, mem, he, ho, hc⟩ := variant_of_counted ha hct
    exact hc (hca c hf hm x mem (he.trans hh.symm) (ho.trans hk))

/-- The key has been given a variant that is stored. -/
def isAssigned : ParticipantStage → Bool
  | .count _ => true
  | .countDaily _ _ => true
  | .returned _ => true
  | _ => false

def assignedKeys (s : State) (experimentId : String) : Finset String :=
  ((s.participants.filter fun call => call.experimentId = experimentId ∧ isAssigned call.stage).map
    (·.key)).toFinset

/-- No call is between storing an assignment and counting it. -/
def AllCounted (s : State) (experimentId : String) : Prop :=
  ∀ call ∈ s.participants, call.experimentId = experimentId →
    ∀ variantId, call.stage ≠ .count variantId

/-- The totals of the participants and what their calls return. -/
structure CountsOnce (s : State) : Prop where
  total : ∀ experimentId, AllCounted s experimentId →
    (s.redis.counters (.participants experimentId)).values.sum = (assignedKeys s experimentId).card
  sameVariant : ∀ first ∈ s.participants, ∀ second ∈ s.participants,
    first.experimentId = second.experimentId → first.key = second.key →
    ∀ v w, first.stage = .returned v → second.stage = .returned w → v = w

structure Invariant (s : State) : Prop where
  consistent : Consistent s
  accounted : Accounted s
  distinct : ∀ experimentId, (countedKeys s experimentId).Nodup

lemma mem_assignedKeys : k ∈ assignedKeys s id ↔ ∃ c ∈ s.participants,
      c.experimentId = id ∧ isAssigned c.stage ∧ c.key = k := by
  simp only [assignedKeys, List.mem_toFinset, List.mem_map, mem_filter, decide_eq_true_eq,
    and_assoc]

lemma assignedKeys_of_allCounted (ha : Accounted s) (allCounted : AllCounted s id) :
    assignedKeys s id = ((s.participantLog id).map (·.1)).toFinset := by
  ext k
  rw [mem_assignedKeys, List.mem_toFinset, List.mem_map]
  constructor
  · rintro ⟨c, mem, rfl, has, rfl⟩
    have hse : ∃ v, settledVariant c.stage = some v := by
      cases h : c.stage with
      | count v => exact absurd h (allCounted c mem rfl v)
      | countDaily v _ | returned v => exact ⟨v, rfl⟩
      | _ => simp [h, isAssigned] at has
    obtain ⟨v, hse⟩ := hse
    rcases ha.settled c mem v hse with hlg | ⟨x, hother, hexperiment, -, hct⟩
    · exact ⟨_, hlg, rfl⟩
    · exact absurd hct (allCounted x hother hexperiment v)
  · rintro ⟨join, hlg, rfl⟩
    obtain ⟨c, mem, hexperiment, hkey, hse⟩ := ha.logged id join hlg
    refine ⟨c, mem, hexperiment, ?_, hkey⟩
    cases h : c.stage <;> simp_all [settledVariant, isAssigned]

lemma Invariant.countsOnce (inv : Invariant s) : CountsOnce s where
  total id allCounted := by
    have hd := (nodup_append.mp (inv.distinct id)).1
    rw [assignedKeys_of_allCounted inv.accounted allCounted, toFinset_card_of_nodup hd,
      inv.accounted.tallied, OrderedMap.sum_values_tally, length_map, length_map]
  sameVariant first hfirst second hsecond sameExperiment sameKey v w hv hw := by
    have hch := (inv.consistent.calls first hfirst).variant v (by rw [hv]; rfl)
    have hc := (inv.consistent.calls second hsecond).variant w (by rw [hw]; rfl)
    rw [sameExperiment, sameKey] at hch
    exact hch.unique hc

lemma invariant_launched (es : ExpiringKeys String Experiment) (now : Nat) :
    Invariant (launched es now) where
  consistent := consistent_launched es now
  accounted := accounted_launched es now
  distinct _ := nodup_nil

lemma invariant_step {env : Environment} {l : Label} (inv : Invariant s)
    (hca : Careful s l) (h : step env s l = some t) : Invariant t := by
  cases l with
  | addParticipant p =>
    cases h
    refine ⟨consistent_add inv.consistent p, accounted_add inv.accounted p, ?_⟩
    intro id
    have hu : pendingKey id ⟨p, .readExperiment⟩ = none := pendingKey_of_not_pending rfl
    simpa [countedKeys, hu] using inv.distinct id
  | resumeParticipant i =>
    exact ⟨consistent_resume inv.consistent h, accounted_resume inv.accounted h,
      nodup_resume inv.accounted inv.distinct hca h⟩
  | advance ms =>
    cases h
    have hs : SameParticipants s { s with now := s.now + ms } := ⟨rfl, rfl, fun _ => rfl, rfl, rfl⟩
    exact ⟨inv.consistent.of_same hs, inv.accounted.of_same hs, inv.distinct⟩
  | _ => exact hca.elim

theorem countsOnce_of_careful (env : Environment) (experiments : ExpiringKeys String Experiment)
    (now : Nat) {labels : List Label} {t : State}
    (run : Run (step env) Careful (launched experiments now) labels t) : CountsOnce t :=
  (run.invariant Invariant (fun _ _ _ inv careful h => invariant_step inv careful h)
    (invariant_launched experiments now)).countsOnce

deriving instance Decidable for Misses, OnlyParticipants

instance (s : State) (label : Label) : Decidable (Careful s label) := by
  induction label using Label.casesOn <;> dsimp only [Careful] <;> infer_instance

def visitor (userId : String) : ParticipantInput := ⟨"e1", some userId, "session"⟩

/-- Participants counted, keys assigned, and what the calls have returned. -/
def countsOf (s : State) : Int × Nat × List (String × String) :=
  ((s.redis.counters (.participants "e1")).values.sum, (assignedKeys s "e1").card, s.joined "e1")

/-- Two users join at the same time, and the first comes back a day later. -/
def threeVisits : List Label := List.flatten
  [[.addParticipant (visitor "u1"), .addParticipant (visitor "u10")],
    (List.replicate 6 [.resumeParticipant 0, .resumeParticipant 1]).flatten,
    [.advance 86400000, .addParticipant (visitor "u1"), .resumeParticipant 2,
      .resumeParticipant 2]]

theorem threeVisits_count_two : ∃ t,
    Run (step plainEnvironment) Careful (launched plainExperiments 0) threeVisits t ∧
    (countsOf t).2.2 = [("u1", "treatment"), ("u10", "control"), ("u1", "treatment")] ∧
    CountsOnce t :=
  exists_run (by decide +kernel) fun _ run _ =>
    countsOnce_of_careful plainEnvironment plainExperiments 0 run

/-- Two calls for one user at the same time. -/
def twoTabs : List Label := List.flatten
  [[.addParticipant (visitor "u1"), .addParticipant (visitor "u1")],
    (List.replicate 6 [.resumeParticipant 0, .resumeParticipant 1]).flatten]

theorem twoTabs_are_counted_twice : ∃ t,
    Run (step plainEnvironment) OnlyParticipants (launched plainExperiments 0) twoTabs t ∧
    (t.redis.counters (.participants "e1")).values.sum = 2 ∧ (assignedKeys t "e1").card = 1 ∧
    ¬ CountsOnce t := by
  refine exists_run_of_seen (fun t => (t.redis.counters (.participants "e1")).values.sum = 2 ∧
    (assignedKeys t "e1").card = 1 ∧ ∀ c ∈ t.participants, c.stage = .returned "treatment")
    (by decide +kernel) fun t _ ⟨total, keys, all⟩ => ⟨total, keys, fun cs => ?_⟩
  have ha : AllCounted t "e1" := by
    intro c mem _ variantId hc
    cases (all c mem).symm.trans hc
  have he := cs.total "e1" ha
  rw [total, keys] at he
  exact absurd he (by decide)

/-- All calls for a key that have a variant have the same one. -/
def OneVariant (s : State) : Prop :=
  ∀ first ∈ s.participants, ∀ second ∈ s.participants,
    first.experimentId = second.experimentId → first.key = second.key →
    ∀ v ∈ variantOf first.stage, ∀ w ∈ variantOf second.stage, v = w

theorem oneVariant_of_run {env : Environment} {experiments : ExpiringKeys String Experiment}
    {now : Nat} {labels : List Label} {t : State}
    (run : Run (step env) OnlyParticipants (launched experiments now) labels t) : OneVariant t := by
  have consistent : Consistent t := by
    refine run.invariant Consistent (fun s label _ hc only h => ?_) (consistent_launched _ now)
    cases label with
    | addParticipant p =>
      cases h
      exact consistent_add hc p
    | resumeParticipant i => exact consistent_resume hc h
    | advance ms =>
      cases h
      exact hc.of_same ⟨rfl, rfl, fun _ => rfl, rfl, rfl⟩
    | _ => cases only
  intro first hf second hs he hk v hv w hw
  have assigned := (consistent.calls first hf).variant v hv
  rw [he, hk] at assigned
  exact assigned.unique ((consistent.calls second hs).variant w hw)

theorem twoTabs_agree : ∃ t,
    Run (step plainEnvironment) OnlyParticipants (launched plainExperiments 0) twoTabs t ∧
    t.joined "e1" = [("u1", "treatment"), ("u1", "treatment")] ∧ OneVariant t :=
  exists_run (by decide +kernel) fun _ run _ => oneVariant_of_run run

end ParticipantCounting
