import Optimizely.TaskLists
import Optimizely.TransitionRuns
import Optimizely.UniversalABTestingCalls

/-!
# Experiments and their indexes

An experiment is stored under its id, which is kept in sets by status, type and team. Record and
sets are written one command at a time. `createExperiment` validates and indexes everything,
`updateExperiment` validates nothing and moves the status only. They agree if calls on one
experiment do not overlap and updates stay away from what is not indexed again.
-/

namespace ExperimentIndexes

open UniversalABTesting TransitionRuns List Option TaskLists ExpiringKeys

section

variable {K A : Type} [DecidableEq K] [DecidableEq A]

lemma mem_update_insert (g : K → Finset A) (k k' : K) (a a' : A) :
    a' ∈ Function.update g k (insert a (g k)) k' ↔ a' ∈ g k' ∨ (k' = k ∧ a' = a) := by
  by_cases same : k' = k <;> simp [same, or_comm]

lemma mem_update_erase (g : K → Finset A) (k k' : K) (a a' : A) :
    a' ∈ Function.update g k ((g k).erase a) k' ↔ a' ∈ g k' ∧ ¬ (k' = k ∧ a' = a) := by
  by_cases same : k' = k <;> simp [same, and_comm]

end

structure IndexedAs (redis : Redis) (id : String) (status : Option Status)
    (type : Option ExperimentType) (team : Option String) : Prop where
  status : ∀ s, id ∈ redis.byStatus s ↔ status = some s
  type : ∀ t, id ∈ redis.byType t ↔ type = some t
  team : ∀ m, id ∈ redis.byTeam m ↔ team = some m

namespace IndexedAs

variable {r : Redis} {id : String} {type : Option ExperimentType} {team : Option String}

lemma saddStatus (hix : IndexedAs r id none type team) (s : Status) :
    IndexedAs (r.saddStatus s id) id (some s) type team where
  status s' := by
    simp only [Redis.saddStatus, mem_update_insert, hix.status, some.injEq]
    simp [eq_comm]
  type := hix.type
  team := hix.team

lemma sremStatus {s : Status} (hix : IndexedAs r id (some s) type team) :
    IndexedAs (r.sremStatus s id) id none type team where
  status s' := by
    simp only [Redis.sremStatus, mem_update_erase, hix.status, some.injEq]
    simp [eq_comm]
  type := hix.type
  team := hix.team

variable {status st : Option Status}

lemma saddType (hix : IndexedAs r id status none team)
    (t : ExperimentType) : IndexedAs (r.saddType t id) id status (some t) team where
  status := hix.status
  type t' := by
    simp only [Redis.saddType, mem_update_insert, hix.type, some.injEq]
    simp [eq_comm]
  team := hix.team

lemma saddTeam (hix : IndexedAs r id status type none)
    (m : String) : IndexedAs (r.saddTeam m id) id status type (some m) where
  status := hix.status
  type := hix.type
  team m' := by
    simp only [Redis.saddTeam, mem_update_insert, hix.team, some.injEq]
    simp [eq_comm]

end IndexedAs

/-- A record that belongs under its id. -/
structure Good (id : String) (experiment : Experiment) : Prop where
  id : experiment.id = id
  variants : validate experiment.variants = .ok ()
  team : experiment.metadata.team ≠ some ""

/-- The id has a record, and the sets it is in. -/
structure Row (redis : Redis) (id : String) (experiment : Experiment) (status : Option Status)
    (type : Option ExperimentType) (team : Option String) : Prop where
  stored : ∃ expiresAt, redis.experiments id = some ⟨experiment, expiresAt⟩
  good : Good id experiment
  indexed : IndexedAs redis id status type team

/-- Record and sets agree. -/
structure Settled (redis : Redis) (id : String) : Prop where
  absent : redis.experiments id = none → IndexedAs redis id none none none
  present : ∀ entry, redis.experiments id = some entry → Good id entry.value ∧
    IndexedAs redis id (some entry.value.status) (some entry.value.type) entry.value.metadata.team

/-- The updates leave alone what has no way into the sets, and new variants are valid. -/
@[mk_iff]
structure Keeps (experiment : Experiment) (updates : Updates) : Prop where
  id : ∀ id ∈ updates.id, id = experiment.id
  type : ∀ type ∈ updates.type, type = experiment.type
  team : ∀ metadata ∈ updates.metadata, metadata.team = experiment.metadata.team
  variants : ∀ variants ∈ updates.variants, validate variants = .ok ()

/-- What holds of an id while the only call on it is at a stage. -/
def Phase (redis : Redis) (id : String) : ChangeStage → Prop
  | .storeNew experiment =>
    redis.experiments id = none ∧ Good id experiment ∧ IndexedAs redis id none none none
  | .addToAll experiment => Row redis id experiment none none none
  | .addToStatus experiment => Row redis id experiment none none none
  | .addToType experiment => Row redis id experiment (some experiment.status) none none
  | .addToTeam team => ∃ experiment, experiment.metadata.team = some team ∧
      Row redis id experiment (some experiment.status) (some experiment.type) none
  | .check _ => Settled redis id
  | .read updates => Settled redis id ∧
      ∀ entry ∈ redis.experiments id, Keeps entry.value updates
  | .storeUpdated experiment updates => Keeps experiment updates ∧
      Row redis id experiment (some experiment.status) (some experiment.type)
        experiment.metadata.team
  | .removeFromStatus old new => ∃ experiment, experiment.status = new ∧
      Row redis id experiment (some old) (some experiment.type) experiment.metadata.team
  | .addToNewStatus new => ∃ experiment, experiment.status = new ∧
      Row redis id experiment none (some experiment.type) experiment.metadata.team
  | .returned => Settled redis id
  | .rejected _ => Settled redis id

variable {experiment e : Experiment} {id : String} {rd r af : Redis} {updates us : Updates}
  {now : Nat} {call c : ChangeCall} {sg : ChangeStage} {s : State}

lemma Row.settled (row : Row r id e (some e.status) (some e.type)
      e.metadata.team) : Settled r id := by
  obtain ⟨exp, hst⟩ := row.stored
  constructor
  · intro hab
    cases hst.symm.trans hab
  · intro entry hp
    cases hst.symm.trans hp
    exact ⟨row.good, row.indexed⟩

variable {entry : ExpiringEntry Experiment} {status st : Option Status} {team : Option String}
  {type : Option ExperimentType} {t : State}

lemma Settled.row (hse : Settled r id) (stored : r.experiments id = some entry) :
    Row r id entry.value (some entry.value.status) (some entry.value.type)
      entry.value.metadata.team where
  stored := ⟨entry.expiresAt, stored⟩
  good := (hse.present entry stored).1
  indexed := (hse.present entry stored).2

lemma stored_store (r : Redis) (now : Nat) (id : String) (e : Experiment) :
    ∃ exp, (r.store now id e).experiments id = some ⟨e, exp⟩ :=
  ⟨_, setex_self _ _ _ _ _⟩

lemma truthyText_team (hg : Good id e) : truthyText e.metadata.team = e.metadata.team := by
  cases h : e.metadata.team with
  | none => rfl
  | some team =>
    have hn : team ≠ "" := fun he => hg.team (by rw [h, he])
    simp [truthyText, hn]

lemma Good.updated (hg : Good id e) (hke : Keeps e us) :
    Good id (e.updated us) ∧ (e.updated us).type = e.type ∧
      (e.updated us).metadata.team = e.metadata.team := by
  have hid : (e.updated us).id = e.id := by
    cases h : us.id with
    | none => simp [Experiment.updated, h]
    | some id => simpa [Experiment.updated, h] using hke.id id h
  have hty : (e.updated us).type = e.type := by
    cases h : us.type with
    | none => simp [Experiment.updated, h]
    | some type => simpa [Experiment.updated, h] using hke.type type h
  have ht : (e.updated us).metadata.team = e.metadata.team := by
    cases h : us.metadata with
    | none => simp [Experiment.updated, h]
    | some m => simpa [Experiment.updated, h] using hke.team m h
  have hv : validate (e.updated us).variants = .ok () := by
    cases h : us.variants with
    | none => simpa [Experiment.updated, h] using hg.variants
    | some vs => simpa [Experiment.updated, h] using hke.variants vs h
  exact ⟨⟨hid.trans hg.id, hv, ht ▸ hg.team⟩, hty, ht⟩

lemma keeps_of_absent (id : us.id = none) (type : us.type = none) (hm : us.metadata = none)
    (variants : us.variants = none) : Keeps e us where
  id := by simp [id]
  type := by simp [type]
  team := by simp [hm]
  variants := by simp [variants]

/-- Starting, pausing and stopping update nothing that has a way into the sets, apart
from the status. -/
lemma keeps_lifecycle {lc : Lifecycle} (h : lc.updates e now = .ok us) : Keeps e us := by
  cases lc with
  | start | pause =>
    rw [Lifecycle.updates] at h
    split at h
    · cases h
    · cases h
      exact keeps_of_absent rfl rfl rfl rfl
  | stop winnerId =>
    rw [Lifecycle.updates] at h
    split at h
    · cases h
    · split at h
      · cases h
        exact keeps_of_absent rfl rfl rfl rfl
      · split at h
        · cases h
        · cases h
          refine ⟨nofun, nofun, ?_, nofun⟩
          rintro _ ⟨⟩
          rfl

lemma stored_of_getExperiment (hf : r.getExperiment now id = some e) :
    ∃ en, r.experiments id = some en ∧ en.value = e := by
  obtain ⟨en, hst, -, v⟩ := get_eq_some_iff.mp hf
  exact ⟨en, hst, v⟩

lemma Row.update (hke : Keeps e us) (row : Row r id e (some e.status) (some e.type)
      e.metadata.team) : Row (r.store now id (e.updated us)) id (e.updated us)
      (some e.status) (some (e.updated us).type) (e.updated us).metadata.team := by
  obtain ⟨hg, hty, ht⟩ := row.good.updated hke
  rw [hty, ht]
  exact ⟨stored_store _ _ _ _, hg, row.indexed.status, row.indexed.type, row.indexed.team⟩

lemma phase_afterUpdate (row : Row r id (e.updated us) (some e.status)
      (some (e.updated us).type) (e.updated us).metadata.team) : Phase r id (afterUpdate e us) := by
  rw [afterUpdate]
  cases h : us.status with
  | none =>
    have same : (e.updated us).status = e.status := by
      simp [Experiment.updated, h]
    rw [← same] at row
    exact row.settled
  | some st =>
    have hc : (e.updated us).status = st := by
      simp [Experiment.updated, h]
    dsimp only
    by_cases same : st = e.status
    · rw [if_neg (not_not.mpr same)]
      rw [← same, ← hc] at row
      exact row.settled
    · rw [if_pos same]
      exact ⟨e.updated us, hc, row⟩

lemma phase_next (p : Phase r c.experimentId c.stage)
    (h : c.next r now = some (af, sg)) : Phase af c.experimentId sg := by
  obtain ⟨id, cr⟩ := c
  cases cr with
  | storeNew e =>
    cases h
    obtain ⟨-, hg, hix⟩ := p
    exact ⟨stored_store _ _ _ _, hg, hix.status, hix.type, hix.team⟩
  | addToAll e =>
    cases h
    exact ⟨p.stored, p.good, p.indexed.status, p.indexed.type, p.indexed.team⟩
  | addToStatus e =>
    cases h
    exact ⟨p.stored, p.good, p.indexed.saddStatus _⟩
  | addToType e =>
    have row : Row (r.saddType e.type id) id e (some e.status)
        (some e.type) none := ⟨p.stored, p.good, p.indexed.saddType _⟩
    simp only [ChangeCall.next, truthyText_team p.good] at h
    cases team : e.metadata.team with
    | none =>
      simp only [team] at h
      cases h
      rw [← team] at row
      exact row.settled
    | some team' =>
      simp only [team] at h
      cases h
      exact ⟨e, team, row⟩
  | addToTeam team =>
    cases h
    obtain ⟨e, ht, row⟩ := p
    have hfl : Row (r.saddTeam team id) id e (some e.status) (some e.type) e.metadata.team := by
      rw [ht]
      exact ⟨row.stored, row.good, row.indexed.saddTeam _⟩
    exact hfl.settled
  | check lc =>
    simp only [ChangeCall.next] at h
    split at h
    · cases h
      exact p
    · rename_i e hf
      split at h
      · cases h
        exact p
      · rename_i us hc
        cases h
        obtain ⟨entry, hst, rfl⟩ := stored_of_getExperiment hf
        refine ⟨p, ?_⟩
        intro entry' hs'
        cases hst.symm.trans hs'
        exact keeps_lifecycle hc
  | read us =>
    obtain ⟨hse, hke⟩ := p
    simp only [ChangeCall.next] at h
    split at h
    · cases h
      exact hse
    · rename_i e hf
      split at h
      · cases h
        exact hse
      · cases h
        obtain ⟨entry, hst, rfl⟩ := stored_of_getExperiment hf
        exact ⟨hke entry hst, hse.row hst⟩
  | storeUpdated e us =>
    cases h
    exact phase_afterUpdate (p.2.update p.1)
  | removeFromStatus old new =>
    cases h
    obtain ⟨e, hs, row⟩ := p
    exact ⟨e, hs, row.stored, row.good, row.indexed.sremStatus⟩
  | addToNewStatus new =>
    cases h
    obtain ⟨e, rfl, row⟩ := p
    have hfl : Row (r.saddStatus e.status id) id e (some e.status) (some e.type) e.metadata.team :=
      ⟨row.stored, row.good, row.indexed.saddStatus _⟩
    exact hfl.settled
  | returned | rejected _ => cases h

/-- Nothing that concerns the id has changed. -/
structure SameRow (redis after : Redis) (id : String) : Prop where
  experiments : after.experiments id = redis.experiments id
  status : ∀ s, id ∈ after.byStatus s ↔ id ∈ redis.byStatus s
  type : ∀ t, id ∈ after.byType t ↔ id ∈ redis.byType t
  team : ∀ m, id ∈ after.byTeam m ↔ id ∈ redis.byTeam m

lemma SameRow.refl (r : Redis) (id : String) : SameRow r r id :=
  ⟨rfl, fun _ => .rfl, fun _ => .rfl, fun _ => .rfl⟩

section

variable {r : Redis} {id x : String}

lemma SameRow.store (hne : x ≠ id) (now : Nat) (e : Experiment) : SameRow r (r.store now id e) x :=
  { SameRow.refl r x with experiments := setex_of_ne _ _ hne _ _ }

lemma SameRow.saddStatus (hne : x ≠ id) (s : Status) : SameRow r (r.saddStatus s id) x :=
  { SameRow.refl r x with
    status := by simp [Redis.saddStatus, mem_update_insert, hne] }

lemma SameRow.sremStatus (hne : x ≠ id) (s : Status) : SameRow r (r.sremStatus s id) x :=
  { SameRow.refl r x with
    status := by simp [Redis.sremStatus, mem_update_erase, hne] }

lemma SameRow.saddType (hne : x ≠ id) (t : ExperimentType) : SameRow r (r.saddType t id) x :=
  { SameRow.refl r x with
    type := by simp [Redis.saddType, mem_update_insert, hne] }

lemma SameRow.saddTeam (hne : x ≠ id) (m : String) : SameRow r (r.saddTeam m id) x :=
  { SameRow.refl r x with
    team := by simp [Redis.saddTeam, mem_update_insert, hne] }

end

lemma sameRow_next (h : c.next r now = some (af, sg)) {x : String}
    (hne : x ≠ c.experimentId) : SameRow r af x := by
  simp only [ChangeCall.next] at h
  split at h
  · cases h
    exact .store hne _ _
  · cases h
    exact ⟨rfl, fun _ => .rfl, fun _ => .rfl, fun _ => .rfl⟩
  · cases h
    exact .saddStatus hne _
  · split at h <;> cases h <;> exact .saddType hne _
  · cases h
    exact .saddTeam hne _
  · split at h
    · cases h
      exact .refl r x
    · split at h <;> cases h <;> exact .refl r x
  · split at h
    · cases h
      exact .refl r x
    · split at h <;> cases h <;> exact .refl r x
  · cases h
    exact .store hne _ _
  · cases h
    exact .sremStatus hne _
  · cases h
    exact .saddStatus hne _
  · cases h
  · cases h

section

variable (same : SameRow r af id)
include same

lemma IndexedAs.of_same (hix : IndexedAs r id status type team) :
    IndexedAs af id status type team where
  status s := (same.status s).trans (hix.status s)
  type t := (same.type t).trans (hix.type t)
  team m := (same.team m).trans (hix.team m)

lemma Row.of_same (row : Row r id e st type team) : Row af id e st type team where
  stored := same.experiments ▸ row.stored
  good := row.good
  indexed := row.indexed.of_same same

lemma Settled.of_same (hse : Settled r id) : Settled af id where
  absent h := (hse.absent (same.experiments ▸ h)).of_same same
  present entry h := by
    obtain ⟨hg, hix⟩ := hse.present entry (same.experiments ▸ h)
    exact ⟨hg, hix.of_same same⟩

lemma phase_of_same (p : Phase r id sg) : Phase af id sg := by
  cases sg with
  | storeNew e =>
    obtain ⟨hab, hg, hix⟩ := p
    exact ⟨same.experiments.trans hab, hg, hix.of_same same⟩
  | addToAll _ | addToStatus _ | addToType _ => exact Row.of_same same p
  | addToTeam team =>
    obtain ⟨e, ht, row⟩ := p
    exact ⟨e, ht, row.of_same same⟩
  | read us =>
    obtain ⟨hse, hke⟩ := p
    refine ⟨hse.of_same same, ?_⟩
    rw [same.experiments]
    exact hke
  | storeUpdated e us => exact ⟨p.1, p.2.of_same same⟩
  | removeFromStatus _ _ | addToNewStatus _ =>
    obtain ⟨e, hs, row⟩ := p
    exact ⟨e, hs, row.of_same same⟩
  | check _ | returned | rejected _ => exact Settled.of_same same p

end

def isFinished : ChangeStage → Bool
  | .returned => true
  | .rejected _ => true
  | _ => false

/-- No call on the experiment is in flight. -/
def Idle (s : State) (id : String) : Prop :=
  ∀ call ∈ s.changes, call.experimentId = id → isFinished call.stage

structure Invariant (s : State) : Prop where
  alone : ∀ (i j : Nat) (first second : ChangeCall),
    s.changes[i]? = some first → s.changes[j]? = some second →
    first.experimentId = second.experimentId → isFinished first.stage = false →
    isFinished second.stage = false → i = j
  phase : ∀ call ∈ s.changes, isFinished call.stage = false →
    Phase s.redis call.experimentId call.stage
  settled : ∀ id, Idle s id → Settled s.redis id

lemma phase_finished (p : Phase r id sg) (hf : isFinished sg) : Settled r id := by
  cases sg <;> first | exact p | cases hf

lemma not_finished_of_next {rs : Redis × ChangeStage} (h : c.next r now = some rs) :
    isFinished c.stage = false := by
  cases sg : c.stage <;> first | rfl | simp [ChangeCall.next, sg] at h

lemma invariant_resume {i : Nat} (inv : Invariant s)
    (h : s.resumeChange i = some t) : Invariant t := by
  obtain ⟨c, hf, rest⟩ := bind_eq_some_iff.mp h
  obtain ⟨⟨r, sg⟩, hnext, rfl⟩ := map_eq_some_iff.mp rest
  have hr := not_finished_of_next hnext
  have phase := phase_next (inv.phase c (mem_of_getElem? hf) hr) hnext
  have elsewhere : ∀ id, id ≠ c.experimentId → SameRow s.redis r id :=
    fun id different => sameRow_next hnext different
  refine ⟨?_, ?_, ?_⟩
  · intro j k first second hj hk same runs runs'
    rcases getElem?_set_cases hj with ⟨rfl, rfl⟩ | ⟨-, oldFirst⟩
    · rcases getElem?_set_cases hk with ⟨rfl, -⟩ | ⟨-, oldSecond⟩
      · rfl
      · exact inv.alone _ _ c second hf oldSecond same hr runs'
    · rcases getElem?_set_cases hk with ⟨rfl, rfl⟩ | ⟨-, oldSecond⟩
      · exact inv.alone _ _ first c oldFirst hf same runs hr
      · exact inv.alone _ _ first second oldFirst oldSecond same runs runs'
  · intro x mem runs
    obtain ⟨j, hj⟩ := mem_iff_getElem?.mp mem
    rcases getElem?_set_cases hj with ⟨-, rfl⟩ | ⟨hne, old⟩
    · exact phase
    · have different : x.experimentId ≠ c.experimentId :=
        fun same => hne (inv.alone j i x c old hf same runs hr)
      exact phase_of_same (elsewhere _ different) (inv.phase x (mem_of_getElem? old) runs)
  · intro id idle
    by_cases here : id = c.experimentId
    · subst here
      exact phase_finished phase (idle _ (mem_set_self _ hf) rfl)
    · have before : Idle s id := by
        intro x mem hother
        have different : x ≠ c := fun same => here (by rw [← hother, same])
        exact idle x (mem_set_of_ne _ hf mem different) hother
      exact (inv.settled id before).of_same (elsewhere id here)

lemma invariant_begin (inv : Invariant s)
    (idle : Idle s id) (phase : Phase s.redis id sg) : Invariant (s.beginChange id sg) := by
  refine ⟨?_, ?_, ?_⟩
  · intro i j first second hi hj same runs runs'
    have alone : ∀ (k : Nat) (x : ChangeCall), s.changes[k]? = some x →
        isFinished x.stage = false → x.experimentId ≠ id := by
      intro k x hk hr hid
      rw [idle x (mem_of_getElem? hk) hid] at hr
      cases hr
    rcases getElem?_append_cases hi with ⟨rfl, rfl⟩ | hi
    · rcases getElem?_append_cases hj with ⟨rfl, -⟩ | hj
      · rfl
      · exact absurd same.symm (alone j second hj runs')
    · rcases getElem?_append_cases hj with ⟨rfl, rfl⟩ | hj
      · exact absurd same (alone i first hi runs)
      · exact inv.alone i j first second hi hj same runs runs'
  · exact forall_append inv.phase fun _ => phase
  · intro x idle'
    exact inv.settled x fun c mem hcall => idle' c (mem_append_left _ mem) hcall

/-- Calls on one experiment do not overlap. `createExperiment` draws an unused id and is given no
empty team, `updateExperiment` leaves id, type and team alone and is given valid variants. -/
def Careful (s : State) : Label → Prop
  | .createExperiment id experiment => Idle s id ∧ (s.redis.experiments id).isNone ∧
      experiment.metadata.team ≠ some ""
  | .updateExperiment id updates => Idle s id ∧
      ∀ entry ∈ s.redis.experiments id, Keeps entry.value updates
  | .startExperiment id => Idle s id
  | .pauseExperiment id => Idle s id
  | .stopExperiment id _ => Idle s id
  | .resumeChange _ => True
  | .advance _ => True
  | _ => False

lemma phase_create {e : NewExperiment} (inv : Invariant s)
    (hi : Idle s id) (hfr : (s.redis.experiments id).isNone)
    (t : e.metadata.team ≠ some "") : Phase s.redis id (createStage id e) := by
  have hab : s.redis.experiments id = none := isNone_iff_eq_none.mp hfr
  rw [createStage]
  split
  · exact inv.settled id hi
  · rename_i hv
    exact ⟨hab, ⟨rfl, hv, t⟩, (inv.settled id hi).absent hab⟩

lemma invariant_step {env : Environment} {l : Label} (inv : Invariant s)
    (hca : Careful s l) (h : step env s l = some t) : Invariant t := by
  cases l with
  | createExperiment id e =>
    cases h
    obtain ⟨hi, hfr, team⟩ := hca
    exact invariant_begin inv hi (phase_create inv hi hfr team)
  | updateExperiment id us =>
    cases h
    obtain ⟨hi, hke⟩ := hca
    exact invariant_begin inv hi ⟨inv.settled id hi, hke⟩
  | startExperiment id | pauseExperiment id | stopExperiment id _ =>
    cases h
    exact invariant_begin inv hca (inv.settled id hca)
  | resumeChange i => exact invariant_resume inv h
  | advance milliseconds =>
    cases h
    exact { inv with }
  | _ => exact hca.elim

lemma invariant_launched (now : Nat) : Invariant (launched (fun _ => none) now) where
  alone i j first second hf := by simp [launched] at hf
  phase c mem := by simp [launched] at mem
  settled id _ := by
    constructor
    · intro _
      constructor <;> simp [launched, Redis.holding]
    · intro entry hst
      exact absurd hst (by simp [launched, Redis.holding])

/-- The sets hold the id of an experiment where its record says, and its variants are valid. -/
structure Described (redis : Redis) (experiment : Experiment) : Prop where
  status : ∀ s, experiment.id ∈ redis.byStatus s ↔ s = experiment.status
  type : ∀ t, experiment.id ∈ redis.byType t ↔ t = experiment.type
  team : ∀ m, experiment.id ∈ redis.byTeam m ↔ some m = experiment.metadata.team
  allocation : |(experiment.variants.map (·.trafficAllocation)).sum - 100| ≤ 1 / 100
  control : (experiment.variants.filter (·.isControl)).length = 1

lemma valid_of_validate {vs : List ExperimentVariant} (h : validate vs = .ok ()) :
    |(vs.map (·.trafficAllocation)).sum - 100| ≤ 1 / 100 ∧
      (vs.filter (·.isControl)).length = 1 := by
  simp only [validate] at h
  split at h
  · cases h
  · rename_i ha
    split at h
    · cases h
    · rename_i c
      exact ⟨not_lt.mp ha, not_not.mp c⟩

lemma Settled.described (hse : Settled r id) (hst : r.experiments id = some entry) :
    Described r entry.value := by
  obtain ⟨hg, hix⟩ := hse.present entry hst
  obtain ⟨ha, c⟩ := valid_of_validate hg.variants
  refine ⟨?_, ?_, ?_, ha, c⟩
  · intro s
    rw [hg.id, hix.status, some.injEq, eq_comm]
  · intro t
    rw [hg.id, hix.type, some.injEq, eq_comm]
  · intro m
    rw [hg.id, hix.team, eq_comm]

theorem described_of_careful (env : Environment) (now : Nat) {labels : List Label} {t : State}
    (run : Run (step env) Careful (launched (fun _ => none) now) labels t) {id : String}
    {experiment : Experiment} (idle : Idle t id)
    (stored : t.redis.getExperiment t.now id = some experiment) :
    experiment.id = id ∧ Described t.redis experiment := by
  have inv := run.invariant Invariant (fun _ _ _ inv hc h => invariant_step inv hc h)
    (invariant_launched now)
  obtain ⟨entry, hf, rfl⟩ := stored_of_getExperiment stored
  have hs := inv.settled id idle
  exact ⟨(hs.present entry hf).1.id, hs.described hf⟩

deriving instance Decidable for Idle

instance (experiment : Experiment) (updates : Updates) : Decidable (Keeps experiment updates) :=
  decidable_of_iff' _ (keeps_iff experiment updates)

instance (s : State) (label : Label) : Decidable (Careful s label) := by
  cases label <;> dsimp only [Careful] <;> infer_instance

def concernsExperiments : Label → Bool
  | .createExperiment _ _ => true
  | .updateExperiment _ _ => true
  | .startExperiment _ => true
  | .pauseExperiment _ => true
  | .stopExperiment _ _ => true
  | .resumeChange _ => true
  | .advance _ => true
  | _ => false

/-- Experiments are created and changed, and time passes. -/
def OnlyChanges (_ : State) (label : Label) : Prop := concernsExperiments label

deriving instance Decidable for OnlyChanges

def newExperiment : NewExperiment where
  type := plainExperiment.type
  status := none
  startDate := none
  endDate := none
  targetingRules := plainExperiment.targetingRules
  variants := plainExperiment.variants
  primaryGoal := plainExperiment.primaryGoal
  statisticalSettings := plainExperiment.statisticalSettings
  metadata := ⟨"owner", some "growth", none, none⟩

/-- Two experiments are created side by side, and one of them is started and stopped. -/
def lifecycle : List Label := List.flatten
  [[.createExperiment "exp_1" newExperiment, .createExperiment "exp_2" newExperiment],
    (List.replicate 5 [.resumeChange 0, .resumeChange 1]).flatten,
    [.startExperiment "exp_1"], List.replicate 5 (.resumeChange 2),
    [.advance 86400000, .stopExperiment "exp_1" (some "treatment")],
    List.replicate 5 (.resumeChange 3)]

theorem lifecycle_is_described : ∃ t experiment,
    Run (step plainEnvironment) Careful (launched (fun _ => none) 0) lifecycle t ∧
    t.redis.getExperiment t.now "exp_1" = some experiment ∧ experiment.status = .completed ∧
    Described t.redis experiment := by
  have hr : ∃ t ∈ execWithin (step plainEnvironment) Careful (launched (fun _ => none) 0)
      lifecycle, Idle t "exp_1" ∧
      ∃ experiment ∈ t.redis.getExperiment t.now "exp_1", experiment.status = .completed := by
    decide +kernel
  obtain ⟨t, he, hi, experiment, s, hc⟩ := hr
  have run := run_of_execWithin he
  exact ⟨t, experiment, run, s, hc, (described_of_careful plainEnvironment 0 run hi s).2⟩

/-- A running experiment is paused and stopped at the same time: both calls read it as running,
and the one that stops it writes last. -/
def pausedWhileStopped : List Label := List.flatten
  [[.createExperiment "exp_1" { newExperiment with status := some .running }],
    List.replicate 5 (.resumeChange 0),
    [.pauseExperiment "exp_1", .stopExperiment "exp_1" none],
    (List.replicate 5 [.resumeChange 1, .resumeChange 2]).flatten]

theorem pausedWhileStopped_is_in_two_sets : ∃ t experiment,
    Run (step plainEnvironment) OnlyChanges (launched (fun _ => none) 0) pausedWhileStopped t ∧
    t.changes.map (·.stage) = [.returned, .returned, .returned] ∧
    t.redis.getExperiment t.now "exp_1" = some experiment ∧ experiment.id = "exp_1" ∧
    experiment.status = .completed ∧ "exp_1" ∈ t.redis.byStatus .paused ∧
    ¬ Described t.redis experiment := by
  have hr : ∃ t ∈ execWithin (step plainEnvironment) OnlyChanges
      (launched (fun _ => none) 0) pausedWhileStopped,
      t.changes.map (·.stage) = [.returned, .returned, .returned] ∧
      ∃ experiment ∈ t.redis.getExperiment t.now "exp_1", experiment.id = "exp_1" ∧
        experiment.status = .completed ∧ "exp_1" ∈ t.redis.byStatus .paused := by
    decide +kernel
  obtain ⟨t, he, hs, experiment, s, hid, hc, hp⟩ := hr
  refine ⟨t, experiment, run_of_execWithin he, hs, s, hid, hc, hp, ?_⟩
  intro hds
  have same := (hds.status .paused).mp (by rwa [hid])
  rw [hc] at same
  cases same

end ExperimentIndexes
