import Optimizely.CacheService
import Optimizely.TaskLists
import Optimizely.TransitionRuns

/-!
# Invalidation by tags

An invalidation deletes what it finds in the tag sets. A value escapes it when its key is missing
from the set of one of its tags, or when its fetch began before the invalidation and is stored after
it. Invariant: a live value is in the set of every tag its key was ever stored with, and this set
lives at least as long.
-/

namespace CacheInvalidation

open CacheService TransitionRuns List TaskLists

/-- No call that began after a completed invalidation was answered with a cached value whose fetch
is older, if its key had been stored with one of the tags. -/
def NoStaleHit (s : State) : Prop :=
  ∀ invalidation ∈ s.invalidations, ∀ completedAt,
    invalidation.stage = .completed completedAt →
  ∀ record ∈ s.tagged, record.tag ∈ invalidation.tags →
  ∀ call ∈ s.calls, call.key = record.key →
    completedAt < call.startedAt → record.storedAt < call.startedAt →
  ∀ stored, call.stage = .returned (.fromCache stored) →
    invalidation.startedAt ≤ stored.fetchedAt

/-- The key is not the key of a tag set. -/
def Plain (key : String) : Prop := "tag:".toList.isPrefixOf key.toList = false

deriving instance Decidable for Plain

/-- The set of a tag holds a key, and lives until the deadline at least. -/
def Holds (keys : Keyspace) (tag key : String) (deadline : Nat) : Prop :=
  match keys (tagKey tag) with
  | some ⟨.members members, expiresAt⟩ => key ∈ members ∧ deadline ≤ expiresAt
  | _ => False

instance (keys : Keyspace) (tag key : String) (deadline : Nat) :
    Decidable (Holds keys tag key deadline) := by
  unfold Holds
  split <;> infer_instance

/-- The keys that a pending invalidation is going to delete. -/
def doomed (stage : InvalidationStage) : List String :=
  match stage with
  | .collecting pipeline tag (.ok keys) _ => (queueDeletes pipeline tag keys).flatten
  | .collecting pipeline _ (.error _) _ => pipeline.flatten
  | _ => []

def tagsOf (s : State) (key : String) : List String :=
  (s.tagged.filter (·.key = key)).map (·.tag)

/-- The tags of a call and those its key was stored with before. -/
def involved (s : State) (call : Call) : List String :=
  call.options.tags ++ tagsOf s call.key

def deadline (s : State) (call : Call) : Nat := s.now + call.options.ttl * 1000

@[mk_iff]
structure SafeStore (s : State) (call : Call) (since : Nat) : Prop where
  plain : Plain call.key
  positive : 0 < call.options.ttl
  /-- No invalidation of the key began during the fetch. -/
  undisturbed : ∀ invalidation ∈ s.invalidations, ∀ tag ∈ involved s call,
    tag ∈ invalidation.tags → invalidation.startedAt < since
  /-- An invalidation that is going to drop a tag set of the key drops the key. -/
  swept : ∀ invalidation ∈ s.invalidations, ∀ tag ∈ involved s call,
    tagKey tag ∈ doomed invalidation.stage → call.key ∈ doomed invalidation.stage
  /-- The other values with one of the tags expire first. -/
  outlives : ∀ record ∈ s.tagged, record.tag ∈ call.options.tags → record.key ≠ call.key →
    ExpiringKeys.PastDue s.keys (deadline s call) record.key
  /-- The sets of the tags that are no longer given still hold the key. -/
  held : ∀ tag ∈ tagsOf s call.key, tag ∉ call.options.tags →
    Holds s.keys tag call.key (deadline s call)

instance (s : State) (call : Call) (since : Nat) : Decidable (SafeStore s call since) :=
  decidable_of_iff' _ (safeStore_iff s call since)

/-- A step stores nothing, or stores safely. -/
def Safe (s : State) (label : Label) : Prop :=
  match label with
  | .resumeCall index (.data (some _)) =>
    match s.calls[index]? with
    | some ⟨key, options, startedAt, fetches, .fetching since⟩ =>
      (options.ttl = 0 ∧ options.tags = []) ∨
        SafeStore s ⟨key, options, startedAt, fetches, .fetching since⟩ since
    | _ => True
  | _ => True

instance (s : State) (label : Label) : Decidable (Safe s label) := by
  unfold Safe
  repeat' split
  all_goals infer_instance

variable {tag key k : String} {keys : Keyspace} {now ttl i : Nat} {st : Stored} {s t : State}
  {c : Call} {o : Outcome} {invalidation : Invalidation}

lemma tagKey_injective : Function.Injective tagKey := by
  intro tag tag' hs
  have hc := congrArg String.toList hs
  simp only [tagKey, String.toList_append] at hc
  exact String.toList_injective (append_cancel_left hc)

lemma plain_ne_tagKey (hp : Plain k) (tag : String) : k ≠ tagKey tag := by
  rintro rfl
  rw [Plain, tagKey, String.toList_append] at hp
  have starts : "tag:".toList.isPrefixOf ("tag:".toList ++ tag.toList) = true :=
    isPrefixOf_iff_prefix.mpr (prefix_append _ _)
  cases hp

lemma holds_iff {d : Nat} : Holds keys tag k d ↔ ∃ ms exp,
      keys (tagKey tag) = some ⟨.members ms, exp⟩ ∧ k ∈ ms ∧ d ≤ exp := by
  rw [Holds]
  split
  · rename_i ms exp hf
    constructor
    · rintro ⟨mem, hl⟩
      exact ⟨ms, exp, hf, mem, hl⟩
    · rintro ⟨members', expiresAt', hf', mem, hl⟩
      rw [hf] at hf'
      cases hf'
      exact ⟨mem, hl⟩
  · rename_i x
    constructor
    · exact False.elim
    · rintro ⟨ms, exp, hf, -⟩
      exact x ms exp hf

/-- A value that a `get` would return now. -/
def Live (keys : Keyspace) (now : Nat) (key : String) (stored : Stored) : Prop :=
  ∃ expiresAt, keys key = some ⟨.text stored, expiresAt⟩ ∧ now ≤ expiresAt

lemma live_of_get (h : get keys now k = .ok (some st)) : Live keys now k st := by
  rw [CacheService.get] at h
  split at h
  · cases h
  · rename_i hf
    cases h
    obtain ⟨⟨v, exp⟩, hp, hl, rfl⟩ := ExpiringKeys.get_eq_some_iff.mp hf
    exact ⟨exp, hp, hl⟩
  · cases h

/-- Under the keys of tags there are only sets, of plain keys. -/
def TagSets (keys : Keyspace) : Prop :=
  ∀ tag entry, keys (tagKey tag) = some entry →
    ∃ members, entry.value = .members members ∧ ∀ key ∈ members, Plain key

lemma deleteAll_apply (ks : Keyspace) (pl : List (List String)) (k : String) :
    deleteAll ks pl k = if k ∈ pl.flatten then none else ks k := by
  rw [deleteAll]
  induction pl generalizing ks with
  | nil => simp
  | cons rm pl ih =>
    rw [foldl_cons, ih, ExpiringKeys.del, flatten_cons]
    by_cases hl : k ∈ pl.flatten <;> simp [hl]

lemma live_deleteAll {pl : List (List String)} (hl : Live (deleteAll keys pl) now k st) :
    k ∉ pl.flatten ∧ Live keys now k st := by
  obtain ⟨exp, hf, ha⟩ := hl
  rw [deleteAll_apply] at hf
  by_cases hrm : k ∈ pl.flatten
  · rw [if_pos hrm] at hf
    cases hf
  · rw [if_neg hrm] at hf
    exact ⟨hrm, exp, hf, ha⟩

lemma addToTag_of_ne (ks : Keyspace) (now : Nat) (k : String)
    (hp : 0 < ttl) {x : String} (hne : x ≠ tagKey tag) : addToTag now k ttl ks tag x = ks x := by
  rw [addToTag, if_pos hp, ExpiringKeys.setex_of_ne _ _ hne]

section

variable (sets : TagSets keys) (p : Plain k) (hpos : 0 < ttl) (tag : String)
include sets p hpos

/-- What is under the key of a tag once a plain key has been added to it. -/
lemma addToTag_self (now : Nat) : ∃ ms, addToTag now k ttl keys tag (tagKey tag) =
        some ⟨.members ms, now + ttl * 1000⟩ ∧ k ∈ ms ∧ (∀ member ∈ ms, Plain member) ∧
      ∀ member exp, Holds keys tag member exp → now ≤ exp → member ∈ ms := by
  rw [addToTag, if_pos hpos, ExpiringKeys.setex_self]
  cases hf : ExpiringKeys.get keys now (tagKey tag) with
  | none =>
    refine ⟨[k], rfl, mem_singleton_self k, ?_, ?_⟩
    · intro member mem
      exact mem_singleton.mp mem ▸ p
    · intro member exp holds alive
      obtain ⟨ms, lifetime, hp, -, late⟩ := holds_iff.mp holds
      have readable : ExpiringKeys.get keys now (tagKey tag) = some (.members ms) :=
        ExpiringKeys.get_eq_some_iff.mpr ⟨_, hp, Nat.le_trans alive late, rfl⟩
      rw [hf] at readable
      cases readable
  | some item =>
    obtain ⟨e, hp, -, rfl⟩ := ExpiringKeys.get_eq_some_iff.mp hf
    obtain ⟨ms, isSet, allPlain⟩ := sets tag e hp
    refine ⟨if k ∈ ms then ms else ms ++ [k], ?_, ?_, ?_, ?_⟩
    · rw [isSet]
      rfl
    · by_cases mem : k ∈ ms <;> simp [mem]
    · intro member mem
      by_cases hkn : k ∈ ms
      · rw [if_pos hkn] at mem
        exact allPlain member mem
      · rw [if_neg hkn] at mem
        exact forall_append allPlain p member mem
    · intro member exp holds _
      obtain ⟨_, _, present', mem, -⟩ := holds_iff.mp holds
      rw [hp] at present'
      cases present'
      cases isSet
      by_cases hkn : k ∈ ms <;> simp [hkn, mem]

lemma tagSets_addToTag (now : Nat) : TagSets (addToTag now k ttl keys tag) := by
  intro tag' e hf
  by_cases hs : tag' = tag
  · subst hs
    obtain ⟨ms, hf', -, ha, -⟩ := addToTag_self sets p hpos tag' now
    rw [hf] at hf'
    cases hf'
    exact ⟨ms, rfl, ha⟩
  · rw [addToTag_of_ne keys now k hpos (tagKey_injective.ne hs)] at hf
    exact sets tag' e hf

lemma holds_addToTag {tag' m : String} {lt : Nat} (hh : Holds keys tag' m lt) (ha : now ≤ lt) :
    ∃ lifetime', now ≤ lifetime' ∧ Holds (addToTag now k ttl keys tag) tag' m lifetime' := by
  by_cases hs : tag' = tag
  · subst hs
    obtain ⟨ms, hf, -, -, hk⟩ := addToTag_self sets p hpos tag' now
    exact ⟨now + ttl * 1000, by omega, holds_iff.mpr ⟨ms, _, hf, hk m lt hh ha, Nat.le_refl _⟩⟩
  · refine ⟨lt, ha, ?_⟩
    rwa [Holds, addToTag_of_ne keys now k hpos (tagKey_injective.ne hs)]

end

section

variable {keys : Keyspace} {now : Nat} {key k : String} {ttl : Nat}

lemma tagSets_addToTags (hs : TagSets keys) (hp : Plain k) (hps : 0 < ttl)
    (ts : List String) : TagSets (ts.foldl (addToTag now k ttl) keys) :=
  foldlRecOn _ _ hs fun _ hs tag _ => tagSets_addToTag hs hp hps tag now

lemma addToTags_of_ne (hp : 0 < ttl) (ts : List String) {x : String}
    (hne : ∀ tag ∈ ts, x ≠ tagKey tag) : ts.foldl (addToTag now k ttl) keys x = keys x := by
  refine foldlRecOn (motive := fun ks : Keyspace => ks x = keys x) _ _ rfl fun ks hk tag mem => ?_
  rw [addToTag_of_ne ks now k hp (hne tag mem), hk]

variable {tag : String} {tags : List String}

lemma addToTags_of_not_mem (hp : 0 < ttl) (hn : tag ∉ tags) :
    tags.foldl (addToTag now k ttl) keys (tagKey tag) = keys (tagKey tag) :=
  addToTags_of_ne hp tags fun _ mem h => hn (tagKey_injective h ▸ mem)

lemma addToTags_self (hs : TagSets keys) (hp : Plain k) (hps : 0 < ttl) (g : tag ∈ tags) :
    ∃ ms, tags.foldl (addToTag now k ttl) keys (tagKey tag) =
        some ⟨.members ms, now + ttl * 1000⟩ ∧ k ∈ ms ∧
      ∀ m lt, Holds keys tag m lt → now ≤ lt → m ∈ ms := by
  induction tags generalizing keys with
  | nil => cases g
  | cons first tags ih =>
    rw [foldl_cons]
    have hs' := tagSets_addToTag hs hp hps first now
    by_cases hag : tag ∈ tags
    · obtain ⟨ms, hf, mem, hk⟩ := ih hs' hag
      refine ⟨ms, hf, mem, ?_⟩
      intro m lt hh ha
      obtain ⟨l', ha', hh'⟩ := holds_addToTag hs hp hps first hh ha
      exact hk m l' hh' ha'
    · have hsm : tag = first := (mem_cons.mp g).resolve_right hag
      subst hsm
      obtain ⟨ms, hf, mem, -, hk⟩ := addToTag_self hs hp hps tag now
      exact ⟨ms, by rw [addToTags_of_not_mem hps hag, hf], mem, hk⟩

variable (st : Stored)

lemma setex_tagKey (hp : Plain k) (tag : String) :
    setex keys now k ttl st (tagKey tag) = keys (tagKey tag) := by
  rw [setex]
  split
  · rw [ExpiringKeys.setex_of_ne _ _ (plain_ne_tagKey hp tag).symm]
  · rfl

lemma tagSets_setex (hs : TagSets keys) (hp : Plain k) : TagSets (setex keys now k ttl st) := by
  intro tag e hf
  rw [setex_tagKey st hp] at hf
  exact hs tag e hf

lemma tagSets_storeTagged (hs : TagSets keys) (hp : Plain k) (hps : 0 < ttl)
    (ts : List String) : TagSets (storeTagged keys now k ttl ts st) :=
  tagSets_addToTags (tagSets_setex st hs hp) hp hps ts

lemma storeTagged_self (hp : Plain k) (hps : 0 < ttl) (ts : List String) :
    storeTagged keys now k ttl ts st k = some ⟨.text st, now + ttl * 1000⟩ := by
  rw [storeTagged, addToTags_of_ne hps ts fun tag _ => plain_ne_tagKey hp tag,
    setex, if_pos hps, ExpiringKeys.setex_self]

lemma storeTagged_of_plain (hps : 0 < ttl) (ts : List String) {x : String}
    (hp : Plain x) (hne : x ≠ k) : storeTagged keys now k ttl ts st x = keys x := by
  rw [storeTagged, addToTags_of_ne hps ts fun tag _ => plain_ne_tagKey hp tag,
    setex, if_pos hps, ExpiringKeys.setex_of_ne _ _ hne]

lemma storeTagged_of_not_given (hp : Plain k) (hps : 0 < ttl) (hn : tag ∉ tags) :
    storeTagged keys now k ttl tags st (tagKey tag) = keys (tagKey tag) := by
  rw [storeTagged, addToTags_of_not_mem hps hn, setex_tagKey st hp]

lemma storeTagged_of_given (hs : TagSets keys) (hp : Plain k) (hps : 0 < ttl)
    (g : tag ∈ tags) : ∃ ms, storeTagged keys now k ttl tags st (tagKey tag) =
        some ⟨.members ms, now + ttl * 1000⟩ ∧ k ∈ ms ∧
      ∀ m lt, Holds keys tag m lt → now ≤ lt → m ∈ ms := by
  have hs' : TagSets (setex keys now k ttl st) := tagSets_setex st hs hp
  obtain ⟨ms, hf, mem, hk⟩ := addToTags_self hs' hp hps g
  refine ⟨ms, hf, mem, ?_⟩
  intro m lt holds ha
  exact hk m lt (by rwa [Holds, setex_tagKey st hp]) ha

end

/-- What Redis holds under the records of tagged keys. -/
structure Indexed (keys : Keyspace) (now : Nat) (tagged : List TagRecord) : Prop where
  sets : TagSets keys
  plain : ∀ record ∈ tagged, Plain record.key
  covered : ∀ record ∈ tagged, ∀ stored expiresAt,
    keys record.key = some ⟨.text stored, expiresAt⟩ → now ≤ expiresAt →
      Holds keys record.tag record.key expiresAt

/-- The tags whose members an invalidation has not read; a failed one promises nothing. -/
def unread (invalidation : Invalidation) : List String :=
  match invalidation.stage with
  | .collecting _ _ (.ok _) rest => rest
  | .collecting _ tag (.error _) rest => tag :: rest
  | .failed => invalidation.tags
  | _ => []

/-- An invalidation that has queued the keys `removed` and has yet to read the tags `rest` leaves no
tagged value without its tag set, and no older value of a tag it has read. -/
structure Catches (keys : Keyspace) (now : Nat) (tagged : List TagRecord) (tags : List String)
    (startedAt : Nat) (removed rest : List String) : Prop where
  swept : ∀ record ∈ tagged, ∀ stored, Live keys now record.key stored →
    tagKey record.tag ∈ removed → record.key ∈ removed
  fresh : ∀ record ∈ tagged, ∀ stored, Live keys now record.key stored →
    record.tag ∈ tags → record.tag ∉ rest →
      startedAt ≤ stored.fetchedAt ∨ record.key ∈ removed

def Pending (keys : Keyspace) (now : Nat) (tagged : List TagRecord)
    (invalidation : Invalidation) : Prop :=
  Catches keys now tagged invalidation.tags invalidation.startedAt (doomed invalidation.stage)
    (unread invalidation)

structure Guarded (s : State) : Prop where
  indexed : Indexed s.keys s.now s.tagged
  pending : ∀ invalidation ∈ s.invalidations, Pending s.keys s.now s.tagged invalidation

section

variable {keys keys' : Keyspace} {now now' : Nat} {tagged : List TagRecord} {tags : List String}
  {s : Nat} {rm rest : List String}

lemma Catches.of_live (hc : Catches keys now tagged tags s rm rest)
    (hs : ∀ k st, Live keys' now' k st → Live keys now k st) :
    Catches keys' now' tagged tags s rm rest := by
  constructor
  · intro r mem st hl
    exact hc.swept r mem st (hs _ _ hl)
  · intro r mem st hl
    exact hc.fresh r mem st (hs _ _ hl)

lemma catches_start : Catches keys now tagged tags s [] tags := by
  constructor
  · rintro _ _ _ _ ⟨⟩
  · intro r _ st _ g hn
    exact absurd g hn

variable {key k tag : String} {p : List (List String)} {ms : List String}

lemma live_advance {st : Stored} (hl : now ≤ now')
    (hlv : Live keys now' k st) : Live keys now k st := by
  obtain ⟨exp, hf, alive⟩ := hlv
  exact ⟨exp, hf, by omega⟩

lemma Indexed.advance (hix : Indexed keys now tagged) (hl : now ≤ now') :
    Indexed keys now' tagged := by
  refine ⟨hix.sets, hix.plain, ?_⟩
  intro r mem st exp hf alive
  exact hix.covered r mem st exp hf (by omega)

lemma Indexed.deleteAll (hix : Indexed keys now tagged)
    (hc : Catches keys now tagged tags s p.flatten rest) :
    Indexed (deleteAll keys p) now tagged := by
  refine ⟨?_, hix.plain, ?_⟩
  · intro tag e hf
    rw [deleteAll_apply] at hf
    split at hf
    · cases hf
    · exact hix.sets tag e hf
  · intro r mem st exp hf ha
    obtain ⟨hk, -⟩ := live_deleteAll ⟨exp, hf, ha⟩
    rw [deleteAll_apply, if_neg hk] at hf
    have hs : tagKey r.tag ∉ p.flatten := fun hdr => hk (hc.swept r mem st ⟨exp, hf, ha⟩ hdr)
    rw [Holds, deleteAll_apply, if_neg hs]
    exact hix.covered r mem st exp hf ha

lemma flatten_queueDeletes : k ∈ (queueDeletes p tag ms).flatten ↔
      k ∈ p.flatten ∨ (k ∈ ms ∨ ms ≠ [] ∧ k = tagKey tag) := by
  rw [queueDeletes]
  cases ms with
  | nil => simp
  | cons first ms => simp [or_assoc]

lemma mem_of_smembers {lt : Nat} (read : smembers keys now (tagKey tag) = .ok ms)
    (holds : Holds keys tag k lt) (alive : now ≤ lt) : k ∈ ms := by
  obtain ⟨members', lifetime', hf, mem, late⟩ := holds_iff.mp holds
  have readable : ExpiringKeys.get keys now (tagKey tag) = some (.members members') :=
    ExpiringKeys.get_eq_some_iff.mpr ⟨_, hf, Nat.le_trans alive late, rfl⟩
  rw [smembers, readable] at read
  cases read
  exact mem

lemma plain_of_smembers (hs : TagSets keys)
    (hr : smembers keys now (tagKey tag) = .ok ms) : ∀ k ∈ ms, Plain k := by
  rw [smembers] at hr
  split at hr
  · cases hr
    rintro _ ⟨⟩
  · rename_i hf
    cases hr
    obtain ⟨e, hp, -, hi⟩ := ExpiringKeys.get_eq_some_iff.mp hf
    obtain ⟨members', hi', p⟩ := hs tag e hp
    rw [hi] at hi'
    cases hi'
    exact p
  · cases hr

lemma Catches.read (hix : Indexed keys now tagged)
    (hc : Catches keys now tagged tags s p.flatten (tag :: rest))
    (hr : smembers keys now (tagKey tag) = .ok ms) :
    Catches keys now tagged tags s (queueDeletes p tag ms).flatten rest := by
  have hf : ∀ r ∈ tagged, ∀ st, Live keys now r.key st → r.tag = tag → r.key ∈ ms := by
    rintro r mem st ⟨exp, hp, ha⟩ rfl
    exact mem_of_smembers hr (hix.covered r mem st exp hp ha) ha
  constructor
  · intro r mem st hl hdr
    rw [flatten_queueDeletes] at hdr ⊢
    rcases hdr with hea | hm | ⟨-, hs⟩
    · exact .inl (hc.swept r mem st hl hea)
    · exact absurd rfl (plain_ne_tagKey (plain_of_smembers hix.sets hr _ hm) r.tag)
    · exact .inr (.inl (hf r mem st hl (tagKey_injective hs)))
  · intro r mem st hl g hn
    rw [flatten_queueDeletes]
    by_cases hs : r.tag = tag
    · exact .inr (.inr (.inl (hf r mem st hl hs)))
    · have hn' : r.tag ∉ tag :: rest := by simp [hs, hn]
      rcases hc.fresh r mem st hl g hn' with hfr | hea
      · exact .inl hfr
      · exact .inr (.inl hea)

lemma nextTag_pending (hix : Indexed keys now tagged)
    (hc : Catches keys now tagged tags s p.flatten rest) :
    Indexed (nextTag keys now p rest).1 now tagged ∧ Pending (nextTag keys now p rest).1 now tagged
      ⟨tags, s, (nextTag keys now p rest).2⟩ ∧
    ∀ k st, Live (nextTag keys now p rest).1 now k st → Live keys now k st := by
  cases rest with
  | nil =>
    refine ⟨hix.deleteAll hc, ⟨?_, ?_⟩, fun _ _ hl => (live_deleteAll hl).2⟩
    · rintro _ _ _ _ ⟨⟩
    · intro r mem st hl g hn
      obtain ⟨hk, hl⟩ := live_deleteAll hl
      exact .inl ((hc.fresh r mem st hl g hn).resolve_right hk)
  | cons tag rest =>
    refine ⟨hix, ?_, fun _ _ hl => hl⟩
    cases hr : smembers keys now (tagKey tag) with
    | ok ms =>
      simp only [nextTag, hr]
      exact hc.read hix hr
    | error _ =>
      simp only [nextTag, hr]
      exact hc

end

lemma mem_tagsOf {r : TagRecord} (mem : r ∈ s.tagged) : r.tag ∈ tagsOf s r.key := by
  rw [tagsOf, mem_map]
  exact ⟨r, mem_filter.mpr ⟨mem, by simp⟩, rfl⟩

section

variable {s : State} {c : Call} {sn : Nat} {json : String}

lemma mem_records {r : TagRecord} (mem : r ∈ s.tagged ++ c.records s.tick) :
    r ∈ s.tagged ∨ r.key = c.key ∧ r.tag ∈ c.options.tags := by
  rcases mem_append.mp mem with old | new
  · exact .inl old
  · right
    rw [Call.records] at new
    split at new
    · obtain ⟨tag, g, rfl⟩ := mem_map.mp new
      exact ⟨rfl, g⟩
    · cases new

lemma involved_of_record {r : TagRecord} (mem : r ∈ s.tagged ++ c.records s.tick)
    (hs : r.key = c.key) : r.tag ∈ involved s c := by
  rcases mem_records mem with old | ⟨-, g⟩
  · exact mem_append_right _ (hs ▸ mem_tagsOf old)
  · exact mem_append_left _ g

section

variable (safe : SafeStore s c sn)
include safe

lemma live_store {k : String} {st : Stored} (hp : Plain k)
    (hl : Live (storeTagged s.keys s.now c.key c.options.ttl c.options.tags
      ⟨json, sn⟩) s.now k st) :
    k = c.key ∧ st.fetchedAt = sn ∨ k ≠ c.key ∧ Live s.keys s.now k st := by
  obtain ⟨exp, hf, ha⟩ := hl
  by_cases hs : k = c.key
  · subst hs
    rw [storeTagged_self ⟨json, sn⟩ safe.plain safe.positive] at hf
    cases hf
    exact .inl ⟨rfl, rfl⟩
  · rw [storeTagged_of_plain ⟨json, sn⟩ safe.positive _ hp hs] at hf
    exact .inr ⟨hs, exp, hf, ha⟩

lemma plain_store (hix : Indexed s.keys s.now s.tagged) :
    ∀ r ∈ s.tagged ++ c.records s.tick, Plain r.key := by
  intro r mem
  rcases mem_records mem with old | ⟨hs, -⟩
  · exact hix.plain r old
  · exact hs ▸ safe.plain

lemma indexed_store (hix : Indexed s.keys s.now s.tagged) :
    Indexed (storeTagged s.keys s.now c.key c.options.ttl c.options.tags ⟨json, sn⟩)
      s.now (s.tagged ++ c.records s.tick) := by
  have hp := plain_store safe hix
  refine ⟨tagSets_storeTagged _ hix.sets safe.plain safe.positive _, hp, ?_⟩
  intro r mem st exp hf ha
  by_cases hs : r.key = c.key
  · rw [hs, storeTagged_self _ safe.plain safe.positive] at hf
    cases hf
    rw [hs]
    by_cases hg : r.tag ∈ c.options.tags
    · obtain ⟨ms, set, m, -⟩ :=
        storeTagged_of_given ⟨json, sn⟩ hix.sets safe.plain safe.positive hg
      exact holds_iff.mpr ⟨ms, _, set, m, Nat.le_refl _⟩
    · have old := (mem_records mem).resolve_right fun new => hg new.2
      rw [Holds, storeTagged_of_not_given _ safe.plain safe.positive hg]
      exact safe.held r.tag (hs ▸ mem_tagsOf old) hg
  · have old := (mem_records mem).resolve_right fun new => hs new.1
    rw [storeTagged_of_plain _ safe.positive _ (hp r mem) hs] at hf
    have hb := hix.covered r old st exp hf ha
    by_cases hg : r.tag ∈ c.options.tags
    · obtain ⟨ms, set, -, hk⟩ :=
        storeTagged_of_given ⟨json, sn⟩ hix.sets safe.plain safe.positive hg
      exact holds_iff.mpr ⟨ms, _, set, hk _ _ hb ha, safe.outlives r old hg hs _ hf⟩
    · rwa [Holds, storeTagged_of_not_given _ safe.plain safe.positive hg]

lemma pending_store (hgu : Guarded s) {invalidation : Invalidation}
    (mem : invalidation ∈ s.invalidations) :
    Pending (storeTagged s.keys s.now c.key c.options.ttl c.options.tags ⟨json, sn⟩)
      s.now (s.tagged ++ c.records s.tick) invalidation := by
  have hp := plain_store safe hgu.indexed
  constructor
  · intro r hi st hl hdr
    rcases live_store safe (hp r hi) hl with ⟨hs, -⟩ | ⟨hne, hl⟩
    · rw [hs]
      exact safe.swept invalidation mem _ (involved_of_record hi hs) hdr
    · have old := (mem_records hi).resolve_right fun new => hne new.1
      exact (hgu.pending invalidation mem).swept r old st hl hdr
  · intro r hi st hl g hr
    rcases live_store safe (hp r hi) hl with ⟨hs, fetched⟩ | ⟨hne, hl⟩
    · have began := safe.undisturbed invalidation mem _ (involved_of_record hi hs) g
      exact .inl (by omega)
    · have old := (mem_records hi).resolve_right fun new => hne new.1
      exact (hgu.pending invalidation mem).fresh r old st hl g hr

end

lemma guarded_store (hgu : Guarded s) (i : Nat)
    (hs : (c.options.ttl = 0 ∧ c.options.tags = []) ∨ SafeStore s c sn) :
    Guarded (s.store i c sn json) := by
  rcases hs with ⟨hr, hu⟩ | hs
  · have keys : storeTagged s.keys s.now c.key c.options.ttl c.options.tags
        ⟨json, sn⟩ = s.keys := by
      rw [storeTagged, hu, hr]
      rfl
    have tagged : s.tagged ++ c.records s.tick = s.tagged := by
      simp [Call.records, hr]
    constructor
    · simpa only [State.store, keys, tagged] using hgu.indexed
    · simpa only [State.store, keys, tagged] using hgu.pending
  · exact ⟨indexed_store hs hgu.indexed, fun _ mem => pending_store hs hgu mem⟩

end

/-- The reply that a call has got from the cache. -/
def Answered (call : Call) (stored : Stored) : Prop :=
  call.stage = .reading (.ok (some stored)) ∨ call.stage = .returned (.fromCache stored)

lemma answered_afterRead {t : Nat} {r : Except RedisError (Option Stored)}
    (h : c.stage = .reading r) (han : Answered (c.afterRead t r) st) : Answered c st := by
  left
  cases r with
  | error _ => rcases han with h' | h' <;> cases h'
  | ok cc =>
    cases cc with
    | none => rcases han with h' | h' <;> cases h'
    | some cc =>
      rw [Call.afterRead] at han
      split at han
      · rcases han with h' | h' <;> cases h'
      · rcases han with h' | h' <;> cases h'
        exact h

lemma afterRead_key (c : Call) (t : Nat) (r : Except RedisError (Option Stored)) :
    (c.afterRead t r).key = c.key ∧ (c.afterRead t r).startedAt = c.startedAt := by
  unfold Call.afterRead
  repeat' split
  all_goals exact ⟨rfl, rfl⟩

/-- The same call further on, with no new answer from the cache. -/
def Continues (call call' : Call) : Prop :=
  call'.key = call.key ∧ call'.startedAt = call.startedAt ∧
    ∀ stored, Answered call' stored → Answered call stored

lemma resumeCall_cases (h : s.resumeCall i c o = some t) :
    (∃ c', t = s.setCall i c' ∧ Continues c c') ∨
      ∃ sn json, c.stage = .fetching sn ∧ o = .data (some json) ∧ t = s.store i c sn json := by
  have hsi : ∀ stage : Stage, (∀ st, ¬ Answered { c with stage := stage } st) →
      ∀ fetches, Continues c { c with fetches := fetches, stage := stage } := by
    intro stage hu fetches
    exact ⟨rfl, rfl, fun st han => absurd han (hu st)⟩
  unfold State.resumeCall at h
  split at h
  case h_1 reply stage =>
    cases h
    obtain ⟨k, sa⟩ := afterRead_key c s.tick reply
    exact .inl ⟨_, rfl, k, sa, fun _ => answered_afterRead stage⟩
  case h_3 sn json stage =>
    cases h
    exact .inr ⟨sn, json, stage, rfl, rfl⟩
  case h_10 => cases h
  -- the other steps of a call leave it waiting, or end it with a fetched value
  all_goals
    cases h
    exact .inl ⟨_, rfl, hsi _ (by rintro _ (h | h) <;> cases h) _⟩

lemma resumeInvalidation_cases (h : s.resumeInvalidation i invalidation o = some t) :
    (∃ pl tag keys rest, invalidation.stage = .collecting pl tag (.ok keys) rest ∧
      t = s.continueInvalidation i invalidation (queueDeletes pl tag keys) rest) ∨
    t = s.setInvalidation i { invalidation with stage := .failed } ∨
    invalidation.stage = .executing ∧
      t = s.setInvalidation i { invalidation with stage := .completed s.tick } := by
  unfold State.resumeInvalidation at h
  split at h
  · rename_i pl tag keys rest stage
    cases h
    exact .inl ⟨pl, tag, keys, rest, stage, rfl⟩
  · cases h
    exact .inr (.inl rfl)
  · cases h
    exact .inr (.inl rfl)
  · rename_i stage
    cases h
    exact .inr (.inr ⟨stage, rfl⟩)
  · cases h
    exact .inr (.inl rfl)
  · cases h

section

variable {s : State} {i : Nat} {inv : Invalidation} {o : Outcome} {t : State}

lemma guarded_continueInvalidation (hgu : Guarded s) {pl : List (List String)} {r : List String}
    (hc : Catches s.keys s.now s.tagged inv.tags inv.startedAt
      pl.flatten r) : Guarded (s.continueInvalidation i inv pl r) := by
  obtain ⟨hix, own, hs⟩ := nextTag_pending hgu.indexed hc
  refine ⟨hix, forall_set ?_ i own⟩
  intro x mem
  exact (hgu.pending x mem).of_live hs

lemma guarded_setInvalidation (hgu : Guarded s) (i : Nat)
    (hpe : Pending s.keys s.now s.tagged inv) : Guarded (s.setInvalidation i inv) :=
  ⟨hgu.indexed, forall_set hgu.pending i hpe⟩

lemma guarded_resumeInvalidation (hgu : Guarded s) (mem : inv ∈ s.invalidations)
    (h : s.resumeInvalidation i inv o = some t) : Guarded t := by
  have own := hgu.pending inv mem
  rcases resumeInvalidation_cases h with ⟨pipeline, tag, keys, rest, sg, rfl⟩ | rfl | ⟨sg, rfl⟩
  · rw [Pending, unread, sg] at own
    exact guarded_continueInvalidation hgu own
  · exact guarded_setInvalidation hgu i catches_start
  · rw [Pending, unread, sg] at own
    exact guarded_setInvalidation hgu i own

lemma guarded_startInvalidation (hgu : Guarded s) (tags : List String) :
    Guarded (s.startInvalidation tags) := by
  have hst : Catches s.keys s.now s.tagged tags s.tick ([] : List (List String)).flatten tags :=
    catches_start
  obtain ⟨hix, own, hs⟩ := nextTag_pending hgu.indexed hst
  refine ⟨hix, forall_append ?_ own⟩
  intro x mem
  exact (hgu.pending x mem).of_live hs

lemma resumeCall_of_act (h : act s (.resumeCall i o) = some t) :
    ∃ c, s.calls[i]? = some c ∧ s.resumeCall i c o = some t := by
  rw [act] at h
  split at h
  · cases h
  · rename_i c hf
    exact ⟨c, hf, h⟩

lemma resumeInvalidation_of_act (h : act s (.resumeInvalidation i o) = some t) :
    ∃ iv, s.invalidations[i]? = some iv ∧ s.resumeInvalidation i iv o = some t := by
  rw [act] at h
  split at h
  · cases h
  · rename_i iv hf
    exact ⟨iv, hf, h⟩

lemma guarded_act (hgu : Guarded s) {l : Label} (hs : Safe s l)
    (h : act s l = some t) : Guarded t := by
  cases l with
  | getOrSet k os =>
    cases h
    exact ⟨hgu.indexed, hgu.pending⟩
  | resumeCall i o =>
    obtain ⟨c, hf, hr⟩ := resumeCall_of_act h
    rcases resumeCall_cases hr with ⟨call', rfl, -⟩ | ⟨since, json, sg, rfl, rfl⟩
    · exact ⟨hgu.indexed, hgu.pending⟩
    · obtain ⟨k, os, startedAt, fetches, _⟩ := c
      cases sg
      rw [Safe, hf] at hs
      exact guarded_store hgu i hs
  | invalidateByTags tags =>
    cases h
    exact guarded_startInvalidation hgu tags
  | resumeInvalidation i o =>
    obtain ⟨inv, hf, hr⟩ := resumeInvalidation_of_act h
    exact guarded_resumeInvalidation hgu (mem_of_getElem? hf) hr
  | advance milliseconds =>
    cases h
    have hl : s.now ≤ s.now + milliseconds := by omega
    refine ⟨hgu.indexed.advance hl, ?_⟩
    intro inv mem
    exact (hgu.pending inv mem).of_live fun _ _ => live_advance hl

end

/-- What a step adds to the history of a state: all of it carries the tick of the step, and
a call that starts is answered with a live value. -/
structure Follows (s t : State) : Prop where
  invalidations : ∀ invalidation ∈ t.invalidations, ∀ completedAt,
    invalidation.stage = .completed completedAt →
      invalidation ∈ s.invalidations ∨ completedAt = s.tick
  tagged : ∀ record ∈ t.tagged, record ∈ s.tagged ∨ record.storedAt = s.tick
  calls : ∀ call ∈ t.calls, (∃ old ∈ s.calls, Continues old call) ∨
    call.startedAt = s.tick ∧
      ∀ stored, Answered call stored → Live s.keys s.now call.key stored
  tick : t.tick = s.tick

lemma Continues.refl (c : Call) : Continues c c := ⟨rfl, rfl, fun _ han => han⟩

lemma follows_calls (calls : List Call)
    (h : ∀ c ∈ calls, (∃ old ∈ s.calls, Continues old c) ∨ c.startedAt = s.tick ∧
        ∀ st, Answered c st → Live s.keys s.now c.key st) :
    Follows s { s with calls := calls } :=
  ⟨fun _ mem _ _ => .inl mem, fun _ mem => .inl mem, h, rfl⟩

lemma follows_invalidations (keys : Keyspace) (now : Nat) (invalidations : List Invalidation)
    (h : ∀ iv ∈ invalidations, ∀ ca, iv.stage = .completed ca →
        iv ∈ s.invalidations ∨ ca = s.tick) :
    Follows s { s with keys := keys, now := now, invalidations := invalidations } :=
  ⟨h, fun _ mem => .inl mem, fun c mem => .inl ⟨c, mem, .refl c⟩, rfl⟩

lemma continues_set {c' : Call} (mem : c ∈ s.calls) (hc : Continues c c') :
    ∀ x ∈ s.calls.set i c', (∃ old ∈ s.calls, Continues old x) ∨ x.startedAt = s.tick ∧
        ∀ st, Answered x st → Live s.keys s.now x.key st :=
  forall_set (fun x mem => .inl ⟨x, mem, .refl x⟩) i (.inl ⟨c, mem, hc⟩)

lemma follows_store {sn : Nat} (mem : c ∈ s.calls) (j : String) : Follows s (s.store i c sn j) := by
  refine ⟨fun _ mem _ _ => .inl mem, ?_, continues_set mem ⟨rfl, rfl, ?_⟩, rfl⟩
  · intro r mem
    rcases mem_append.mp mem with old | new
    · exact .inl old
    · right
      rw [Call.records] at new
      split at new
      · obtain ⟨tag, -, rfl⟩ := mem_map.mp new
        rfl
      · cases new
  · rintro _ (h | h) <;> cases h

lemma nextTag_not_completed (ks : Keyspace) (now : Nat) (p : List (List String))
    (r : List String) (completedAt : Nat) : (nextTag ks now p r).2 ≠ .completed completedAt := by
  cases r <;> rintro ⟨⟩

lemma follows_setInvalidation (keys : Keyspace) (i : Nat)
    (h : ∀ c, invalidation.stage = .completed c → c = s.tick) :
    Follows s { s with keys := keys, invalidations := s.invalidations.set i invalidation } :=
  follows_invalidations keys s.now _ (forall_set (fun _ mem _ _ => .inl mem) i
      fun c sg => .inr (h c sg))

lemma follows_resumeInvalidation (h : s.resumeInvalidation i invalidation o = some t) :
    Follows s t := by
  rcases resumeInvalidation_cases h with ⟨pipeline, tag, keys, rest, -, rfl⟩ | rfl | ⟨-, rfl⟩
  · exact follows_setInvalidation _ i fun c sg => absurd sg (nextTag_not_completed _ _ _ _ c)
  · exact follows_setInvalidation s.keys i (by rintro _ ⟨⟩)
  · exact follows_setInvalidation s.keys i (by rintro _ ⟨⟩; rfl)

lemma follows_act {l : Label} (h : act s l = some t) : Follows s t := by
  cases l with
  | getOrSet k options =>
    cases h
    refine follows_calls _ (forall_append ?_ (.inr ⟨rfl, ?_⟩))
    · intro c mem
      exact .inl ⟨c, mem, .refl c⟩
    · rintro st (r | hrt)
      · exact live_of_get (Stage.reading.inj r)
      · cases hrt
  | resumeCall i o =>
    obtain ⟨c, hf, hr⟩ := resumeCall_of_act h
    have mem := mem_of_getElem? hf
    rcases resumeCall_cases hr with ⟨call', rfl, hc⟩ | ⟨since, json, -, -, rfl⟩
    · exact follows_calls _ (continues_set mem hc)
    · exact follows_store mem json
  | invalidateByTags tags =>
    cases h
    refine follows_invalidations _ s.now _ (forall_append (fun _ mem _ _ => .inl mem) ?_)
    intro ca sg
    exact absurd sg (nextTag_not_completed _ _ _ _ ca)
  | resumeInvalidation i o =>
    obtain ⟨invalidation, -, hr⟩ := resumeInvalidation_of_act h
    exact follows_resumeInvalidation hr
  | advance milliseconds =>
    cases h
    exact follows_invalidations s.keys _ s.invalidations fun _ mem _ _ => .inl mem

/-- `NoStaleHit` for the calls that hold an answer, whether or not they have returned it. -/
def NoStaleAnswer (s : State) : Prop :=
  ∀ invalidation ∈ s.invalidations, ∀ completedAt,
    invalidation.stage = .completed completedAt →
  ∀ record ∈ s.tagged, record.tag ∈ invalidation.tags →
  ∀ call ∈ s.calls, call.key = record.key →
    completedAt < call.startedAt → record.storedAt < call.startedAt →
  ∀ stored, Answered call stored → invalidation.startedAt ≤ stored.fetchedAt

lemma Follows.startedAt_le (hf : Follows s t)
    (ht : ∀ c ∈ s.calls, c.startedAt < s.tick) : ∀ c ∈ t.calls, c.startedAt ≤ s.tick := by
  intro c mem
  rcases hf.calls c mem with ⟨old, hi, -, hsta, -⟩ | ⟨began, -⟩
  · have early := ht old hi
    omega
  · omega

lemma noStaleAnswer_of_follows (hgu : Guarded s)
    (ht : ∀ c ∈ s.calls, c.startedAt < s.tick) (none : NoStaleAnswer s)
    (hf : Follows s t) : NoStaleAnswer t := by
  intro invalidation hi ca hcp r hin g c his sameKey afterwards stored_before st han
  have early := hf.startedAt_le ht c his
  have hi' := (hf.invalidations _ hi _ hcp).resolve_right (by omega)
  have hin' := (hf.tagged r hin).resolve_right (by omega)
  rcases hf.calls c his with ⟨old, hid, k, hsta, an⟩ | ⟨-, hl⟩
  · exact none invalidation hi' ca hcp r hin' g old
      hid (k ▸ sameKey) (by omega) (by omega) st (an st han)
  · -- all tags of a completed invalidation are read and its deletions are done
    have hpe := hgu.pending invalidation hi'
    rw [Pending, unread, hcp] at hpe
    have hfr := hpe.fresh r hin' st (sameKey ▸ hl st han) g
    exact (hfr not_mem_nil).resolve_right not_mem_nil

structure Sound (s : State) : Prop where
  guarded : Guarded s
  timely : ∀ call ∈ s.calls, call.startedAt < s.tick
  answers : NoStaleAnswer s

lemma sound_initial (now : Nat) : Sound (initial now) where
  guarded := by
    refine ⟨⟨by rintro _ _ ⟨⟩, ?_, ?_⟩, ?_⟩ <;> rintro _ ⟨⟩
  timely := by rintro _ ⟨⟩
  answers := by rintro _ ⟨⟩

lemma sound_step (sn : Sound s) {l : Label} (hs : Safe s l) (h : step s l = some t) : Sound t := by
  obtain ⟨u, hac, rfl⟩ := Option.map_eq_some_iff.mp h
  have hf := follows_act hac
  have hgu := guarded_act sn.guarded hs hac
  refine ⟨⟨hgu.indexed, hgu.pending⟩, ?_, ?_⟩
  · intro c mem
    show c.startedAt < u.tick + 1
    rw [hf.tick]
    exact Nat.lt_succ_of_le (hf.startedAt_le sn.timely c mem)
  · have ha := noStaleAnswer_of_follows sn.guarded sn.timely sn.answers hf
    exact ha

theorem noStaleHit_of_safe {now : Nat} {labels : List Label} {s : State}
    (run : Run step Safe (initial now) labels s) : NoStaleHit s := by
  have hs := run.invariant Sound (fun _ _ _ hs => sound_step hs) (sound_initial now)
  intro invalidation hi c hc r hin g cl his sameKey afterwards stored_before stored returned
  exact hs.answers invalidation hi c hc r hin g
    cl his sameKey afterwards stored_before stored (.inr returned)

/-- A profile is fetched, invalidated, fetched again and then read from the cache. -/
def refetchedProfile : List Label :=
  [.getOrSet "profile:7" ⟨600, ["crm"]⟩, .resumeCall 0 .reply,
   .resumeCall 0 (.data (some "old")), .resumeCall 0 .reply,
   .invalidateByTags ["crm"], .resumeInvalidation 0 .reply, .resumeInvalidation 0 .reply,
   .getOrSet "profile:7" ⟨600, ["crm"]⟩, .resumeCall 1 .reply,
   .resumeCall 1 (.data (some "new")), .resumeCall 1 .reply, .advance 5000,
   .getOrSet "profile:7" ⟨600, ["crm"]⟩, .resumeCall 2 .reply]

theorem refetchedProfile_hits_the_new_value :
    ∃ s, Run step Safe (initial 0) refetchedProfile s ∧ NoStaleHit s ∧
      s.invalidations[0]? = some ⟨["crm"], 4, .completed 6⟩ ∧
      s.calls[2]? =
        some ⟨"profile:7", ⟨600, ["crm"]⟩, 12, 0, .returned (.fromCache ⟨"new", 8⟩)⟩ := by
  exact exists_run_of_seen _ (by decide +kernel) fun s run sn => ⟨noStaleHit_of_safe run, sn⟩

/-- A profile is being fetched while its tag is invalidated, and is stored afterwards. -/
def straddlingFetch : List Label :=
  [.getOrSet "profile:7" ⟨600, ["crm"]⟩, .resumeCall 0 .reply,
   .invalidateByTags ["crm"], .resumeInvalidation 0 .reply, .resumeInvalidation 0 .reply,
   .resumeCall 0 (.data (some "old")), .resumeCall 0 .reply,
   .getOrSet "profile:7" ⟨600, ["crm"]⟩, .resumeCall 1 .reply]

theorem straddlingFetch_hits_the_old_value :
    ∃ s, Run step Always (initial 0) straddlingFetch s ∧ ¬ NoStaleHit s := by
  refine ⟨_, run_of_exec rfl, fun hn => ?_⟩
  have hf := hn ⟨["crm"], 2, .completed 4⟩ (.head _) 4 rfl ⟨"profile:7", "crm", 5⟩
    (.head _) (by decide) ⟨"profile:7", ⟨600, ["crm"]⟩, 7, 0, .returned (.fromCache ⟨"old", 1⟩)⟩
    (.tail _ (.head _)) rfl (by decide) (by decide) _ rfl
  exact absurd hf (by decide)

end CacheInvalidation
