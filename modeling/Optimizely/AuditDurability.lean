import Optimizely.AuditLogging
import Optimizely.TaskLists
import Optimizely.TransitionRuns

/-!
# Durability of audit records

The last save of a shutdown holds every record that was logged and is not past its retention, if the
last batch takes all that is queued and no such record is older than thirty days. A new service then
loads what was logged.
-/

namespace AuditLogging

open List Option OrderedMap Service JsonRecord TaskLists TransitionRuns

variable (digest : Json → String)

/-- The record that is loaded is the one that was logged. -/
structure Same (record loaded : Fields) : Prop where
  json : ∀ key, (stringify loaded).get? key = (stringify record).get? key
  timestamp : timestampOf loaded = timestampOf record
  checksum : loaded.get? "checksum" = record.get? "checksum"
  valid : (generateChecksum digest loaded).map JsData.string = loaded.get? "checksum"

/-- When `shutdown` resolves, every record that was logged before it and is not past its retention
is found in the JSON, and so is it by a service that loads it. -/
def Durable (s : Service) : Prop :=
  s.stage = .resolved s.now → ∀ record ∈ s.logged, s.isExpired record = false →
    ∃ records, s.persisted = some records ∧ stringify record ∈ records ∧
      ∃ loaded, (loadConfiguration records).get? (recordId record) = some loaded ∧
        Same digest record loaded

/-- One batch takes all that is queued at `shutdown`, and at its last save every record that is to
be retained is at most thirty days old. -/
def Covered (s : Service) : Label → Prop
  | .shutdown => s.processingQueue.length ≤ Service.batchSize
  | .resume => ∀ record ∈ s.logged, s.isExpired record = false → s.isRecent record = true
  | _ => True

instance (s : Service) (label : Label) : Decidable (Covered s label) := by
  cases label <;> dsimp only [Covered] <;> infer_instance

lemma stringifyFields_congr {first g : String → JsData} (ks : List String)
    (hsm : ∀ k ∈ ks, Json.stringify (first k) = Json.stringify (g k)) :
    Json.stringifyFields (ks.map fun k => (k, first k)) =
      Json.stringifyFields (ks.map fun k => (k, g k)) := by
  induction ks with
  | nil => rfl
  | cons k ks ih =>
    have hr := ih fun k mem => hsm k (mem_cons_of_mem _ mem)
    rw [map_cons, map_cons, Json.stringifyFields, Json.stringifyFields, hsm k mem_cons_self, hr]

/-- The checksum reads the timestamp and the JSON of some fields. -/
lemma generateChecksum_congr {first second : Fields}
    (t : timestampOf first = timestampOf second) (hs : ∀ k ∈ checksumKeys,
      Json.stringify (field first k) = Json.stringify (field second k)) :
    generateChecksum digest first = generateChecksum digest second := by
  rw [generateChecksum, generateChecksum, t]
  congr 1
  funext ms
  rw [Json.stringify, Json.stringify, Json.stringifyFields, Json.stringifyFields,
    stringifyFields_congr checksumKeys hs]

/-- What is known of a record as `logAuditEvent` makes it. -/
structure Genuine (record : Fields) : Prop where
  id : record.get? "id" = some (.string (recordId record))
  timestamp : ∃ ms, record.get? "timestamp" = some (.date ms)
  checksum : ∃ text, record.get? "checksum" = some (.string text) ∧
    generateChecksum digest record = some text

variable {ms : Int} {rec r : Fields} {key k id : String} {records recs : List Record}
  {s t : Service} {commands : List (List Record × Saver)} {sv : Saver}

lemma timestampOf_of_date
    (hf : r.get? "timestamp" = some (.date ms)) : timestampOf r = some ms := by
  simp [timestampOf, hf]

lemma get?_newRecord (x : k ≠ "checksum") (e : Fields) (id : String) (now : Int) :
    (newRecord digest e id now).get? k = (unsignedRecord e id now).get? k := by
  rw [newRecord, get?_set, if_neg (Ne.symm x)]

lemma generateChecksum_isSome
    (hf : timestampOf r = some ms) : ∃ text, generateChecksum digest r = some text := by
  simp [generateChecksum, hf, Json.stringify]

lemma recordId_newRecord (e : Fields) (id : String) (now : Int) :
    recordId (newRecord digest e id now) = id := by
  rfl

lemma genuine_newRecord (e : Fields) (id : String) (now : Int) :
    Genuine digest (newRecord digest e id now) := by
  have hs : (newRecord digest e id now).get? "timestamp" = some (.date now) :=
    get?_newRecord digest (by decide) e id now
  refine ⟨?_, ⟨now, hs⟩, ?_⟩
  · exact get?_newRecord digest (by decide) e id now
  · -- the checksum does not cover itself
    have hu : timestampOf (unsignedRecord e id now) = some now := rfl
    obtain ⟨t, hm⟩ := generateChecksum_isSome digest hu
    refine ⟨t, ?_, ?_⟩
    · rw [newRecord, get?_set, if_pos rfl, hm, getD_some]
    · rw [← hm]
      apply generateChecksum_congr
      · rw [timestampOf_of_date hs, hu]
      · intro k mem
        have x : k ≠ "checksum" := by
          rintro rfl
          revert mem
          decide
        rw [field, field, get?_newRecord digest x]

lemma recordId_parse_stringify
    (hf : r.get? "id" = some (.string id)) : recordId (parse (stringify r)) = id := by
  simp [recordId, get?_parse, get?_stringify, hf, Json.stringify, Json.parse]

lemma get?_loadRecord (x : k ≠ "timestamp") (r : Fields) : (loadRecord (stringify r)).get? k =
      ((r.get? k).bind Json.stringify).map Json.parse := by
  rw [loadRecord, get?_set, if_neg (Ne.symm x), get?_parse, get?_stringify]

lemma timestamp_loadRecord (hf : r.get? "timestamp" = some (.date ms)) :
    (loadRecord (stringify r)).get? "timestamp" = some (.date ms) := by
  have ht : field (parse (stringify r)) "timestamp" = .string (toISOString ms) := by
    simp [field, get?_parse, get?_stringify, hf, Json.stringify, Json.parse]
  rw [loadRecord, get?_set, if_pos rfl, ht, newDate, IsoDate.parse_toISOString]
  rfl

lemma json_loadRecord (hf : r.get? "timestamp" = some (.date ms)) (k : String) :
    ((loadRecord (stringify r)).get? k).bind Json.stringify = (r.get? k).bind Json.stringify := by
  by_cases hs : k = "timestamp"
  · subst hs
    rw [timestamp_loadRecord hf, hf]
  · rw [get?_loadRecord hs]
    cases (r.get? k).bind Json.stringify with
    | none => rfl
    | some j => exact Json.stringify_parse j

lemma stringify_field (r : Fields) (k : String) :
    Json.stringify (field r k) = (r.get? k).bind Json.stringify := by
  rw [field]
  cases r.get? k <;> rfl

lemma same_loadRecord (genuine : Genuine digest r) : Same digest r (loadRecord (stringify r)) := by
  obtain ⟨ms, stamped⟩ := genuine.timestamp
  obtain ⟨text, hf, made⟩ := genuine.checksum
  have stamp : timestampOf (loadRecord (stringify r)) = timestampOf r := by
    rw [timestampOf_of_date (timestamp_loadRecord stamped), timestampOf_of_date stamped]
  have checksum : (loadRecord (stringify r)).get? "checksum" = some (.string text) := by
    rw [get?_loadRecord (by decide), hf]
    rfl
  refine ⟨fun k => ?_, stamp, checksum.trans hf.symm, ?_⟩
  · rw [get?_stringify, get?_stringify, json_loadRecord stamped]
  · have again : generateChecksum digest (loadRecord (stringify r)) = some text := by
      rw [← made]
      apply generateChecksum_congr digest stamp
      intro k _
      rw [stringify_field, stringify_field, json_loadRecord stamped]
    rw [again, checksum]
    rfl

/-- Loading finds each of the records that were saved, if they have different ids. -/
lemma get?_loadConfiguration
    (hg : Genuine digest rec) (hd : (recs.map fun r => recordId (parse r)).Nodup)
    (mem : stringify rec ∈ recs) :
    (loadConfiguration recs).get? (recordId rec) = some (loadRecord (stringify rec)) := by
  have hl := get?_foldl_set_of_mem (fun r => recordId (parse r)) loadRecord hd mem .empty
  rwa [recordId_parse_stringify hg.id] at hl

variable {digest}

def AllBackground (commands : List (List Record × Saver)) : Prop :=
  ∀ command ∈ commands, command.2 = .background

/-- No record that was logged is left in the queue. -/
def Moved (s : Service) : Prop :=
  ∀ record ∈ s.logged, s.isExpired record = false →
    s.auditRecords.get? (recordId record) = some record

structure Saved (s : Service) (records : List Record) : Prop where
  all : ∀ record ∈ s.logged, s.isExpired record = false → stringify record ∈ records
  distinct : (records.map fun record => recordId (parse record)).Nodup

/-- What is known at each await of `shutdown`. -/
def StageOk (s : Service) : Prop :=
  match s.stage with
  | .running | .rejected => AllBackground s.commands
  | .draining => Moved s ∧
    ∃ before records, s.commands = before ++ [(records, .draining)] ∧ AllBackground before
  | .drained => Moved s ∧ AllBackground s.commands
  | .saving => ∃ before records, s.commands = before ++ [(records, .saving)] ∧
    AllBackground before ∧ Saved s records
  | .resolved time => ∃ records, s.commands = [] ∧ s.redis = some (records, time + ttl) ∧
    Saved s records

variable (digest) in
structure Sound (s : Service) : Prop where
  queue : ∀ record ∈ s.processingQueue, Genuine digest record
  logged : ∀ record ∈ s.logged, Genuine digest record
  distinct : (s.processingQueue.map recordId).Nodup
  apart : ∀ record ∈ s.processingQueue, s.auditRecords.get? (recordId record) = none
  keyed : ∀ id record, s.auditRecords.get? id = some record →
    record.get? "id" = some (.string id)
  held : ∀ record ∈ s.logged, s.isExpired record = false →
    record ∈ s.processingQueue ∨ s.auditRecords.get? (recordId record) = some record
  stage : StageOk s

lemma sound_of_initialized (hi : Initialized s) : Sound digest s where
  queue := by simp [hi.processingQueue]
  logged := by simp [hi.logged]
  distinct := by simp [hi.processingQueue]
  apart := by simp [hi.processingQueue]
  keyed := hi.auditRecords
  held := by simp [hi.logged]
  stage := by
    rw [StageOk, hi.stage]
    exact hi.commands

lemma durable_of_sound (sn : Sound digest s) : Durable digest s := by
  intro hr r mem hrt
  have hs := sn.stage
  simp only [StageOk, hr] at hs
  obtain ⟨records, -, rs, hsv⟩ := hs
  have hg := sn.logged r mem
  have hi := hsv.all r mem hrt
  refine ⟨records, ?_, hi, _, get?_loadConfiguration digest hg hsv.distinct hi,
    same_loadRecord digest hg⟩
  simp [persisted, rs, ttl]

section

variable (hp : t.retentionPolicies = s.retentionPolicies) (hl : s.now ≤ t.now)
include hp hl

lemma isExpired_mono (hrt : t.isExpired r = false) : s.isExpired r = false := by
  rw [isExpired, hp] at hrt
  rw [isExpired]
  cases hf : s.retentionPolicies.get? (retentionPolicyOf r) with
  | none => rfl
  | some policy =>
    rw [hf] at hrt
    simp only [any_some, decide_eq_false_iff_not, not_lt] at hrt ⊢
    have ho : s.age r ≤ t.age r := by
      rw [age, age]
      omega
    exact (Rat.intCast_le_intCast.mpr ho).trans hrt

lemma Moved.mono (hmo : Moved s) (hlg : t.logged = s.logged)
    (hr : t.auditRecords = s.auditRecords) : Moved t := by
  intro r mem hrt
  rw [hr]
  exact hmo r (hlg ▸ mem) (isExpired_mono hp hl hrt)

lemma Saved.mono (hs : Saved s recs) (hlg : t.logged = s.logged) : Saved t recs where
  all r mem hrt := hs.all r (hlg ▸ mem) (isExpired_mono hp hl hrt)
  distinct := hs.distinct

end

lemma StageOk.mono (hkn : StageOk s) (sg : t.stage = s.stage)
    (cs : t.commands = s.commands) (rs : t.redis = s.redis)
    (hlg : s.stage ≠ .running → t.logged = s.logged)
    (hp : t.retentionPolicies = s.retentionPolicies) (hl : s.now ≤ t.now)
    (hr : t.auditRecords = s.auditRecords) : StageOk t := by
  unfold StageOk at hkn ⊢
  rw [sg, cs, rs]
  cases now : s.stage with
  | running | rejected => simpa only [now] using hkn
  | draining | drained =>
    simp only [now] at hkn
    exact ⟨hkn.1.mono hp hl (hlg (by simp [now])) hr, hkn.2⟩
  | saving =>
    simp only [now] at hkn
    obtain ⟨b, ss, split, hb, hs⟩ := hkn
    exact ⟨b, ss, split, hb, hs.mono hp hl (hlg (by simp [now]))⟩
  | resolved time =>
    simp only [now] at hkn
    obtain ⟨ss, none, hk, hs⟩ := hkn
    exact ⟨ss, none, hk, hs.mono hp hl (hlg (by simp [now]))⟩

lemma sound_advance (sn : Sound digest s) (ms : Nat) :
    Sound digest { s with now := s.now + ms } where
  queue := sn.queue
  logged := sn.logged
  distinct := sn.distinct
  apart := sn.apart
  keyed := sn.keyed
  held r mem hrt := by
    have hl : s.now ≤ s.now + ms := by omega
    exact sn.held r mem (isExpired_mono (s := s) (t := { s with now := s.now + ms }) rfl hl hrt)
  stage := by
    have hl : s.now ≤ s.now + ms := by omega
    exact sn.stage.mono rfl rfl rfl (fun _ => rfl) rfl hl rfl

lemma mem_logged_logAuditEvent {e : Fields} (mem : r ∈ (s.logAuditEvent digest e id).logged) :
    r ∈ s.logged ∨ r = newRecord digest e id s.now := by
  simp only [logAuditEvent] at mem
  split at mem
  · rcases mem_append.mp mem with hlg | new
    · exact .inl hlg
    · exact .inr (mem_singleton.mp new)
  · exact .inl mem

lemma sound_logAuditEvent (sn : Sound digest s) (e : Fields)
    (hfr : s.isFresh id = true) : Sound digest (s.logAuditEvent digest e id) := by
  rw [isFresh, Bool.and_eq_true, List.all_eq_true] at hfr
  have hg := genuine_newRecord digest e id s.now
  have hn := recordId_newRecord digest e id s.now
  refine ⟨?_, ?_, ?_, ?_, sn.keyed, ?_, ?_⟩
  · exact forall_append sn.queue hg
  · intro r mem
    rcases mem_logged_logAuditEvent mem with hlg | rfl
    · exact sn.logged r hlg
    · exact hg
  · simp only [logAuditEvent, map_append, map_cons, map_nil, hn]
    refine nodup_append.mpr ⟨sn.distinct, nodup_singleton _, ?_⟩
    intro x mem new hh
    obtain ⟨r, hq, rfl⟩ := mem_map.mp mem
    rw [mem_singleton.mp hh]
    exact of_decide_eq_true (hfr.2 r hq)
  · refine forall_append sn.apart ?_
    rw [hn]
    exact lookup_of_not_mem (of_decide_eq_true hfr.1)
  · intro r mem hrt
    rcases mem_logged_logAuditEvent mem with hlg | new
    · exact (sn.held r hlg hrt).imp_left (mem_append_left _)
    · exact .inl (mem_append_right _ (mem_singleton.mpr new))
  · refine sn.stage.mono rfl rfl rfl (fun hs => ?_) rfl (le_refl _) rfl
    simp only [logAuditEvent, if_neg hs]

lemma Sound.with_commands (sn : Sound digest s)
    (queue : t.processingQueue = s.processingQueue) (logged : t.logged = s.logged)
    (hr : t.auditRecords = s.auditRecords)
    (hp : t.retentionPolicies = s.retentionPolicies) (now : t.now = s.now)
    (stage : StageOk t) : Sound digest t where
  queue := queue ▸ sn.queue
  logged := logged ▸ sn.logged
  distinct := queue ▸ sn.distinct
  apart := by
    rw [queue, hr]
    exact sn.apart
  keyed := hr ▸ sn.keyed
  held r mem hrt := by
    rw [queue, hr]
    exact sn.held r (logged ▸ mem) (isExpired_mono hp (le_of_eq now.symm) hrt)
  stage := stage

lemma mem_take_or_drop {α : Type*} {xs : List α} {item : α} (n : Nat) (mem : item ∈ xs) :
    item ∈ xs.take n ∨ item ∈ xs.drop n := by
  rw [← take_append_drop n xs] at mem
  exact mem_append.mp mem

lemma get?_moveBatch_of_mem (sn : Sound digest s) (mem : r ∈ s.processingQueue.take batchSize) :
    s.moveBatch.auditRecords.get? (recordId r) = some r := by
  have hd : ((s.processingQueue.take batchSize).map recordId).Nodup :=
    sn.distinct.sublist ((take_sublist _ _).map _)
  exact get?_foldl_set_of_mem recordId (fun r => r) hd mem s.auditRecords

lemma get?_moveBatch_of_not_mem (hab : k ∉ (s.processingQueue.take batchSize).map recordId) :
    s.moveBatch.auditRecords.get? k = s.auditRecords.get? k :=
  get?_foldl_set_of_not_mem recordId (fun r => r) hab s.auditRecords

lemma sound_moveBatch (sound : Sound digest s) (running : s.stage = .running) :
    Sound digest s.moveBatch := by
  refine ⟨?_, sound.logged, ?_, ?_, ?_, ?_, ?_⟩
  · intro r mem
    exact sound.queue r (mem_of_mem_drop mem)
  · exact sound.distinct.sublist ((drop_sublist _ _).map _)
  · intro r mem
    -- an id of the rest of the queue is none of the batch
    have apart : recordId r ∉ (s.processingQueue.take batchSize).map recordId := by
      have hd := sound.distinct
      rw [← take_append_drop batchSize s.processingQueue, map_append] at hd
      intro ht
      exact (disjoint_of_nodup_append hd) ht (mem_map_of_mem mem)
    rw [get?_moveBatch_of_not_mem apart]
    exact sound.apart r (mem_of_mem_drop mem)
  · intro id r hf
    rcases get?_foldl_set_cases recordId (fun r => r) hf with ⟨item, mem, rfl, rfl⟩ | before
    · exact (sound.queue item (mem_of_mem_take mem)).id
    · exact sound.keyed id r before
  · intro r mem hrt
    rcases sound.held r mem hrt with hq | hf
    · rcases mem_take_or_drop batchSize hq with ht | left
      · exact .inr (get?_moveBatch_of_mem sound ht)
      · exact .inl left
    · right
      by_cases here : recordId r ∈ (s.processingQueue.take batchSize).map recordId
      · obtain ⟨x, ht, same⟩ := mem_map.mp here
        have hab := sound.apart x (mem_of_mem_take ht)
        rw [same, hf] at hab
        cases hab
      · rw [get?_moveBatch_of_not_mem here, hf]
  · have sg := sound.stage
    simp only [StageOk, running] at sg
    rw [StageOk, show s.moveBatch.stage = .running from running]
    exact sg

lemma AllBackground.concat (hb : AllBackground commands) (xs : List Record) :
    AllBackground (commands ++ [(xs, .background)]) :=
  forall_append hb rfl

section

variable (sn : Sound digest s) (hr : s.stage = .running)
include sn hr

lemma allBackground_of_running : AllBackground s.commands := by
  have sg := sn.stage
  simpa only [StageOk, hr] using sg

lemma sound_persistData : Sound digest (s.persistData .background) := by
  refine sn.with_commands rfl rfl rfl rfl rfl ?_
  rw [StageOk, show (s.persistData .background).stage = .running from hr]
  exact (allBackground_of_running sn hr).concat _

lemma sound_processBatch : Sound digest (s.processBatch .background) := by
  rw [processBatch]
  split
  · exact sn
  · exact sound_persistData (sound_moveBatch sn hr) hr

end

lemma isExpired_of_isCleanedUp (hc : s.isCleanedUp r = true) : s.isExpired r = true := by
  rw [isCleanedUp, Option.any_eq_true] at hc
  obtain ⟨p, hf, old⟩ := hc
  rw [Bool.and_eq_true] at old
  rw [isExpired, Option.any_eq_true]
  exact ⟨p, hf, old.2⟩

section

variable (sn : Sound digest s)
include sn

lemma sound_performCleanup (hr : s.stage = .running) : Sound digest s.performCleanup := by
  have hb := allBackground_of_running sn hr
  simp only [performCleanup]
  split
  · refine sound_persistData ⟨sn.queue, sn.logged, sn.distinct, ?_, ?_, ?_, ?_⟩ hr
    · intro r mem
      rw [eq_none_iff_forall_ne_some]
      intro x hf
      have hbf := get?_of_filter hf
      rw [sn.apart r mem] at hbf
      cases hbf
    · intro id r hf
      exact sn.keyed id r (get?_of_filter hf)
    · intro r mem hrt
      refine (sn.held r mem hrt).imp_right fun hf => ?_
      refine get?_filter_of_keep hf ?_
      cases hc : s.isCleanedUp r with
      | false => rfl
      | true =>
        have hxp : s.isExpired r = false := hrt
        rw [isExpired_of_isCleanedUp hc] at hxp
        cases hxp
    · rw [StageOk, hr]
      exact hb
  · exact sn

lemma sound_shutdown (hr : s.stage = .running) (hf : s.processingQueue.length ≤ batchSize) :
    Sound digest s.shutdown := by
  have hb := allBackground_of_running sn hr
  by_cases he : s.processingQueue.length = 0
  · have none : s.processingQueue = [] := length_eq_zero_iff.mp he
    have hs : s.shutdown = { s with stage := .drained } := by
      simp only [shutdown, processBatch, if_pos he]
    rw [hs]
    refine sn.with_commands rfl rfl rfl rfl rfl ⟨fun r mem hrt => ?_, hb⟩
    refine (sn.held r mem hrt).resolve_left ?_
    rw [none]
    exact not_mem_nil
  · have hs : s.shutdown = { s.moveBatch.persistData .draining with stage := .draining } := by
      simp only [shutdown, processBatch, if_neg he]
    have hmo := sound_moveBatch sn hr
    rw [hs]
    refine hmo.with_commands rfl rfl rfl rfl rfl ⟨fun r mem hrt => ?_, ?_⟩
    · refine (hmo.held r mem hrt).resolve_left ?_
      rw [show s.moveBatch.processingQueue = [] from drop_eq_nil_of_le hf]
      exact not_mem_nil
    · exact ⟨s.commands, _, rfl, hb⟩

lemma nodup_recentRecords : (s.recentRecords.map fun r => recordId (parse r)).Nodup := by
  have ids : (s.auditRecords.values.map stringify).map (fun r => recordId (parse r)) =
      s.auditRecords.keys := by
    rw [values, OrderedMap.keys, List.map_map, List.map_map]
    refine map_congr_left fun e mem => ?_
    exact recordId_parse_stringify (sn.keyed _ _ (get?_of_mem mem))
  have all : (s.recentRecords.map fun r => recordId (parse r)).Sublist s.auditRecords.keys := by
    rw [← ids]
    exact (filter_sublist.map _).map _
  exact s.auditRecords.nodup.sublist all

lemma sound_resume (drained : s.stage = .drained)
    (recent : ∀ r ∈ s.logged, s.isExpired r = false → s.isRecent r = true) :
    Sound digest { s.persistData .saving with stage := .saving } := by
  have stage := sn.stage
  simp only [StageOk, drained] at stage
  obtain ⟨hmo, background⟩ := stage
  refine sn.with_commands rfl rfl rfl rfl rfl
    ⟨s.commands, s.recentRecords, rfl, background, ?_, nodup_recentRecords sn⟩
  intro r mem hrt
  have held := mem_of_get? (hmo r mem hrt)
  refine mem_map_of_mem (mem_filter.mpr ⟨?_, recent r mem hrt⟩)
  exact mem_map_of_mem held

end

lemma AllBackground.of_cons (hb : AllBackground ((recs, sv) :: commands)) :
    sv = .background ∧ AllBackground commands :=
  ⟨hb _ mem_cons_self, fun x mem => hb x (mem_cons_of_mem _ mem)⟩

/-- The oldest of the saves is one of the background, or the last one, which `shutdown` awaits. -/
lemma head_cases {s : List (List Record × Saver)} {ss : List Record}
    {l : Saver} (split : (recs, sv) :: commands = s ++ [(ss, l)])
    (hb : AllBackground s) : (s = [] ∧ recs = ss ∧ sv = l ∧ commands = []) ∨
      ∃ rest, sv = .background ∧ commands = rest ++ [(ss, l)] ∧ AllBackground rest := by
  cases s with
  | nil =>
    rw [nil_append, cons.injEq, Prod.mk.injEq] at split
    exact .inl ⟨rfl, split.1.1, split.1.2, split.2⟩
  | cons first rest =>
    rw [cons_append, cons.injEq] at split
    rw [← split.1] at hb
    obtain ⟨saves_background, hs⟩ := hb.of_cons
    exact .inr ⟨rest, saves_background, split.2, hs⟩

lemma stageOk_execute (hk : StageOk s) (ho : s.commands = (records, sv) :: commands)
    {ap a : Bool} (hon : a = true → ap = true) : StageOk { s with
      commands := commands
      redis := if ap then some (records, s.now + ttl) else s.redis
      stage := s.answered sv a } := by
  unfold StageOk at hk
  rw [ho] at hk
  cases now : s.stage with
  | running | rejected =>
    simp only [now] at hk
    obtain ⟨rfl, hst⟩ := hk.of_cons
    simp only [StageOk, answered, now]
    exact hst
  | draining =>
    simp only [now] at hk
    obtain ⟨hm, b, ss, split, hb⟩ := hk
    rcases head_cases split hb with ⟨-, -, rfl, rfl⟩ | ⟨r, rfl, rfl, hst⟩
    · cases a with
      | false => exact fun _ mem => absurd mem not_mem_nil
      | true => exact ⟨hm, fun _ mem => absurd mem not_mem_nil⟩
    · simp only [StageOk, answered, now]
      exact ⟨hm, r, ss, rfl, hst⟩
  | drained =>
    simp only [now] at hk
    obtain ⟨rfl, hst⟩ := hk.2.of_cons
    simp only [StageOk, answered, now]
    exact ⟨hk.1, hst⟩
  | saving =>
    simp only [now] at hk
    obtain ⟨b, ss, split, hb, hs⟩ := hk
    rcases head_cases split hb with ⟨-, rfl, rfl, rfl⟩ | ⟨r, rfl, rfl, hst⟩
    · cases a with
      | false => exact fun _ mem => absurd mem not_mem_nil
      | true =>
        rw [hon rfl]
        exact ⟨records, rfl, rfl, hs.all, hs.distinct⟩
    · simp only [StageOk, answered, now]
      exact ⟨r, ss, rfl, hst, hs.all, hs.distinct⟩
  | resolved time =>
    simp only [now] at hk
    obtain ⟨-, none, -⟩ := hk
    cases none

lemma sound_step {l : Label} (sound : Sound digest s)
    (hcv : Covered s l) (ht : step digest s l = some t) : Sound digest t := by
  cases l with
  | advance ms =>
    cases ht
    exact sound_advance sound ms
  | logAuditEvent e id =>
    rw [step, ite_none_right_eq_some] at ht
    obtain ⟨hfr, ⟨⟩⟩ := ht
    exact sound_logAuditEvent sound e hfr
  | processBatch =>
    rw [step, ite_none_right_eq_some] at ht
    obtain ⟨running, ⟨⟩⟩ := ht
    exact sound_processBatch sound running
  | performCleanup =>
    rw [step, ite_none_right_eq_some] at ht
    obtain ⟨running, ⟨⟩⟩ := ht
    exact sound_performCleanup sound running
  | shutdown =>
    rw [step, ite_none_right_eq_some] at ht
    obtain ⟨running, ⟨⟩⟩ := ht
    exact sound_shutdown sound running hcv
  | resume =>
    rw [step, ite_none_right_eq_some] at ht
    obtain ⟨drained, ⟨⟩⟩ := ht
    exact sound_resume sound drained hcv
  | execute ap ack =>
    simp only [step] at ht
    cases oldest : s.commands with
    | nil =>
      rw [oldest] at ht
      cases ht
    | cons command commands =>
      rw [oldest] at ht
      simp only [ite_none_left_eq_some] at ht
      obtain ⟨honest, ⟨⟩⟩ := ht
      refine sound.with_commands rfl rfl rfl rfl rfl (stageOk_execute sound.stage oldest ?_)
      intro heard
      simpa [heard] using honest

variable (digest) in
/-- Whatever is logged and however the saves interleave: when the last batch takes the whole queue
and the last save covers what is to be retained, no record is lost. -/
theorem durable_of_covered {s t : Service} {labels : List Label} (initial : Initialized s)
    (run : Run (step digest) Covered s labels t) : Durable digest t :=
  durable_of_sound (run.invariant (Sound digest) (fun _ _ _ => sound_step)
    (sound_of_initialized initial))

/-- A service with one of the default policies and no records. -/
def started : Service where
  now := 0
  auditRecords := .empty
  processingQueue := []
  retentionPolicies :=
    OrderedMap.empty.set "sync_operations" { retentionDays := 2555, autoCleanup := true }
  commands := []
  redis := none
  stage := .running
  logged := []

lemma initialized_started : Initialized started where
  auditRecords id r hf := by cases hf
  processingQueue := rfl
  commands command mem := by cases mem
  stage := rfl
  logged := rfl

def synced : Fields := OrderedMap.empty.set "category" (.string "sync")

/-- One record is saved in the background, and one by `shutdown`. -/
def twoBatches : List Label :=
  [.logAuditEvent synced "first", .advance 5000, .processBatch, .execute true true,
    .logAuditEvent synced "second", .shutdown, .execute true true, .resume, .execute true true]

theorem durable_of_covered_twoBatches : ∃ t,
    Run (step fun _ => "") Covered started twoBatches t ∧ t.stage = .resolved t.now ∧
      t.logged.map recordId = ["first", "second"] ∧ Durable (fun _ => "") t :=
  exists_run₂ (by decide +kernel) fun _ run _ _ =>
    durable_of_covered (fun _ => "") initialized_started run

/-- One more record is logged than a batch takes. -/
def oneTooMany : List Label :=
  (List.range 101).map (fun number => .logAuditEvent synced (toString number)) ++
    [.shutdown, .execute true true, .resume, .execute true true]

/-- A record with this id is to be retained, and none is saved. -/
def isLost (s : Service) (id : String) : Bool :=
  s.logged.any (fun record => recordId (parse (stringify record)) = id && !s.isExpired record) &&
    s.persisted.all fun records => records.all fun record => recordId (parse record) ≠ id

lemma not_durable_of_isLost (hrs : s.stage = .resolved s.now)
    (hl : isLost s id = true) : ¬ Durable digest s := by
  intro hdr
  rw [isLost, Bool.and_eq_true, List.any_eq_true] at hl
  obtain ⟨⟨r, mem, hh⟩, hmi⟩ := hl
  simp only [Bool.and_eq_true, decide_eq_true_eq, Bool.not_eq_true'] at hh
  obtain ⟨recs, hps, hi, -⟩ := hdr hrs r mem hh.2
  rw [hps, all_some, List.all_eq_true] at hmi
  exact of_decide_eq_true (hmi _ hi) hh.1

/-- The last batch leaves one record in the queue, and `shutdown` resolves without it. -/
theorem oneTooMany_loses_one : Initialized started ∧ ∃ t,
    Run (step fun _ => "") Always started oneTooMany t ∧ ¬ Durable (fun _ => "") t :=
  ⟨initialized_started, exists_run_of_seen
    (fun t => t.stage = .resolved t.now ∧ isLost t "100" = true) (by decide +kernel)
    fun _ _ seen => not_durable_of_isLost seen.1 seen.2⟩

end AuditLogging
