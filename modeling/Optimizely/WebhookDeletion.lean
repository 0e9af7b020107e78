import Optimizely.TaskLists
import Optimizely.TransitionRuns
import Optimizely.WebhookManager

/-!
# Deleted webhooks

An attempt writes its endpoint to Redis after its request, also when the endpoint was deleted
meanwhile. If endpoints are deleted only when no attempt will yet write them, and no update changes
an id, an endpoint whose deletion has completed stays out of Redis.
-/

namespace WebhookDeletion

open TaskLists TransitionRuns WebhookManager List Option OrderedMap State Manager

/-- The delivery of an attempt that will yet write its endpoint. -/
def writing : Call → Option String
  | .attempting deliveryId .fetching _ _ => some deliveryId
  | .attempting deliveryId (.disabling _) _ _ => some deliveryId
  | _ => none

variable {e id webhookId : String} {rest : List String} {delivery : WebhookDelivery}
  {cs : List Call} {new : Call} {s t : State} {ap : Bool}

lemma writing_attempting {x : String} {s : Stage}
    (about : writing (.attempting id s e rest) = some x) : id = x := by
  cases s <;> simp_all [writing]

/-- The endpoint that a call will yet write after an await. -/
def writer (manager : Manager) (call : Call) : Option String :=
  (writing call).bind fun id => (manager.deliveries.get? id).map (·.webhookId)

def removed : Call → Option String
  | .deleting webhookId true => some webhookId
  | .deleted webhookId => some webhookId
  | _ => none

/-- An endpoint that was registered once and that nothing can write. -/
structure Quiet (s : State) (key : String) : Prop where
  known : (s.manager.objects.get? key).isSome
  unregistered : key ∉ s.manager.webhooks
  idle : ∀ call ∈ s.calls, writer s.manager call ≠ some key

structure Invariant (s : State) : Prop where
  filed : ∀ key webhook, s.manager.objects.get? key = some webhook → webhook.id = key
  distinct : s.manager.webhooks.Nodup
  registered : ∀ key ∈ s.manager.webhooks, (s.manager.objects.get? key).isSome
  started : ∀ call ∈ s.calls, ∀ id ∈ writing call, (s.manager.deliveries.get? id).isSome
  gone : ∀ call ∈ s.calls, ∀ key ∈ removed call,
    Quiet s key ∧ s.manager.redis.get? key = none

/-- Endpoints stay registered under their ids, and deliveries stay with their endpoints. -/
structure Keeps (before after : Manager) : Prop where
  webhooks : after.webhooks = before.webhooks
  ids : ∀ key, (after.objects.get? key).map (·.id) = (before.objects.get? key).map (·.id)
  deliveries : ∀ id delivery, before.deliveries.get? id = some delivery →
    (after.deliveries.get? id).map (·.webhookId) = some delivery.webhookId

namespace Keeps

variable {b md a : Manager}

lemma refl (m : Manager) : Keeps m m := ⟨rfl, fun _ => rfl, fun _ _ hf => by simp [hf]⟩

lemma trans (first : Keeps b md) (hs : Keeps md a) : Keeps b a where
  webhooks := hs.webhooks.trans first.webhooks
  ids k := (hs.ids k).trans (first.ids k)
  deliveries id delivery hf := by
    obtain ⟨now, hp, hsm⟩ := map_eq_some_iff.mp (first.deliveries id delivery hf)
    rw [hs.deliveries id now hp, hsm]

lemma known (hk : Keeps b a) (k : String) :
    (a.objects.get? k).isSome = (b.objects.get? k).isSome := by
  simpa using congrArg isSome (hk.ids k)

lemma filed (hk : Keeps b a) (hfl : ∀ k w, b.objects.get? k = some w → w.id = k)
    (k : String) (w : WebhookEndpoint) (hf : a.objects.get? k = some w) : w.id = k := by
  have hkp := hk.ids k
  rw [hf, map_some, eq_comm, map_eq_some_iff] at hkp
  obtain ⟨old, hp, hs⟩ := hkp
  exact hs.symm.trans (hfl k old hp)

lemma writer_eq (hk : Keeps b a) {c : Call} (s : ∀ id ∈ writing c, (b.deliveries.get? id).isSome) :
    writer a c = writer b c := by
  cases ha : writing c with
  | none => simp [writer, ha]
  | some id =>
    obtain ⟨delivery, hf⟩ := isSome_iff_exists.mp (s id ha)
    simp [writer, ha, hf, hk.deliveries id delivery hf]

end Keeps

variable {mn m af md : Manager} {i : Nat}

lemma keeps_setDelivery
    (hs : ∀ old, m.deliveries.get? id = some old → delivery.webhookId = old.webhookId) :
    Keeps m (m.setDelivery id delivery) where
  webhooks := rfl
  ids _ := rfl
  deliveries x old hf := by
    simp only [setDelivery, get?_set]
    by_cases hh : id = x
    · subst hh
      simp [hs old hf]
    · simp [hh, hf]

lemma keeps_attemptDelivery (hf : m.deliveries.get? id = some delivery) :
    Keeps m (m.attemptDelivery id).1 ∧ (m.attemptDelivery id).1.redis = m.redis ∧
      ((m.attemptDelivery id).2 = .returning ∨
        (m.attemptDelivery id).2 = .fetching ∧ delivery.webhookId ∈ m.webhooks) := by
  have hkp : ∀ new : WebhookDelivery, new.webhookId = delivery.webhookId →
      Keeps m (m.setDelivery id new) := by
    intro new hs
    refine keeps_setDelivery fun old hp => ?_
    obtain rfl := some.inj (hf.symm.trans hp)
    exact hs
  rcases attemptDelivery_spec hf with hs | ⟨w, hk, hs⟩
  · rw [hs]
    exact ⟨hkp _ rfl, rfl, .inl rfl⟩
  · rw [hs]
    obtain ⟨ws, ids, hdl⟩ := hkp
      { delivery with status := .pending, attempts := delivery.attempts + 1 } rfl
    exact ⟨⟨ws, ids, hdl⟩, rfl, .inr ⟨rfl, (getWebhook_eq_some.mp hk).1⟩⟩

lemma Invariant.advance (inv : Invariant s) (hk : Keeps s.manager af)
    (mem : ∀ c ∈ cs, c ∈ s.calls ∨ c = new)
    (st : ∀ id ∈ writing new, (af.deliveries.get? id).isSome) (ws : ∀ k, writer af new = some k →
      k ∈ s.manager.webhooks ∨ ∃ c ∈ s.calls, writer s.manager c = some k)
    (hrm : ∀ k ∈ removed new, ∃ c ∈ s.calls, k ∈ removed c)
    (rs : ∀ k, Quiet s k → af.redis.get? k = s.manager.redis.get? k) : Invariant ⟨af, cs⟩ := by
  have hg : ∀ k, Quiet s k ∧ s.manager.redis.get? k = none →
      Quiet ⟨af, cs⟩ k ∧ af.redis.get? k = none := by
    rintro k ⟨hq, ha⟩
    refine ⟨⟨?_, ?_, fun c hp => ?_⟩, (rs k hq).trans ha⟩
    · exact (hk.known k).trans hq.known
    · show k ∉ af.webhooks
      rw [hk.webhooks]
      exact hq.unregistered
    · rcases mem c hp with old | rfl
      · rw [hk.writer_eq (inv.started c old)]
        exact hq.idle c old
      · intro this
        rcases ws k this with hr | ⟨old, hp, hs⟩
        · exact hq.unregistered hr
        · exact hq.idle old hp hs
  constructor
  · exact hk.filed inv.filed
  · exact hk.webhooks ▸ inv.distinct
  · intro k hl
    rw [show (State.mk af cs).manager.webhooks = s.manager.webhooks from hk.webhooks] at hl
    exact (hk.known k).trans (inv.registered k hl)
  · intro c hp id a
    rcases mem c hp with old | rfl
    · obtain ⟨delivery, hf⟩ := isSome_iff_exists.mp (inv.started c old id a)
      have hkp := hk.deliveries id delivery hf
      obtain ⟨now, sd, -⟩ := map_eq_some_iff.mp hkp
      exact isSome_iff_exists.mpr ⟨now, sd⟩
    · exact st id a
  · intro c hp k a
    rcases mem c hp with old | rfl
    · exact hg k (inv.gone c old k a)
    · obtain ⟨old, hp, a⟩ := hrm k a
      exact hg k (inv.gone old hp k a)

lemma mem_append_single : ∀ c ∈ cs ++ [new], c ∈ cs ∨ c = new := by
  intro c hp
  simpa using hp

section

variable (inv : Invariant s)
include inv

lemma Invariant.attempted (keeps : Keeps s.manager md)
    (redis : md.redis = s.manager.redis) (hf : md.deliveries.get? id = some delivery)
    (mem : ∀ c ∈ cs, c ∈ s.calls ∨ c = .attempting id (md.attemptDelivery id).2 e rest) :
    Invariant ⟨(md.attemptDelivery id).1, cs⟩ := by
  obtain ⟨kept, same, stage⟩ := keeps_attemptDelivery hf
  have stored := kept.deliveries id delivery hf
  refine inv.advance (keeps.trans kept) mem ?_ ?_ ?_ fun k _ => by rw [same, redis]
  · rintro x about
    rcases stage with returning | ⟨fetching, -⟩
    · simp [writing, returning] at about
    · obtain rfl : id = x := by simpa [writing, fetching] using about
      obtain ⟨now, hp, -⟩ := map_eq_some_iff.mp stored
      exact isSome_iff_exists.mpr ⟨now, hp⟩
  · intro k this
    rcases stage with returning | ⟨fetching, registered⟩
    · simp [writer, writing, returning] at this
    · simp only [writer, writing, fetching, bind_some, stored, some.injEq] at this
      rw [← this, ← keeps.webhooks]
      exact .inl registered
  · rintro k ⟨⟩

lemma Invariant.idle (hk : Keeps s.manager af)
    (rs : ∀ k, Quiet s k → af.redis.get? k = s.manager.redis.get? k)
    (mem : ∀ c ∈ cs, c ∈ s.calls ∨ c = new) (hw : writing new = none)
    (hkp : removed new = none) : Invariant ⟨af, cs⟩ := by
  refine inv.advance hk mem ?_ ?_ ?_ rs
  · intro id a
    cases hw.symm.trans a
  · intro k this
    simp [writer, hw] at this
  · intro k a
    cases hkp.symm.trans a

lemma Invariant.sendNext (hf : s.manager.deliveries.get? id = none) (e : String)
    (ws : List String) (now : Nat)
    (mem : ∀ c ∈ cs, c ∈ s.calls ∨ c = (s.manager.sendNext e ws id now).2) :
    Invariant ⟨(s.manager.sendNext e ws id now).1, cs⟩ := by
  cases ws with
  | nil => exact inv.idle (.refl _) (fun _ _ => rfl) mem rfl rfl
  | cons webhookId rest =>
    rw [Manager.sendNext] at mem ⊢
    cases hs : s.manager.objects.get? webhookId with
    | none =>
      rw [hs] at mem
      exact inv.idle (.refl _) (fun _ _ => rfl) mem rfl rfl
    | some w =>
      rw [hs] at mem
      obtain ⟨ws, ids, hdl⟩ : Keeps s.manager (s.manager.setDelivery id
          ⟨w.id, e, .pending, 0, now⟩) :=
        keeps_setDelivery fun old hp => by simp [hf] at hp
      have hst : (s.manager.enqueue id ⟨w.id, e, .pending, 0, now⟩).deliveries.get? id =
          some ⟨w.id, e, .pending, 0, now⟩ :=
        (get?_set ..).trans (if_pos rfl)
      exact inv.attempted ⟨ws, ids, hdl⟩ rfl hst mem

lemma Invariant.attempt (hk : Keeps s.manager md) (rs : md.redis = s.manager.redis)
    (id : String) : Invariant (State.attempt ⟨md, s.calls⟩ id) := by
  cases hf : md.deliveries.get? id with
  | none =>
    simp only [State.attempt, attemptDelivery, hf]
    exact inv.idle hk (fun _ _ => by rw [rs]) mem_append_single rfl rfl
  | some delivery => exact inv.attempted hk rs hf mem_append_single

lemma Invariant.attempts (ids : List String) : Invariant (ids.foldl State.attempt s) :=
  foldlRecOn _ _ inv fun _ inv id _ => inv.attempt (.refl _) rfl id

end

lemma mem_set_single : ∀ c ∈ cs.set i new, c ∈ cs ∨ c = new := fun _ => mem_or_eq_of_mem_set

lemma Invariant.completeRequest (inv : Invariant s)
    (hp : .attempting id .fetching e rest ∈ s.calls) (i : Nat) (ok applied : Bool) :
    Invariant ⟨(s.manager.completeRequest id ok applied).1, s.calls.set i
      (.attempting id (s.manager.completeRequest id ok applied).2 e rest)⟩ := by
  obtain ⟨delivery, hf⟩ := isSome_iff_exists.mp (inv.started _ hp id rfl)
  have writes : writer s.manager (.attempting id .fetching e rest) = some delivery.webhookId := by
    simp [writer, writing, hf]
  cases known : s.manager.objects.get? delivery.webhookId with
  | none =>
    simp only [Manager.completeRequest, hf, known]
    exact inv.idle (.refl _) (fun _ _ => rfl) mem_set_single rfl rfl
  | some w =>
    have field := inv.filed delivery.webhookId w known
    obtain ⟨objects, redis, status, timers, stage, same, -, endpoints, others, -⟩ :=
      completeRequest_spec hf known ok applied
    have keeps : Keeps s.manager { s.manager with
        objects := objects
        redis := redis
        timers := timers
        deliveries := s.manager.deliveries.set id { delivery with status := status } } := by
      refine ⟨rfl, fun k => ?_, fun x old stored => ?_⟩
      · simpa [Function.comp_def] using congrArg (Option.map Prod.fst) (endpoints k)
      · obtain ⟨-, -, kept⟩ : Keeps s.manager (s.manager.setDelivery id
            { delivery with status := status }) := by
          refine keeps_setDelivery fun old stored => ?_
          obtain rfl := some.inj (hf.symm.trans stored)
          rfl
        exact kept x old stored
    have stored := keeps.deliveries id delivery hf
    rw [same]
    refine inv.advance keeps mem_set_single ?_ ?_ ?_ ?_
    · intro x about
      obtain rfl := writing_attempting about
      obtain ⟨now, hp, -⟩ := map_eq_some_iff.mp stored
      exact isSome_iff_exists.mpr ⟨now, hp⟩
    · intro k this
      obtain ⟨x, about, here⟩ := bind_eq_some_iff.mp this
      obtain rfl := writing_attempting about
      exact .inr ⟨_, hp, writes.trans (stored.symm.trans here)⟩
    · rintro k ⟨⟩
    · intro k quiet
      refine others k fun here => quiet.idle _ hp ?_
      rw [writes, ← here, field]

lemma Invariant.updateData (inv : Invariant s) {iss : Bool}
    (hp : .attempting id (.disabling iss) e rest ∈ s.calls)
    (hf : s.manager.deliveries.get? id = some delivery) (i : Nat) (a : Bool) :
    Invariant ⟨(s.manager.updateData delivery.webhookId a).1, s.calls.set i
      (.attempting id (s.manager.updateData delivery.webhookId a).2 e rest)⟩ := by
  cases hkn : s.manager.objects.get? delivery.webhookId with
  | none =>
    simp only [Manager.updateData, hkn]
    exact inv.idle (.refl _) (fun _ _ => rfl) mem_set_single rfl rfl
  | some w =>
    have field := inv.filed delivery.webhookId w hkn
    obtain ⟨redis, hs, ho⟩ := s.manager.updateData_spec hkn a
    have hk : Keeps s.manager { s.manager with redis := redis } :=
      ⟨rfl, fun _ => rfl, fun x old st => by simp [st]⟩
    rw [hs]
    refine inv.idle hk (fun k hq => ?_) mem_set_single rfl rfl
    refine ho k fun hh => hq.idle _ hp ?_
    simp [writer, writing, hf, ← hh, field]

lemma Invariant.resume (inv : Invariant s) {ok : Bool} {d : String} {now : Nat}
    (hrs : s.step (.resume i ok ap d now) = some t) : Invariant t := by
  obtain ⟨hfr, c, r, hf, hr, rfl⟩ := resume_cases hrs
  have hp := mem_of_getElem? hf
  cases hr with
  | request => exact inv.completeRequest hp i ok ap
  | disabled st => exact inv.updateData hp st i ap
  | next => exact inv.sendNext hfr _ _ now mem_set_single
  | @deleted webhookId =>
    refine inv.advance (.refl _) mem_set_single (by simp [writing]) (by simp [writer, writing]) ?_
      fun _ _ => rfl
    rintro k ⟨⟩
    exact ⟨_, hp, rfl⟩
  | finish => exact inv.idle (.refl _) (fun _ _ => rfl) mem_set_single rfl rfl

/-- An endpoint is deleted when no attempt will yet write it, and updates keep its id. -/
def Careful (s : State) : Label → Prop
  | .deleteWebhook webhookId _ => ∀ call ∈ s.calls, writer s.manager call ≠ some webhookId
  | .updateWebhook webhookId updates _ => ∀ id ∈ updates.id, id = webhookId
  | _ => True

instance (s : State) (label : Label) : Decidable (Careful s label) := by
  induction label using Label.casesOn <;> dsimp only [Careful] <;> infer_instance

lemma Invariant.register (inv : Invariant s) {ci url : String} {es : List String}
    (hr : s.step (.registerWebhook webhookId ci url es ap) = some t) : Invariant t := by
  obtain ⟨hfr, redis, ho, rfl⟩ := register_cases hr
  have hu : ∀ k, (s.manager.objects.get? k).isSome → webhookId ≠ k := by
    rintro k hk rfl
    simp [hfr] at hk
  constructor
  · intro k w hf
    simp only [get?_set] at hf
    split at hf
    · rename_i hs
      cases hf
      exact hs
    · exact inv.filed k w hf
  · refine nodup_append.mpr ⟨inv.distinct, by simp, ?_⟩
    intro k hl x new hs
    rw [mem_singleton] at new
    exact hu k (inv.registered k hl) (new.symm.trans hs.symm)
  · intro k hl
    simp only [get?_set]
    split
    · rfl
    · rename_i hne
      refine inv.registered k ?_
      simpa [Ne.symm hne] using hl
  · exact forall_append inv.started (by rintro id ⟨⟩)
  · intro c hp k a
    rcases mem_append_single c hp with old | rfl
    · obtain ⟨hq, ha⟩ := inv.gone c old k a
      have hne := hu k hq.known
      refine ⟨⟨?_, ?_, ?_⟩, (ho k hne).trans ha⟩
      · simp only [get?_set, hne, if_false]
        exact hq.known
      · simp [hq.unregistered, Ne.symm hne]
      · exact forall_append hq.idle (by simp [writer, writing])
    · cases a

lemma Invariant.update (inv : Invariant s) {us : WebhookUpdates}
    (hc : Careful s (.updateWebhook webhookId us ap))
    (u : s.step (.updateWebhook webhookId us ap) = some t) : Invariant t := by
  simp only [step] at u
  split at u
  · cases u
    exact inv
  · rename_i w hkn
    obtain ⟨hr, hf⟩ := getWebhook_eq_some.mp hkn
    have id : (w.assign us).id = w.id := by
      simp only [WebhookEndpoint.assign]
      cases hg : us.id with
      | none => rfl
      | some id =>
        have field := inv.filed webhookId w hf
        exact (hc id hg).trans field.symm
    have hk : Keeps s.manager ((s.manager.setObject webhookId (w.assign us)).hset
        webhookId (w.assign us) ap) := by
      refine ⟨?_, ?_, ?_⟩
      · cases ap <;> rfl
      · have hkp := map_get?_set (·.id) hf id
        cases ap <;> exact hkp
      · intro x delivery st
        have hkp : s.manager.deliveries.get? x = some delivery := st
        cases ap <;> simp [hset, setObject, hkp]
    cases u
    refine inv.idle hk (fun k hq => ?_) mem_append_single rfl rfl
    have hne : webhookId ≠ k := by
      rintro rfl
      exact hq.unregistered hr
    exact get?_hset_of_ne _ hne _ ap

lemma Invariant.delete (inv : Invariant s) (hc : Careful s (.deleteWebhook webhookId ap))
    (hdl : s.step (.deleteWebhook webhookId ap) = some t) : Invariant t := by
  simp only [step] at hdl
  split at hdl
  · cases hdl
    exact inv
  · rename_i w hk
    obtain ⟨registered, hf⟩ := getWebhook_eq_some.mp hk
    obtain ⟨redis, erased, rfl⟩ : ∃ redis : OrderedMap String WebhookEndpoint,
        (∀ k, s.manager.redis.get? k = none ∨ (webhookId = k ∧ ap = true) → redis.get? k = none) ∧
        t = ⟨{ s.manager with
          webhooks := s.manager.webhooks.erase webhookId
          redis := redis }, s.calls ++ [.deleting webhookId ap]⟩ := by
      cases ap with
      | false => exact ⟨_, fun k ha => by simpa using ha, (some.inj hdl).symm⟩
      | true =>
        refine ⟨_, fun k ha => ?_, (some.inj hdl).symm⟩
        rw [get?_erase]
        split
        · rfl
        · rename_i hne
          exact ha.resolve_right fun this => hne this.1
    have hl : ∀ k, k ∈ s.manager.webhooks.erase webhookId → k ∈ s.manager.webhooks :=
      fun k => mem_of_mem_erase
    constructor
    · exact inv.filed
    · exact inv.distinct.erase webhookId
    · exact fun k mem => inv.registered k (hl k mem)
    · exact forall_append inv.started (by rintro id ⟨⟩)
    · intro c hp k a
      rcases mem_append_single c hp with old | rfl
      · obtain ⟨hq, ha⟩ := inv.gone c old k a
        refine ⟨⟨hq.known, mt (hl k) hq.unregistered, ?_⟩, erased k (.inl ha)⟩
        exact forall_append hq.idle (by simp [writer, writing])
      · cases ap with
        | false => cases a
        | true =>
          cases a
          refine ⟨⟨isSome_iff_exists.mpr ⟨w, hf⟩, ?_, ?_⟩, erased webhookId (.inr ⟨rfl, rfl⟩)⟩
          · exact inv.distinct.not_mem_erase
          · exact forall_append hc (by simp [writer, writing])

lemma Invariant.step {l : Label} (inv : Invariant s)
    (hc : Careful s l) (hs : s.step l = some t) : Invariant t := by
  cases l with
  | registerWebhook webhookId c url events ap => exact inv.register hs
  | updateWebhook webhookId updates ap => exact inv.update hc hs
  | deleteWebhook webhookId ap => exact inv.delete hc hs
  | sendWebhook c e d now =>
    obtain ⟨hfr, ws, rfl⟩ := send_cases hs
    exact inv.sendNext hfr e ws now mem_append_single
  | timer i =>
    obtain ⟨id, -, rfl⟩ := map_eq_some_iff.mp hs
    have hdr : Keeps s.manager (s.manager.dropTimer i) :=
      ⟨rfl, fun _ => rfl, fun _ _ hf => by simp [dropTimer, hf]⟩
    exact inv.attempt hdr rfl id
  | retryProcessor =>
    cases hs
    have hcl : ∀ m : Manager, Keeps m m.cleanUp ∧ m.cleanUp.redis = m.redis := by
      intro m
      rw [cleanUp]
      split
      · exact ⟨⟨rfl, fun _ => rfl, fun _ _ hf => by simp [hf]⟩, rfl⟩
      · exact ⟨.refl m, rfl⟩
    have none : writing .ended = none := rfl
    exact (inv.attempts s.manager.pendingRetries).idle (hcl _).1
      (fun _ _ => by rw [(hcl _).2]) (fun _ => .inl) none rfl
  | resume i ok ap d now => exact inv.resume hs

/-- Endpoints are in Redis under their ids. -/
def Filed (redis : OrderedMap String WebhookEndpoint) : Prop :=
  ∀ key webhook, redis.get? key = some webhook → webhook.id = key

lemma invariant_launched {rs : OrderedMap String WebhookEndpoint} (filed : Filed rs) :
    Invariant (launched rs) where
  filed := filed
  distinct := rs.nodup
  registered k listed := by
    obtain ⟨e, mem, rfl⟩ := mem_map.mp listed
    exact isSome_iff_exists.mpr ⟨e.2, get?_of_mem mem⟩
  started := by simp [launched]
  gone := by simp [launched]

/-- A manager that is constructed afterwards does not know the endpoint. -/
theorem deletion_durable {redis : OrderedMap String WebhookEndpoint} (filed : Filed redis)
    {labels : List Label} {s : State} (run : Run State.step Careful (launched redis) labels s)
    {webhookId : String} (deleted : .deleted webhookId ∈ s.calls) :
    s.manager.redis.get? webhookId = none ∧
      (loadWebhooks s.manager.redis).getWebhook webhookId = none := by
  have inv := run.invariant Invariant (fun _ _ _ inv hc hs => inv.step hc hs)
    (invariant_launched filed)
  have ha := (inv.gone _ deleted webhookId rfl).2
  refine ⟨ha, ?_⟩
  simp [getWebhook, loadWebhooks, ha]

lemma filed_oneEndpoint : Filed oneEndpoint := by
  intro k w hf
  have hs := mem_of_get? hf
  simp [oneEndpoint, OrderedMap.set, empty, OrderedMap.replace] at hs
  simp [hs.1, hs.2]

/-- A delivery is made before the endpoint is deleted. -/
def deliverThenDelete : List Label :=
  [.sendWebhook "client" "order" "d1" 1, .resume 0 true true "d2" 1, .deleteWebhook "wh1" true,
    .resume 0 true true "d2" 1, .resume 1 true true "d2" 1]

theorem deliverThenDelete_durable : ∃ s,
    Run State.step Careful (launched oneEndpoint) deliverThenDelete s ∧
      s.calls = [.ended, .deleted "wh1"] ∧ s.manager.redis.get? "wh1" = none ∧
      (loadWebhooks s.manager.redis).getWebhook "wh1" = none :=
  exists_run (by decide +kernel) fun _ run seen =>
    deletion_durable filed_oneEndpoint run (by simp [seen])

/-- The endpoint is deleted while a request is under way. -/
def deleteMeanwhile : List Label :=
  [.sendWebhook "client" "order" "d1" 1, .deleteWebhook "wh1" true, .resume 1 true true "d2" 1,
    .resume 0 true true "d2" 1, .resume 0 true true "d2" 1]

theorem deleteMeanwhile_comes_back : ∃ s,
    Run State.step Always (launched oneEndpoint) deleteMeanwhile s ∧
      s.calls = [.ended, .deleted "wh1"] ∧ (loadWebhooks s.manager.redis).getWebhook "wh1" =
        some ⟨"wh1", "client", "/hook", ["order"], true, 0, 3⟩ :=
  exists_run_seen (by decide +kernel)

end WebhookDeletion
