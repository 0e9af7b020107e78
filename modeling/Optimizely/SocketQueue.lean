import Optimizely.TransitionRuns
import Optimizely.WebSocketManager

/-!
# The queue of messages

No message is lost without an event, none is sent twice, and the queue keeps its size. To make room
the oldest message is dropped, whatever its priority.
-/

namespace WebSocketManager

open TransitionRuns List Option

def Priority.rank : Priority → Nat
  | .low => 0
  | .normal => 1
  | .high => 2
  | .critical => 3

/-- The first message has a strictly lower priority than the second. -/
def lower : Option Priority → Option Priority → Bool
  | some first, some second => first.rank < second.rank
  | _, _ => false

/-- The event tells that the message was dropped. -/
def MessageEvent.Drops (id : Nat) : MessageEvent → Prop
  | .queueFull _ (some dropped) => dropped.id = id
  | .failed message => message.id = id
  | _ => False

namespace Outbox

def ids (o : Outbox) : List Nat := o.messageQueue.map fun message => message.id

/-- Every message that was passed to `send` is one of those sent, queued and dropped, and there is
an event for a dropped one. -/
structure Accounted (o : Outbox) : Prop where
  once : (o.sent ++ o.ids ++ o.dropped).Perm o.passed
  distinct : o.passed.Nodup
  told : ∀ id ∈ o.dropped, ∃ event ∈ o.emitted, event.Drops id

/-- No message was dropped for lack of room while one of lower priority stayed. -/
def Fair (o : Outbox) : Prop :=
  ∀ eviction ∈ o.evictions, ∀ other ∈ eviction.kept,
    lower other.priority eviction.dropped.priority = false

/-- The oldest message has no higher priority than those that would stay. -/
def Roomy (o : Outbox) (size : Nat) (priority : Option Priority) : Prop :=
  size ≤ o.messageQueue.length → ∀ oldest ∈ o.messageQueue.head?,
    (∀ other ∈ o.messageQueue.tail, lower other.priority oldest.priority = false) ∧
      lower priority oldest.priority = false

variable {o : Outbox} {mg : Message}

lemma Accounted.nodup (ha : o.Accounted) :
    (o.sent ++ o.ids ++ o.dropped).Nodup := ha.once.nodup_iff.mpr ha.distinct

/-- A message that is passed to `send`, before anything is done with it. -/
def pass (o : Outbox) (id : Nat) : Outbox := { o with passed := o.passed ++ [id] }

lemma nodup_pass (hac : o.Accounted) {id : Nat} (new : id ∉ o.passed) : (o.passed ++ [id]).Nodup :=
  nodup_append.mpr ⟨hac.distinct, nodup_singleton id, fun a ha b hb => by
    rw [mem_singleton.mp hb]
    exact fun hs => new (hs ▸ ha)⟩

/-- Later events take none back. -/
lemma Accounted.still_told (ha : o.Accounted) (es : List MessageEvent) (id : Nat)
    (hdr : id ∈ o.dropped) : ∃ e ∈ o.emitted ++ es, e.Drops id := by
  obtain ⟨e, mem, hds⟩ := ha.told id hdr
  exact ⟨e, mem_append_left _ mem, hds⟩

lemma accounted_record (ha : o.Accounted)
    (new : mg.id ∉ o.passed) : ((o.pass mg.id).record mg).Accounted := by
  refine ⟨perm_iff_count.mpr fun id => ?_, nodup_pass ha new, ha.still_told _⟩
  have s := ha.once.count_eq id
  simp only [pass, record, ids, count_append] at s ⊢
  omega

lemma accounted_makeRoom (ha : o.Accounted) : o.makeRoom.Accounted := by
  refine ⟨?_, ha.distinct, fun id hdr => ?_⟩
  · refine List.Perm.trans ?_ ha.once
    rw [makeRoom, ids, ids]
    cases o.messageQueue with
    | nil => simp
    | cons q rest =>
      refine perm_iff_count.mpr fun id => ?_
      simp [count_append, count_cons]
      omega
  · rcases mem_append.mp hdr with hea | q
    · exact ha.still_told _ id hea
    · obtain ⟨mg, first, hs⟩ := map_eq_some_iff.mp (mem_toList.mp q)
      refine ⟨_, mem_append_right _ mem_cons_self, ?_⟩
      rw [first]
      exact hs

lemma accounted_push (ha : o.Accounted) (new : mg.id ∉ o.passed) (now : Nat) :
    ((o.pass mg.id).push now mg).Accounted := by
  refine ⟨perm_iff_count.mpr fun id => ?_, nodup_pass ha new, ha.still_told _⟩
  have s := ha.once.count_eq id
  simp only [pass, push, queued, ids, map_append, map_cons, map_nil, count_append] at s ⊢
  omega

lemma accounted_queueMessage (ha : o.Accounted) (new : mg.id ∉ o.passed) (s now : Nat) :
    ((o.pass mg.id).queueMessage s now mg).Accounted := by
  rw [queueMessage]
  split
  · have hp : ((o.makeRoom.pass mg.id).push now mg).Accounted :=
      accounted_push (accounted_makeRoom ha) new now
    exact { hp with }
  · exact accounted_push ha new now

lemma length_queueMessage {size : Nat} (hpos : 0 < size)
    (bound : o.messageQueue.length ≤ size) (now : Nat) (m : Message) :
    (o.queueMessage size now m).messageQueue.length ≤ size := by
  rw [queueMessage]
  split
  · simp only [push, makeRoom, length_append, length_tail, length_singleton]
    omega
  · simp only [push, length_append, length_singleton]
    omega

/-- A message that needs room is fair just if the oldest one may go. -/
lemma fair_queueMessage_iff (o : Outbox) (s now : Nat) (m : Message) :
    (o.queueMessage s now m).Fair ↔ o.Fair ∧ o.Roomy s m.priority := by
  rw [queueMessage]
  split
  · rename_i hf
    cases hq : o.messageQueue with
    | nil => simp [Fair, Roomy, push, makeRoom, hq]
    | cons q r =>
      have hg : o.Roomy s m.priority ↔ ∀ x ∈ r ++ [queued now m],
            lower x.priority q.priority = false := by
        rw [Roomy, hq, forall_prop_of_true (hq ▸ hf)]
        simp [or_imp, forall_and, queued]
      rw [hg]
      simp [Fair, push, makeRoom, hq, or_imp, forall_and]
  · rename_i hr
    exact (and_iff_left fun hf => absurd hf hr).symm

lemma ids_update (o : Outbox) (m : QueuedMessage) : (o.update m).ids = o.ids := by
  rw [ids, ids, update, List.map_map]
  refine map_congr_left fun x _ => ?_
  simp only [Function.comp_apply]
  split
  · rename_i hs
    exact hs.symm
  · rfl

lemma ids_remove (hn : o.ids.Nodup) (id : Nat) : (o.remove id).ids = o.ids.erase id := by
  rw [hn.erase_eq_filter, ids, ids, remove, List.filter_map]
  rfl

lemma count_erase_add {l : List Nat} {id : Nat} (mem : id ∈ l) (a : Nat) :
    (l.erase id).count a + [id].count a = l.count a := by
  have split := (perm_cons_erase mem).count_eq a
  simp only [count_cons, count_nil] at split ⊢
  omega

lemma Accounted.nodup_ids (ha : o.Accounted) : o.ids.Nodup :=
  (nodup_append.mp (nodup_append.mp ha.nodup).1).2.1

lemma accounted_update (ha : o.Accounted) (m : QueuedMessage) : (o.update m).Accounted := by
  refine ⟨?_, ha.distinct, ha.told⟩
  rw [ids_update]
  exact ha.once

lemma accounted_sent (ha : o.Accounted)
    (hq : mg.id ∈ o.ids) : ((o.remove mg.id).record mg).Accounted := by
  refine ⟨perm_iff_count.mpr fun id => ?_, ha.distinct, ha.still_told _⟩
  have left : ((o.remove mg.id).record mg).ids = o.ids.erase mg.id := ids_remove ha.nodup_ids mg.id
  have s := ha.once.count_eq id
  have taken := count_erase_add hq id
  rw [left]
  simp only [record, remove, count_append] at s ⊢
  omega

def giveUp (o : Outbox) (message : Message) : Outbox :=
  { o.remove message.id with
    emitted := o.emitted ++ [.failed message]
    dropped := o.dropped ++ [message.id] }

lemma accounted_giveUp (ha : o.Accounted) (hq : mg.id ∈ o.ids) : (o.giveUp mg).Accounted := by
  refine ⟨perm_iff_count.mpr fun id => ?_, ha.distinct, fun id hdr => ?_⟩
  · have left : (o.giveUp mg).ids = o.ids.erase mg.id := ids_remove ha.nodup_ids mg.id
    have s := ha.once.count_eq id
    have ht := count_erase_add hq id
    rw [left]
    simp only [giveUp, remove, count_append] at s ⊢
    omega
  · rcases mem_append.mp hdr with hea | hh
    · exact ha.still_told _ id hea
    · exact ⟨_, mem_append_right _ mem_cons_self, (mem_singleton.mp hh).symm⟩

lemma attempt_cases (now : Nat) (fa : List Nat) (o : Outbox) (m : QueuedMessage) :
    attempt now fa o m = o.update (retried now m) ∨ attempt now fa o m =
        (o.update (retried now m)).giveUp (retried now m).toMessage ∨
      attempt now fa o m = (o.remove m.id).record m.toMessage := by
  rw [attempt]
  split
  · dsimp only
    split
    · exact .inr (.inl rfl)
    · exact .inl rfl
  · exact .inr (.inr rfl)

structure Attempted (o new : Outbox) (id : Nat) : Prop where
  accounted : new.Accounted
  others : ∀ other ∈ o.ids, other ≠ id → other ∈ new.ids
  length : new.messageQueue.length ≤ o.messageQueue.length
  passed : new.passed = o.passed
  evictions : new.evictions = o.evictions

lemma attempted (ha : o.Accounted) {m : QueuedMessage}
    (hq : m.id ∈ o.ids) (now : Nat) (fa : List Nat) : Attempted o (attempt now fa o m) m.id := by
  have hst : ∀ {p : Outbox}, p.ids = o.ids → ∀ x ∈ o.ids, x ≠ m.id →
      p.ids.Nodup → x ∈ (p.remove m.id).ids := by
    intro p hsm x mem hne hn
    rw [ids_remove hn, hsm]
    exact (mem_erase_of_ne hne).mpr mem
  have hs : ∀ p : Outbox, (p.remove m.id).messageQueue.length ≤ p.messageQueue.length :=
    fun p => length_filter_le _ _
  have hu := accounted_update ha (retried now m)
  have hsm := ids_update o (retried now m)
  have hl : (o.update (retried now m)).messageQueue.length = o.messageQueue.length := length_map _
  rcases attempt_cases now fa o m with hk | hfl | hsn
  · rw [hk]
    exact ⟨hu, fun x mem _ => hsm ▸ mem, hl.le, rfl, rfl⟩
  · rw [hfl]
    have mem : (retried now m).toMessage.id ∈ (o.update (retried now m)).ids := by
      rw [hsm]
      exact hq
    exact ⟨accounted_giveUp hu mem, fun x mem hne => hst hsm x mem hne hu.nodup_ids,
      (hs _).trans hl.le, rfl, rfl⟩
  · rw [hsn]
    exact ⟨accounted_sent ha hq, fun x mem hne => hst rfl x mem hne ha.nodup_ids, hs o, rfl, rfl⟩

structure Processed (o new : Outbox) : Prop where
  accounted : new.Accounted
  length : new.messageQueue.length ≤ o.messageQueue.length
  passed : new.passed = o.passed
  evictions : new.evictions = o.evictions

/-- Each round finds its message, as no other round has removed it. -/
lemma processed_foldl (ha : o.Accounted) (now : Nat) (fa : List Nat)
    {ms : List QueuedMessage} (hn : (ms.map fun m => m.id).Nodup)
    (hq : ∀ m ∈ ms, m.id ∈ o.ids) : Processed o (ms.foldl (attempt now fa) o) := by
  induction ms generalizing o with
  | nil => exact ⟨ha, le_rfl, rfl, rfl⟩
  | cons m rest ih =>
    rw [map_cons, nodup_cons] at hn
    have first := attempted ha (hq m mem_cons_self) now fa
    have hl := ih first.accounted hn.2 fun x mem => by
      refine first.others x.id (hq x (mem_cons_of_mem _ mem)) fun hs => ?_
      exact hn.1 (hs ▸ mem_map_of_mem mem)
    exact ⟨hl.accounted, hl.length.trans first.length, hl.passed.trans first.passed,
      hl.evictions.trans first.evictions⟩

lemma processed_process (ha : o.Accounted) (now : Nat) (fa : List Nat) :
    Processed o (o.process now fa) := by
  refine processed_foldl ha now fa ?_ fun mg mem => ?_
  · exact ha.nodup_ids.sublist (filter_sublist.map _)
  · exact mem_map_of_mem (mem_filter.mp mem).1

end Outbox

namespace State

structure Mail where
  outbox : Outbox
  nextId : Nat
  config : WebSocketConfig

def mail (s : State) : Mail := ⟨s.outbox, s.nextId, s.config⟩

/-- There is neither an acknowledgment nor a cleared queue. -/
def Plain (label : Label) : Prop :=
  match label.action with
  | .clearQueue | .destroy | .message _ (.ack _) => False
  | _ => True

/-- The condition on a step: a message that needs room finds a queue in which the oldest one may
go. -/
def Roomy (s : State) (label : Label) : Prop :=
  match label.action with
  | .send draft fails => s.isConnected = false ∨ fails = true →
      s.outbox.Roomy s.config.messageQueueSize draft.priority
  | .sendHeartbeat fails | .heartbeat fails => s.isConnected = true → fails = true →
      s.outbox.Roomy s.config.messageQueueSize (some .critical)
  | _ => True

structure Mail.Kept (m : Mail) : Prop where
  accounted : m.outbox.Accounted
  fresh : ∀ id ∈ m.outbox.passed, id < m.nextId
  bound : m.outbox.messageQueue.length ≤ m.config.messageQueueSize
  positive : 0 < m.config.messageQueueSize

def Delivers (s : State) (label : Label) (t : State) : Prop :=
  t.mail.Kept ∧ (t.outbox.Fair ↔ s.outbox.Fair ∧ s.Roomy label)

variable {l : Label} {s t : State} {m : Mail}

lemma delivers_of_mail (hk : s.mail.Kept)
    (hs : t.mail = s.mail) (hr : s.Roomy l) : s.Delivers l t := by
  refine ⟨hs ▸ hk, ?_⟩
  rw [show t.outbox = s.outbox from congrArg Mail.outbox hs]
  exact (and_iff_left hr).symm

lemma Mail.Kept.new (hk : m.Kept) : m.nextId ∉ m.outbox.passed := fun mem =>
  Nat.lt_irrefl _ (hk.fresh _ mem)

lemma Mail.Kept.fresh_pass (hk : m.Kept) :
    ∀ id ∈ m.outbox.passed ++ [m.nextId], id < m.nextId + 1 := by
  refine forall_mem_append.mpr ⟨fun id mem => ?_, ?_⟩
  · exact Nat.lt_succ_of_lt (hk.fresh id mem)
  · exact forall_mem_singleton.mpr (Nat.lt_succ_self _)

lemma Mail.kept_queueMessage (hk : m.Kept) {msg : Message} (next : msg.id = m.nextId) (now : Nat) :
    Mail.Kept ⟨(m.outbox.pass msg.id).queueMessage m.config.messageQueueSize now msg,
      m.nextId + 1, m.config⟩ := by
  refine ⟨?_, fun id mem => hk.fresh_pass id ?_, ?_, hk.positive⟩
  · refine Outbox.accounted_queueMessage hk.accounted ?_ _ now
    rw [next]
    exact hk.new
  · rw [Outbox.queueMessage] at mem
    rw [← next]
    split at mem <;> exact mem
  · refine Outbox.length_queueMessage hk.positive ?_ now msg
    exact hk.bound

lemma Mail.kept_record (hk : m.Kept) {msg : Message} (next : msg.id = m.nextId) :
    Mail.Kept ⟨(m.outbox.pass msg.id).record msg, m.nextId + 1, m.config⟩ := by
  refine ⟨?_, fun id mem => hk.fresh_pass id (next ▸ mem), hk.bound, hk.positive⟩
  refine Outbox.accounted_record hk.accounted ?_
  rw [next]
  exact hk.new

lemma Mail.Kept.emit (hk : m.Kept) (e : MessageEvent) :
    Mail.Kept { m with outbox := { m.outbox with emitted := m.outbox.emitted ++ [e] } } :=
  ⟨⟨hk.accounted.once, hk.accounted.distinct, hk.accounted.still_told _⟩, hk.fresh,
    hk.bound, hk.positive⟩

lemma kept_send (hk : s.mail.Kept) (d : Draft) (fa : Bool) :
    (s.send d fa).1.mail.Kept ∧ ((s.send d fa).1.outbox.Fair ↔ s.outbox.Fair ∧
        (s.isConnected = false ∨ fa = true →
          s.outbox.Roomy s.config.messageQueueSize d.priority)) := by
  have next : (s.fullMessage d).id = s.mail.nextId := rfl
  have hq := Mail.kept_queueMessage hk next s.now
  have hf := Outbox.fair_queueMessage_iff (s.outbox.pass (s.fullMessage d).id)
    s.config.messageQueueSize s.now (s.fullMessage d)
  rw [send]
  split
  · rename_i huc
    refine ⟨hq, hf.trans (and_congr_right fun _ => ?_)⟩
    exact ⟨fun hr _ => hr, fun hh => hh (.inl (by simpa using huc))⟩
  · rename_i hco
    split
    · rename_i f
      refine ⟨hq.emit (.failed (s.fullMessage d)), hf.trans (and_congr_right fun _ => ?_)⟩
      exact ⟨fun hr _ => hr, fun hh => hh (.inr f)⟩
    · rename_i ht
      refine ⟨Mail.kept_record hk next, (and_iff_left ?_).symm⟩
      rintro (huc | f)
      · exact absurd huc (by simpa using hco)
      · exact absurd f ht

lemma delivers_sendHeartbeat (hk : s.mail.Kept) (fa : Bool) :
    (s.sendHeartbeat fa).mail.Kept ∧ ((s.sendHeartbeat fa).outbox.Fair ↔ s.outbox.Fair ∧
        (s.isConnected = true → fa = true →
          s.outbox.Roomy s.config.messageQueueSize (some .critical))) := by
  rw [sendHeartbeat]
  split
  · rename_i huc
    exact ⟨hk, (and_iff_left fun hco => absurd hco huc).symm⟩
  · rename_i hco
    have hp : Mail.Kept ⟨s.outbox, s.nextId + 1, s.config⟩ :=
      ⟨hk.accounted, fun id mem => Nat.lt_succ_of_lt (hk.fresh id mem), hk.bound, hk.positive⟩
    obtain ⟨hs, hf⟩ := kept_send (s := { s with
      pendingPings := s.pendingPings.set s.nextId s.now
      nextId := s.nextId + 1 }) hp ⟨.heartbeat, some .critical⟩ fa
    refine ⟨hs, hf.trans (and_congr_right fun _ => ?_)⟩
    have ha : s.isConnected = true := not_not.mp hco
    refine ⟨fun hh _ f => hh (.inr f), fun hh => ?_⟩
    rintro (huc | f)
    · exact absurd (ha.symm.trans huc) (by decide)
    · exact hh ha f

lemma kept_processQueue (hk : s.mail.Kept) (fa : List Nat) : (s.processQueue fa).mail.Kept ∧
      (s.processQueue fa).outbox.evictions = s.outbox.evictions := by
  rw [processQueue]
  split
  · have hp := Outbox.processed_process hk.accounted s.now fa
    refine ⟨⟨hp.accounted, fun id mem => ?_, ?_, hk.positive⟩, hp.evictions⟩
    · exact hk.fresh id (hp.passed ▸ mem)
    · exact hp.length.trans hk.bound
  · exact ⟨hk, rfl⟩

section

variable (s : State)

lemma mail_settle (i : Nat) (o : Outcome) : (s.settle i o).mail = s.mail := by
  rw [settle]
  split <;> rfl

lemma mail_connect (url th : Option String) : (s.connect url th).1.mail = s.mail := by
  rw [connect]
  split
  · rfl
  split
  · rfl
  split
  · rfl
  · cases s.socket <;> cases th <;> rfl

lemma mail_reconnect (th : Option String) : (s.reconnect th).mail = s.mail := by
  by_cases hm : s.config.maxReconnectAttempts ≤ s.connectionState.reconnectAttempts
  · rw [reconnect, if_pos hm, activateFallback]
    split <;> rfl
  · obtain ⟨sockets, microtasks, hs⟩ := reconnect_of_below th (Nat.not_le.mp hm)
    rw [hs]
    exact mail_connect s.counting none th

lemma mail_onOpen (fa : List Nat) :
    ∃ u : State, u.mail = s.mail ∧ (s.onOpen fa).mail = (u.processQueue fa).mail := by
  refine ⟨_, ?_, rfl⟩
  rfl

lemma mail_onClose : s.onClose.mail = s.mail := by
  rw [onClose]
  split <;> rfl

lemma mail_disconnect : s.disconnect.mail = s.mail := by
  rw [disconnect]
  cases s.socket <;> rfl

lemma mail_connectLapse (i : Nat) : (s.connectLapse i).mail = s.mail := by
  rw [connectLapse]
  split
  · split
    · exact mail_settle _ _ _
    · rfl
  · rfl

lemma mail_heartbeatLapse (th : Option String) : (s.heartbeatLapse th).mail = s.mail := by
  rw [heartbeatLapse]
  split
  · exact mail_reconnect _ _
  · rfl

lemma mail_reconnectTimer (th : Option String) : (s.reconnectTimer th).mail = s.mail := by
  rw [reconnectTimer]
  split
  · exact mail_reconnect _ _
  · rfl

end

lemma mail_onMessage {m : Incoming} (hp : ∀ mi, m ≠ .ack mi) : (s.onMessage m).mail = s.mail := by
  cases m with
  | heartbeat pingId timestamp =>
    simp only [onMessage, handleHeartbeatResponse]
    split <;> rfl
  | ack mi => exact absurd rfl (hp mi)
  | _ => rfl

variable (hk : s.mail.Kept)
include hk

lemma delivers_call (hp : Plain l) (hc : s.call l.action = some t) : s.Delivers l t := by
  obtain ⟨now, a⟩ := l
  cases a with
  | send d fa =>
    cases hc
    exact kept_send hk d fa
  | sendHeartbeat fa =>
    cases hc
    exact delivers_sendHeartbeat hk fa
  | connect url th =>
    cases hc
    exact delivers_of_mail hk (mail_connect s.want url th) trivial
  | reconnect th =>
    cases hc
    exact delivers_of_mail hk (mail_reconnect s.want th) trivial
  | disconnect =>
    cases hc
    exact delivers_of_mail hk (mail_disconnect s) trivial
  | init | setSessionContext =>
    cases hc
    exact delivers_of_mail hk rfl trivial
  | clearQueue | destroy => exact hp.elim
  | _ => cases hc

lemma delivers_of_processQueue {u : State} (fa : List Nat) (hs : u.mail = s.mail)
    (a : t.mail = (u.processQueue fa).mail) (hr : s.Roomy l) : s.Delivers l t := by
  obtain ⟨next, he⟩ := kept_processQueue (hs ▸ hk) fa
  refine ⟨a ▸ next, ?_⟩
  have hf : t.outbox.Fair ↔ s.outbox.Fair := by
    rw [Outbox.Fair, Outbox.Fair, show t.outbox = (u.processQueue fa).outbox from
      congrArg Mail.outbox a, he, show u.outbox = s.outbox from congrArg Mail.outbox hs]
  rw [hf]
  exact (and_iff_left hr).symm

lemma delivers_fire (hf : s.fire l.action = some t) : s.Delivers l t := by
  obtain ⟨now, a⟩ := l
  cases a with
  | heartbeat fa =>
    obtain ⟨tm, -, af⟩ := fire_heartbeat hf
    rw [af, heartbeatTick]
    split
    · exact delivers_sendHeartbeat hk fa
    · rename_i huc
      refine delivers_of_mail hk rfl fun hco => ?_
      exact absurd hco huc
  | heartbeatLapse tm th =>
    obtain ⟨-, ⟨⟩⟩ := ite_none_right_eq_some.mp hf
    exact delivers_of_mail hk ((mail_heartbeatLapse _ th).trans rfl) trivial
  | reconnectTimer th =>
    rw [fire_reconnectTimer hf]
    exact delivers_of_mail hk ((mail_reconnectTimer _ th).trans rfl) trivial
  | queueProcessor fa =>
    obtain ⟨tm, af⟩ := fire_queueProcessor hf
    rw [af]
    exact delivers_of_processQueue hk fa rfl rfl trivial
  | connectLapse tm i =>
    obtain ⟨-, ⟨⟩⟩ := ite_none_right_eq_some.mp hf
    exact delivers_of_mail hk ((mail_connectLapse _ i).trans rfl) trivial
  | _ => cases hf

lemma delivers_deliver {i : Nat} {sk : Socket} (hp : Plain l)
    (hdl : s.deliver i sk l.action = some t) : s.Delivers l t := by
  obtain ⟨now, a⟩ := l
  cases a with
  | opened j fa =>
    obtain ⟨-, ⟨⟩⟩ := ite_none_right_eq_some.mp hdl
    obtain ⟨u, hs, af⟩ := mail_onOpen { s with
      sockets := s.sockets.set i { sk with readyState := .opened } } fa
    exact delivers_of_processQueue hk fa (hs.trans rfl) ((mail_settle _ i _).trans af) trivial
  | message j incoming =>
    obtain ⟨-, ⟨⟩⟩ := ite_none_right_eq_some.mp hdl
    refine delivers_of_mail hk (mail_onMessage ?_) trivial
    rintro messageId rfl
    exact hp.elim
  | error j text =>
    obtain ⟨-, ⟨⟩⟩ := ite_none_right_eq_some.mp hdl
    exact delivers_of_mail hk ((mail_settle _ i _).trans rfl) trivial
  | closed j =>
    obtain ⟨-, ⟨⟩⟩ := ite_none_right_eq_some.mp hdl
    exact delivers_of_mail hk ((mail_onClose _).trans rfl) trivial
  | _ => cases hdl

lemma delivers_act (hp : Plain l) (ht : s.act l.action = some t) : s.Delivers l t := by
  cases acted_of_act ht with
  | call _ hc => exact delivers_call hk hp hc
  | resume hh hq a =>
    rename_i o hl
    obtain ⟨now, action⟩ := l
    cases hh
    refine delivers_of_mail hk ?_ trivial
    rw [a]
    cases o <;> rfl
  | event _ _ _ hdl => exact delivers_deliver hk hp hdl
  | timer _ _ hf => exact delivers_fire hk hf

lemma delivers_step (hp : Plain l) (ht : s.step l = some t) : s.Delivers l t := by
  obtain ⟨-, ha⟩ := ite_none_right_eq_some.mp ht
  exact delivers_act (s := { s with now := l.now }) hk hp ha

end State

lemma kept_create (os : Options) : (create os).mail.Kept := by
  refine ⟨⟨List.Perm.refl _, nodup_nil, fun _ mem => ?_⟩, fun _ mem => ?_, Nat.zero_le _, ?_⟩
  · cases mem
  · cases mem
  · have hp : 0 < orNumber os.messageQueueSize 1000 := by
      rw [orNumber]
      split
      · decide
      · omega
    exact hp

/-- In every run without acknowledgments and cleared queues, all messages are accounted for and the
queue keeps its size. No message is dropped while one of lower priority stays just in the runs whose
steps all meet the condition. -/
theorem accounted_and_fair_iff (options : Options) {t : State} {labels : List Label}
    (run : Run State.step (fun _ label => State.Plain label) (create options) labels t) :
    t.outbox.Accounted ∧ t.outbox.messageQueue.length ≤ t.config.messageQueueSize ∧
      (t.outbox.Fair ↔ Run State.step (fun s label => State.Plain label ∧ s.Roomy label)
        (create options) labels t) := by
  have hl := run.invariant (fun s => s.mail.Kept)
    (fun _ _ _ hk hp ht => (State.delivers_step hk hp ht).1) (kept_create options)
  refine ⟨hl.accounted, hl.bound, ?_⟩
  exact run.iff_within_base (fun s => s.mail.Kept) (fun s => s.outbox.Fair)
    (fun _ _ _ hk hp ht => (State.delivers_step hk hp ht).1)
    (fun _ _ _ hk hp ht => (State.delivers_step hk hp ht).2)
    (kept_create options) (fun _ mem => by cases mem)

deriving instance Decidable for Outbox.Fair

instance (label : Label) : Decidable (State.Plain label) := by
  unfold State.Plain
  repeat' split
  all_goals infer_instance

def small : Options := { url := some "server", messageQueueSize := some 2 }

/-- Three messages wait for a socket, and a fourth one finds it open. -/
def waiting : List Label :=
  [⟨0, .send ⟨.event, some .low⟩ false⟩, ⟨0, .send ⟨.event, some .normal⟩ false⟩,
    ⟨0, .send ⟨.event, some .high⟩ false⟩, ⟨0, .connect none none⟩, ⟨10, .opened 0 [2]⟩,
    ⟨20, .send ⟨.event, none⟩ false⟩]

theorem accounted_and_fair_iff_waiting : ∃ t,
    Run State.step (fun _ label => State.Plain label) (create small) waiting t ∧
      t.outbox.sent = [1, 3] ∧ t.outbox.ids = [2] ∧ t.outbox.dropped = [0] ∧
      t.outbox.Accounted ∧ t.outbox.messageQueue.length ≤ t.config.messageQueueSize :=
  exists_run₃ (by decide +kernel) fun _ run _ _ _ =>
    ⟨(accounted_and_fair_iff small run).1, (accounted_and_fair_iff small run).2.1⟩

/-- A critical message is the oldest one. -/
def crowded : List Label :=
  [⟨0, .send ⟨.event, some .critical⟩ false⟩, ⟨0, .send ⟨.event, some .low⟩ false⟩,
    ⟨0, .send ⟨.event, some .low⟩ false⟩]

theorem crowded_unfair : ∃ t,
    Run State.step (fun _ label => State.Plain label) (create small) crowded t ∧
      t.outbox.ids = [1, 2] ∧ t.outbox.dropped = [0] ∧ ¬ t.outbox.Fair :=
  exists_run_seen (by decide +kernel)

end WebSocketManager
