import Optimizely.TransitionRuns
import Optimizely.WebSocketServer

/-!
# The two records of who is in a room

The rooms and the sockets agree in every state of a run just if no socket subscribes after its
client was disconnected. A client evicted by the heartbeat, or after an error, may still do so; it
is then in a room and not a client.
-/

namespace WebSocketServer

open TransitionRuns List OrderedMap

variable {Room : Type} [DecidableEq Room]

def Joined (s : Server Room) (clientId : String) (room : Room) : Prop :=
  ∃ socket, s.sockets.get? clientId = some socket ∧ room ∈ socket.rooms.keys

structure Consistent (s : Server Room) : Prop where
  member : ∀ room clientId, IsMember s.rooms room clientId →
    clientId ∈ s.clients ∧ Joined s clientId room
  joined : ∀ clientId ∈ s.clients, ∀ room, Joined s clientId room → IsMember s.rooms room clientId
  nonempty : NoneEmpty s.rooms

/-- Clients are distinct and have sockets. -/
structure Connected (s : Server Room) : Prop where
  distinct : s.clients.Nodup
  socket : ∀ clientId ∈ s.clients, (s.sockets.get? clientId).isSome

/-- Only clients subscribe. -/
def FromClient (s : Server Room) : Label Room → Prop
  | .message clientId (.subscribe (some _)) _ => clientId ∈ s.clients
  | _ => True

instance (s : Server Room) (label : Label Room) : Decidable (FromClient s label) := by
  unfold FromClient
  repeat' split
  all_goals infer_instance

omit [DecidableEq Room] in
lemma joined_set (s : Server Room) (id : String) (sk : Socket Room) (x : String)
    (room : Room) : Joined { s with sockets := s.sockets.set id sk } x room ↔
      if id = x then room ∈ sk.rooms.keys else Joined s x room := by
  simp only [Joined, get?_set]
  split
  · simp
  · rfl

section

variable {s t : Server Room} {id : String} {sk new : Socket Room} {l : Label Room}

omit [DecidableEq Room] in
lemma joined_set_same (hf : s.sockets.get? id = some sk) (hs : new.rooms = sk.rooms)
    (x : String) (room : Room) :
    Joined { s with sockets := s.sockets.set id new } x room ↔ Joined s x room := by
  rw [joined_set]
  split
  · rename_i hh
    subst hh
    simp [Joined, hf, hs]
  · rfl

omit [DecidableEq Room] in
lemma connected_set (hco : Connected s) (id : String) (socket : Socket Room)
    (rooms : OrderedMap Room (OrderedMap String Unit)) :
    Connected { s with sockets := s.sockets.set id socket, rooms := rooms } where
  distinct := hco.distinct
  socket x mem := by
    simp only [get?_set]
    split
    · rfl
    · exact hco.socket x mem

lemma consistent_set_same (hc : Consistent s) (hf : s.sockets.get? id = some sk)
    (hs : new.rooms = sk.rooms) : Consistent (s.setSocket id new) where
  member room x member := by
    obtain ⟨hkn, joined⟩ := hc.member room x member
    exact ⟨hkn, (joined_set_same hf hs x room).mpr joined⟩
  joined x hkn room joined := hc.joined x hkn room ((joined_set_same hf hs x room).mp joined)
  nonempty := hc.nonempty

omit [DecidableEq Room] in
lemma Connected.handleConnection (hco : Connected s) (hfr : s.sockets.get? id = none) (now : Nat) :
    Connected (s.handleConnection id now) := by
  constructor
  · refine nodup_append.mpr ⟨hco.distinct, by simp, ?_⟩
    intro old hkn new only hs
    have hmi := hco.socket old hkn
    rw [hs, mem_singleton.mp only, hfr] at hmi
    cases hmi
  · intro x hkn
    simp only [Server.handleConnection, get?_set]
    split
    · rfl
    · rename_i hne
      refine hco.socket x ?_
      simpa [Server.handleConnection, Ne.symm hne] using hkn

lemma Consistent.handleConnection (hc : Consistent s) (hco : Connected s)
    (hfr : s.sockets.get? id = none) (now : Nat) : Consistent (s.handleConnection id now) := by
  have older : ∀ x ∈ s.clients, id ≠ x := by
    rintro x hkn rfl
    have hp := hco.socket id hkn
    rw [hfr] at hp
    cases hp
  have joins : ∀ x room, Joined (s.handleConnection id now) x room ↔
      if id = x then room ∈ (empty : OrderedMap Room Unit).keys
      else Joined s x room :=
    joined_set s id ⟨.empty, now, .open⟩
  constructor
  · intro room x member
    obtain ⟨hkn, hj⟩ := hc.member room x member
    refine ⟨mem_append_left _ hkn, ?_⟩
    rw [joins, if_neg (older x hkn)]
    exact hj
  · intro x hkn room hj
    rw [joins] at hj
    split at hj
    · simp [OrderedMap.keys, empty] at hj
    · rename_i hne
      refine hc.joined x ?_ room hj
      simpa [Server.handleConnection, Ne.symm hne] using hkn
  · exact hc.nonempty

lemma Consistent.subscribe (hc : Consistent s) (hf : s.sockets.get? id = some sk)
    (hkn : id ∈ s.clients) (r : Room) : Consistent (s.handleSubscription sk id (some r)) := by
  have hjn : ∀ x room', Joined (s.handleSubscription sk id (some r)) x room' ↔
        id = x ∧ room' = r ∨ Joined s x room' := by
    intro x room'
    refine (joined_set s id _ x room').trans ?_
    split
    · rename_i hs
      subst hs
      simp [mem_keys_set, Joined, hf]
    · rename_i hne
      simp [hne]
  constructor
  · intro room' x hm
    rw [hjn]
    rcases (isMember_join ..).mp hm with ⟨rfl, rfl⟩ | b
    · exact ⟨hkn, .inl ⟨rfl, rfl⟩⟩
    · obtain ⟨hl, hj⟩ := hc.member room' x b
      exact ⟨hl, .inr hj⟩
  · intro x hl room' hj
    refine (isMember_join ..).mpr ?_
    rcases (hjn x room').mp hj with ⟨rfl, rfl⟩ | b
    · exact .inl ⟨rfl, rfl⟩
    · exact .inr (hc.joined x hl room' b)
  · exact noneEmpty_join r id hc.nonempty

/-- It makes no difference whether the client is still known. -/
lemma Consistent.unsubscribe (hc : Consistent s) (hf : s.sockets.get? id = some sk)
    (r : Option Room) : Consistent (s.handleUnsubscription sk id r) := by
  cases r with
  | none => exact hc
  | some r =>
    rw [Server.handleUnsubscription]
    split
    · have hjn : ∀ x r', Joined (s.setSocket id { sk with rooms := sk.rooms.erase r }) x r' ↔
          Joined s x r' ∧ ¬ (r' = r ∧ x = id) := by
        intro x r'
        refine (joined_set s id _ x r').trans ?_
        split
        · rename_i hsm
          subst hsm
          simp [mem_keys_erase, Joined, hf]
        · rename_i hne
          simp [Ne.symm hne]
      constructor
      · intro r' x hm
        obtain ⟨b, hs⟩ := (isMember_leave ..).mp hm
        obtain ⟨hl, hj⟩ := hc.member r' x b
        exact ⟨hl, (hjn x r').mpr ⟨hj, hs⟩⟩
      · intro x hl r' hj
        obtain ⟨b, hs⟩ := (hjn x r').mp hj
        exact (isMember_leave ..).mpr ⟨hc.joined x hl r' b, hs⟩
      · exact noneEmpty_leave r id hc.nonempty
    · exact hc

lemma isMember_leaves (left : List Room) (id : String)
    (rs : OrderedMap Room (OrderedMap String Unit)) (r : Room) (x : String) :
    IsMember (left.foldl (fun rs r => leave rs r id) rs) r x ↔
      IsMember rs r x ∧ ¬ (r ∈ left ∧ x = id) := by
  induction left generalizing rs with
  | nil => simp
  | cons first left ih =>
    rw [foldl_cons, ih, isMember_leave, mem_cons]
    tauto

lemma noneEmpty_leaves (left : List Room) (id : String)
    {rs : OrderedMap Room (OrderedMap String Unit)} (none : NoneEmpty rs) :
    NoneEmpty (left.foldl (fun rs r => leave rs r id) rs) :=
  foldlRecOn _ _ none fun _ none r _ => noneEmpty_leave r id none

omit [DecidableEq Room] in
lemma rooms_close (sk : Socket Room) : (Server.close sk).rooms = sk.rooms := by
  rw [Server.close]
  split <;> rfl

section

variable (hco : Connected s)
include hco

lemma Connected.handleDisconnection (id : String) : Connected (s.handleDisconnection id) := by
  rw [Server.handleDisconnection]
  split
  · split
    · exact hco
    · refine ⟨hco.distinct.erase id, fun x hkn => ?_⟩
      simp only [get?_set]
      split
      · rfl
      · exact hco.socket x (mem_of_mem_erase hkn)
  · exact hco

lemma Consistent.handleDisconnection (hc : Consistent s) (id : String) :
    Consistent (s.handleDisconnection id) := by
  rw [Server.handleDisconnection]
  split
  · split
    · exact hc
    · rename_i sk hf
      have hjn : ∀ x room, Joined { s with
          sockets := s.sockets.set id (Server.close sk) } x room ↔
          Joined s x room :=
        joined_set_same hf (rooms_close sk)
      constructor
      · intro room x hm
        obtain ⟨hb, hs⟩ := (isMember_leaves ..).mp hm
        obtain ⟨hl, hj⟩ := hc.member room x hb
        have hne : x ≠ id := by
          rintro rfl
          obtain ⟨same, hst, mem⟩ := hj
          rw [hf] at hst
          cases hst
          exact hs ⟨mem, rfl⟩
        exact ⟨(hco.distinct.mem_erase_iff).mpr ⟨hne, hl⟩, (hjn x room).mpr hj⟩
      · intro x hl room hj
        obtain ⟨hne, hkn⟩ := (hco.distinct.mem_erase_iff).mp hl
        have hb := hc.joined x hkn room ((hjn x room).mp hj)
        exact (isMember_leaves ..).mpr ⟨hb, fun hbt => hne hbt.2⟩
      · exact noneEmpty_leaves _ id hc.nonempty
  · exact hc

lemma heartbeat_kept (now : Nat) :
    Connected (s.heartbeat now) ∧ (Consistent s → Consistent (s.heartbeat now)) := by
  refine foldlRecOn (motive := fun t => Connected t ∧ (Consistent s → Consistent t)) _ _
    ⟨hco, fun hk => hk⟩ ?_
  rintro t ⟨hct, hk⟩ id -
  split
  · exact ⟨hct.handleDisconnection id, fun hc => (hk hc).handleDisconnection hct id⟩
  · exact ⟨hct, hk⟩

lemma Connected.handleMessage (id : String) (sk : Socket Room) (now : Nat)
    (m : Message Room) : Connected (s.handleMessage sk id now m) := by
  have hk : ∀ sk rooms, Connected { s with
      sockets := s.sockets.set id sk, rooms := rooms } :=
    connected_set hco id
  rcases m with (_ | r) | (_ | r) | _ | _
  · exact hco
  · exact hk _ _
  · exact hco
  · rw [Server.handleMessage, Server.handleUnsubscription]
    split
    · exact hk _ _
    · exact hco
  · exact hk _ _
  · exact hco

lemma connected_step (ht : s.step l = some t) : Connected t := by
  cases stepped_of_step ht with
  | connection hfr now => exact hco.handleConnection hfr now
  | message hf message now => exact hco.handleMessage _ _ now message
  | close hf => exact (connected_set hco _ _ s.rooms).handleDisconnection _
  | error id => exact hco.handleDisconnection id
  | heartbeat now => exact (heartbeat_kept hco now).1

end

/-- A socket whose client is gone is in the room after it has subscribed. -/
lemma known_of_consistent_subscribe {r : Room}
    (hc : Consistent (s.handleSubscription sk id (some r))) : id ∈ s.clients := by
  have hm : IsMember (join s.rooms r id) r id := (isMember_join ..).mpr (.inl ⟨rfl, rfl⟩)
  exact (hc.member r id hm).1

lemma consistent_message_iff (hc : Consistent s) (hf : s.sockets.get? id = some sk) (now : Nat)
    (m : Message Room) : Consistent (s.handleMessage sk id now m) ↔
      FromClient s (.message id m now) := by
  rcases m with (_ | r) | r | _ | _
  · exact iff_of_true hc trivial
  · exact ⟨known_of_consistent_subscribe, fun hkn => hc.subscribe hf hkn r⟩
  · exact iff_of_true (hc.unsubscribe hf r) trivial
  · exact iff_of_true (consistent_set_same hc hf rfl) trivial
  · exact iff_of_true hc trivial

lemma consistent_step_iff (hco : Connected s) (hc : Consistent s) (ht : s.step l = some t) :
    Consistent t ↔ FromClient s l := by
  cases stepped_of_step ht with
  | connection hfr now =>
    exact iff_of_true (hc.handleConnection hco hfr now) trivial
  | message hf message now => exact consistent_message_iff hc hf now message
  | @close id sk hf =>
    have hcl := consistent_set_same hc hf
      (show Socket.rooms { sk with readyState := .closed } = sk.rooms from rfl)
    exact iff_of_true (hcl.handleDisconnection (connected_set hco id _ s.rooms) id) trivial
  | error id =>
    exact iff_of_true (hc.handleDisconnection hco id) trivial
  | heartbeat now => exact iff_of_true ((heartbeat_kept hco now).2 hc) trivial

end

theorem consistent_iff_fromClient {labels : List (Label Room)} {t : Server Room} :
    Run Server.step (fun s _ => Consistent s) constructed labels t ∧ Consistent t ↔
      Run Server.step FromClient constructed labels t := by
  refine Run.throughout_iff Connected Consistent (fun _ _ _ hcn _ => connected_step hcn)
    (fun _ _ _ hcn hc => consistent_step_iff hcn hc) ?_ ?_
  · exact ⟨nodup_nil, by simp [constructed]⟩
  · have hm : ∀ r, (constructed : Server Room).rooms.get? r = none := fun _ => rfl
    exact ⟨by simp [IsMember, hm], by simp [constructed], by simp [NoneEmpty, hm]⟩

/-- A client is evicted by the heartbeat, and its socket subscribes before it has closed. -/
def subscribeEvicted : List (Label String) :=
  [.connection "client_1" 0, .message "client_1" (.subscribe (some "realtime-metrics")) 1,
    .heartbeat 90000, .message "client_1" (.subscribe (some "realtime-metrics")) 90001]

theorem subscribeEvicted_inconsistent : ∃ t : Server String,
    Run Server.step Always constructed subscribeEvicted t ∧ t.clients = [] ∧
      t.rooms.entries.map (fun entry => (entry.1, entry.2.keys)) =
        [("realtime-metrics", ["client_1"])] ∧ ¬ Consistent t := by
  refine exists_run₂ (by decide +kernel) fun t _ hcl rs hc => ?_
  obtain ⟨⟨room, ms⟩, s, hs⟩ := mem_map.mp
    (show ("realtime-metrics", ["client_1"]) ∈ t.rooms.entries.map _ by rw [rs]; simp)
  obtain ⟨rfl, hl⟩ := Prod.mk.inj hs
  have hm : IsMember t.rooms "realtime-metrics" "client_1" := ⟨ms, get?_of_mem s, by simp [hl]⟩
  have hk := (hc.member _ _ hm).1
  simp [hcl] at hk

end WebSocketServer
