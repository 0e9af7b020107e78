import Optimizely.OrderedMap

/-!
# The web socket server

A socket is known by the id it got when it connected. Who is in a room is stored twice: with the
room, and with the socket, as the rooms it has joined. A disconnected client leaves its rooms and
the map of clients, but its socket goes on delivering messages until it has closed.
-/

namespace WebSocketServer

open OrderedMap

inductive ReadyState where
  | open
  | closing
  | closed
  deriving DecidableEq

/-- Rooms are compared as the keys of a `Map` are. -/
structure Socket (Room : Type) where
  rooms : OrderedMap Room Unit
  lastPing : Nat
  readyState : ReadyState

/-- `sockets` are all sockets that ever connected, and `clients` the keys of the map of clients. -/
structure Server (Room : Type) where
  sockets : OrderedMap String (Socket Room)
  clients : List String
  rooms : OrderedMap Room (OrderedMap String Unit)

/-- A message. A room that is missing, and one that counts as false, is none; messages that are no
JSON or of another type are answered and do nothing else. -/
inductive Message (Room : Type) where
  | subscribe (room : Option Room)
  | unsubscribe (room : Option Room)
  | ping
  | other

variable {Room : Type} [DecidableEq Room]

def join (rooms : OrderedMap Room (OrderedMap String Unit)) (room : Room) (clientId : String) :
    OrderedMap Room (OrderedMap String Unit) :=
  rooms.set room (((rooms.get? room).getD .empty).set clientId ())

/-- An empty room is deleted. -/
def leave (rooms : OrderedMap Room (OrderedMap String Unit)) (room : Room) (clientId : String) :
    OrderedMap Room (OrderedMap String Unit) :=
  match rooms.get? room with
  | none => rooms
  | some members =>
    let left := members.erase clientId
    if left.keys = [] then rooms.erase room else rooms.set room left

def IsMember (rooms : OrderedMap Room (OrderedMap String Unit)) (room : Room)
    (clientId : String) : Prop :=
  ∃ members, rooms.get? room = some members ∧ clientId ∈ members.keys

def NoneEmpty (rooms : OrderedMap Room (OrderedMap String Unit)) : Prop :=
  ∀ room members, rooms.get? room = some members → members.keys ≠ []

section

variable {rs : OrderedMap Room (OrderedMap String Unit)} (room : Room) (id : String)

lemma isMember_join (r' : Room) (clientId' : String) : IsMember (join rs room id) r' clientId' ↔
      r' = room ∧ clientId' = id ∨ IsMember rs r' clientId' := by
  simp only [IsMember, join, get?_set]
  by_cases hs : room = r'
  · subst hs
    simp only [if_true, Option.some.injEq, exists_eq_left', mem_keys_set, true_and]
    cases rs.get? room with
    | none => simp [keys, empty]
    | some ms => simp
  · simp [hs, Ne.symm hs]

lemma noneEmpty_join (none : NoneEmpty rs) : NoneEmpty (join rs room id) := by
  intro r' ms hf
  rw [join, get?_set] at hf
  split at hf
  · cases hf
    exact List.ne_nil_of_mem ((mem_keys_set ..).mpr (.inl rfl))
  · exact none r' ms hf

lemma isMember_leave (r' : Room) (clientId' : String) : IsMember (leave rs room id) r' clientId' ↔
      IsMember rs r' clientId' ∧ ¬ (r' = room ∧ clientId' = id) := by
  rw [leave]
  cases hf : rs.get? room with
  | none =>
    refine ⟨fun hm => ⟨hm, ?_⟩, And.left⟩
    rintro ⟨rfl, -⟩
    obtain ⟨ms, hst, -⟩ := hm
    rw [hf] at hst
    cases hst
  | some ms =>
    have hs : ∀ id', id' ∈ (ms.erase id).keys ↔ id' ∈ ms.keys ∧ id' ≠ id := mem_keys_erase ms id
    by_cases hsm : r' = room
    · subst hsm
      have s : IsMember rs r' clientId' ↔ clientId' ∈ ms.keys := by
        simp [IsMember, hf]
      rw [s]
      by_cases he : (ms.erase id).keys = []
      · have left : clientId' ∉ (ms.erase id).keys := by simp [he]
        rw [hs] at left
        simp only [he, if_true, IsMember, get?_erase]
        simpa using left
      · simp [he, IsMember, get?_set, hs]
    · have x : ∀ new : OrderedMap String Unit,
          IsMember (rs.set room new) r' clientId' ↔ IsMember rs r' clientId' := by
        intro new
        simp [IsMember, get?_set, Ne.symm hsm]
      dsimp only
      split
      · simp [IsMember, get?_erase, hsm, Ne.symm hsm]
      · simp [x, hsm]

lemma noneEmpty_leave (none : NoneEmpty rs) : NoneEmpty (leave rs room id) := by
  rw [leave]
  split
  · exact none
  · dsimp only
    split
    · intro r' ms hf
      rw [get?_erase] at hf
      split at hf
      · cases hf
      · exact none r' ms hf
    · rename_i hn
      intro r' ms hf
      rw [get?_set] at hf
      split at hf
      · cases hf
        exact hn
      · exact none r' ms hf

end

namespace Server

def setSocket (s : Server Room) (clientId : String) (socket : Socket Room) : Server Room :=
  { s with sockets := s.sockets.set clientId socket }

def handleConnection (s : Server Room) (clientId : String) (now : Nat) : Server Room :=
  { s with
    sockets := s.sockets.set clientId ⟨.empty, now, .open⟩
    clients := s.clients ++ [clientId] }

def handleSubscription (s : Server Room) (socket : Socket Room) (clientId : String) :
    Option Room → Server Room
  | none => s
  | some room =>
    { s.setSocket clientId { socket with rooms := socket.rooms.set room () } with
      rooms := join s.rooms room clientId }

def handleUnsubscription (s : Server Room) (socket : Socket Room) (clientId : String) :
    Option Room → Server Room
  | none => s
  | some room =>
    if room ∈ socket.rooms.keys then
      { s.setSocket clientId { socket with rooms := socket.rooms.erase room } with
        rooms := leave s.rooms room clientId }
    else s

def handleMessage (s : Server Room) (socket : Socket Room) (clientId : String) (now : Nat) :
    Message Room → Server Room
  | .subscribe room => s.handleSubscription socket clientId room
  | .unsubscribe room => s.handleUnsubscription socket clientId room
  | .ping => s.setSocket clientId { socket with lastPing := now }
  | .other => s

/-- `ws.close()`, if the socket is open. -/
def close (socket : Socket Room) : Socket Room :=
  if socket.readyState = .open then { socket with readyState := .closing } else socket

def handleDisconnection (s : Server Room) (clientId : String) : Server Room :=
  if clientId ∈ s.clients then
    match s.sockets.get? clientId with
    | none => s
    | some socket =>
      { sockets := s.sockets.set clientId (close socket)
        clients := s.clients.erase clientId
        rooms := socket.rooms.keys.foldl (fun rooms room => leave rooms room clientId) s.rooms }
  else s

/-- The client has not sent a ping for a minute. -/
def isStale (s : Server Room) (now : Nat) (clientId : String) : Bool :=
  (s.sockets.get? clientId).any fun socket => now > socket.lastPing + 60000

/-- The interval of `startHeartbeat`. -/
def heartbeat (s : Server Room) (now : Nat) : Server Room :=
  s.clients.foldl (fun s clientId =>
    if s.isStale now clientId then s.handleDisconnection clientId else s) s

end Server

inductive Label (Room : Type) where
  | connection (clientId : String) (now : Nat)
  | message (clientId : String) (message : Message Room) (now : Nat)
  | close (clientId : String)
  | error (clientId : String)
  | heartbeat (now : Nat)

/-- A socket delivers messages and errors until it has closed, also when the server has begun to
close it. -/
def Server.step (s : Server Room) : Label Room → Option (Server Room)
  | .connection clientId now => match s.sockets.get? clientId with
    | some _ => none
    | none => some (s.handleConnection clientId now)
  | .message clientId message now => match s.sockets.get? clientId with
    | some socket =>
      if socket.readyState = .closed then none
      else some (s.handleMessage socket clientId now message)
    | none => none
  | .close clientId => match s.sockets.get? clientId with
    | some socket =>
      if socket.readyState = .closed then none
      else some ((s.setSocket clientId { socket with readyState := .closed }).handleDisconnection
        clientId)
    | none => none
  | .error clientId => match s.sockets.get? clientId with
    | some socket =>
      if socket.readyState = .closed then none else some (s.handleDisconnection clientId)
    | none => none
  | .heartbeat now => some (s.heartbeat now)

inductive Stepped (s : Server Room) : Label Room → Server Room → Prop where
  | connection {clientId : String} (fresh : s.sockets.get? clientId = none) (now : Nat) :
    Stepped s (.connection clientId now) (s.handleConnection clientId now)
  | message {clientId : String} {socket : Socket Room}
    (found : s.sockets.get? clientId = some socket) (message : Message Room) (now : Nat) :
    Stepped s (.message clientId message now) (s.handleMessage socket clientId now message)
  | close {clientId : String} {socket : Socket Room}
    (found : s.sockets.get? clientId = some socket) :
    Stepped s (.close clientId)
      ((s.setSocket clientId { socket with readyState := .closed }).handleDisconnection clientId)
  | error (clientId : String) : Stepped s (.error clientId) (s.handleDisconnection clientId)
  | heartbeat (now : Nat) : Stepped s (.heartbeat now) (s.heartbeat now)

lemma stepped_of_step {s t : Server Room} {l : Label Room} (ht : s.step l = some t) :
    Stepped s l t := by
  cases l with
  | connection id now =>
    simp only [Server.step] at ht
    split at ht
    · cases ht
    · rename_i hfr
      cases ht
      exact .connection hfr now
  | heartbeat now =>
    cases ht
    exact .heartbeat now
  | _ =>
    -- the socket has not closed
    simp only [Server.step] at ht
    split at ht
    · rename_i sk hf
      rw [Option.ite_none_left_eq_some] at ht
      obtain ⟨-, ⟨⟩⟩ := ht
      constructor <;> exact hf
    · cases ht

def constructed : Server Room := ⟨.empty, [], .empty⟩

end WebSocketServer
