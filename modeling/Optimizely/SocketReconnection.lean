import Optimizely.TransitionRuns
import Optimizely.WebSocketManager

/-!
# Reconnection

A lost connection is opened again by a timer, set when the manager hears that a socket has closed,
if it thought itself connected, and when an attempt of `reconnect` has failed. Whatever closes
clears the timer first.
-/

namespace WebSocketManager

open TransitionRuns List

namespace State

/-- A socket is being opened, or a call of `reconnect` has not heard of its attempt yet. -/
def InProgress (s : State) : Prop := s.microtasks ≠ [] ∨ s.readyState = some .connecting

/-- The page wants a connection, and the manager may try to open one. -/
def Asked (s : State) : Prop :=
  s.config.reconnect = true ∧ s.destroyed = false ∧ s.history.wanted = true ∧
    s.connectionState.reconnectAttempts < s.config.maxReconnectAttempts

/-- A lost connection has its timer, and no socket was opened after `disconnect`. -/
structure Tended (s : State) : Prop where
  pending : s.Asked → ¬ s.InProgress → s.isConnected = false → s.timers.reconnectTimeout ≠ none
  strays : s.history.strays = 0

/-- `reconnect` would open a socket. -/
def Opens (s : State) : Prop :=
  s.destroyed = false ∧ s.connectionState.reconnectAttempts < s.config.maxReconnectAttempts ∧
    s.config.url ≠ "" ∧ ¬ (s.isConnected = true ∧ s.connectionState.url = s.config.url)

/-- The socket is open, or on the way to be. -/
def Live (s : State) : Prop := s.readyState = some .connecting ∨ s.isConnected = true

def awaits (s : State) (i : Nat) : Bool := (s.sockets[i]?).any Socket.awaited

def Orderly (s : State) : Action → Prop
  -- a call that opens no socket finds one, or a timer that it leaves
  | .connect url throws => s.want.Asked →
      (orString url s.config.url ≠ "" ∧ throws = none) ∨ s.InProgress ∨ s.isConnected = true ∨
        s.timers.reconnectTimeout ≠ none ∧ (orString url s.config.url = "" ∨ s.socket = none)
  -- the attempts are counted anew only when a socket is open, or a timer set
  | .resume => s.microtasks = [.resolved] → s.config.reconnect = true → s.destroyed = false →
      s.history.wanted = true → 0 < s.config.maxReconnectAttempts →
        s.Live ∨ s.timers.reconnectTimeout ≠ none
  -- an error of the socket meets a call of `reconnect`
  | .error i _ => s.Asked → s.socket = some i →
      s.awaits i = true ∨ s.timers.reconnectTimeout ≠ none
  -- a socket closes while the manager thinks itself connected
  | .closed i => s.Asked → s.connectionState.status = .connected ∨ s.socket ≠ some i ∧ s.Live
  | .reconnectTimer _ =>
      (s.Asked → s.connectionState.status = .connected → s.Live) ∧
        (s.Opens → s.connectionState.status ≠ .connected → s.history.wanted = true)
  | .heartbeatLapse _ _ => s.config.heartbeatConfig.maxMissed ≤ s.heartbeatsMissed + 1 →
      s.Opens → s.history.wanted = true
  | .connectLapse _ i => s.Asked → s.readyState = some .connecting →
      s.awaits i = true ∨ s.timers.reconnectTimeout ≠ none
  | _ => True

lemma tended_iff (s : State) : s.Tended ↔ s.history.strays = 0 ∧
    (s.Asked → s.InProgress ∨ s.isConnected = true ∨ s.timers.reconnectTimeout ≠ none) := by
  constructor
  · rintro ⟨hpe, hs⟩
    refine ⟨hs, fun ha => ?_⟩
    by_cases hb : s.InProgress
    · exact .inl hb
    · cases hco : s.isConnected with
      | true => exact .inr (.inl rfl)
      | false => exact .inr (.inr (hpe ha hb hco))
  · rintro ⟨hs, cases⟩
    refine ⟨fun ha idle huc => ?_, hs⟩
    rcases cases ha with hb | hco | tm
    · exact absurd hb idle
    · rw [huc] at hco
      cases hco
    · exact tm

structure Link where
  config : WebSocketConfig
  destroyed : Bool
  wanted : Bool
  strays : Nat
  attempts : Nat
  microtasks : List Outcome
  readyState : Option ReadyState
  reconnectTimeout : Option Timer

def link (s : State) : Link :=
  ⟨s.config, s.destroyed, s.history.wanted, s.history.strays, s.connectionState.reconnectAttempts,
    s.microtasks, s.readyState, s.timers.reconnectTimeout⟩

lemma link_eq (s : State) : s.link =
    ⟨s.core.config, s.core.destroyed, s.core.wanted, s.core.strays, s.core.reconnectAttempts,
      s.core.microtasks, (s.core.socket.bind fun i => s.core.sockets[i]?).map Socket.readyState,
      s.core.timers.reconnectTimeout⟩ := rfl

variable {s t : State} {i : Nat} {sk : Socket} {action : Action}

lemma link_of_core (hs : t.core = s.core) : t.link = s.link := by
  rw [link_eq, link_eq, hs]

def Link.Asked (l : Link) : Prop :=
  l.config.reconnect = true ∧ l.destroyed = false ∧ l.wanted = true ∧
    l.attempts < l.config.maxReconnectAttempts

lemma tended_iff_link (s : State) : s.Tended ↔ s.link.strays = 0 ∧ (s.link.Asked →
    s.link.microtasks ≠ [] ∨ s.link.readyState = some .connecting ∨
      s.link.readyState = some .opened ∨ s.link.reconnectTimeout ≠ none) := by
  rw [tended_iff, InProgress, isConnected_iff, or_assoc]
  exact Iff.rfl

lemma Tended.of_link (hte : s.Tended) (hs : t.link = s.link) : t.Tended := by
  rw [tended_iff_link] at hte ⊢
  rw [hs]
  exact hte

lemma readyState_set (hf : s.sockets[i]? = some sk) (new : Socket) :
    { s with sockets := s.sockets.set i new }.readyState =
      if s.socket = some i then some new.readyState else s.readyState := by
  rw [readyState, readyState, current, current]
  cases s.socket with
  | none => rfl
  | some j =>
    by_cases here : j = i
    · have hin : i < s.sockets.length := (List.getElem?_eq_some_iff.mp hf).1
      simp [here, hin]
    · simp [here, Ne.symm here]

/-- To settle a promise adds a microtask where `reconnect` waits. -/
lemma link_settle (s : State) (i : Nat) (o : Outcome) : (s.settle i o).link =
      { s.link with microtasks := s.link.microtasks ++ if s.awaits i then [o] else [] } := by
  have hrd := readyState_settle s i o
  rw [link, hrd, settle, awaits]
  split
  · rfl
  · rw [append_nil]
    rfl

lemma link_reconnect_of_max (th : Option String)
    (hm : s.config.maxReconnectAttempts ≤ s.connectionState.reconnectAttempts) :
    (s.reconnect th).link = s.link := by
  rw [reconnect, if_pos hm]
  exact link_of_core (core_activateFallback s _)

lemma inProgress_reconnect (th : Option String)
    (below : s.connectionState.reconnectAttempts < s.config.maxReconnectAttempts) :
    (s.reconnect th).InProgress := by
  rw [reconnect, if_neg (Nat.not_le.mpr below)]
  dsimp only
  split
  · exact .inl (by simp)
  · rename_i t hs
    refine .inr ?_
    -- the socket that is waited for is the last one
    have hl : t.socket = some s.sockets.length ∧
        t.sockets = s.sockets ++ [⟨.connecting, false, false⟩] := by
      revert hs
      rw [connect]
      split
      · rintro ⟨⟩
      split
      · rintro ⟨⟩
      split
      · rintro ⟨⟩
      cases th with
      | some error => rintro ⟨⟩
      | none =>
        rintro ⟨⟩
        exact ⟨rfl, rfl⟩
    rw [readyState, current]
    simp [hl.1, hl.2]

/-- What `connect` leaves of the history, and when it opens a socket that was not asked for. -/
lemma history_connect (s : State) (url th : Option String) :
    (s.connect url th).1.history.wanted = s.history.wanted ∧
      ((s.connect url th).1.history.strays = 0 ↔ s.history.strays = 0 ∧
        (s.destroyed = false → orString url s.config.url ≠ "" →
          ¬ (s.isConnected = true ∧ s.connectionState.url = orString url s.config.url) →
            s.history.wanted = true)) := by
  rw [connect]
  split
  · rename_i hdd
    simp [hdd]
  split
  · rename_i hmi
    simp [hmi]
  split
  · rename_i hco
    simp [hco]
  · rename_i ha url hc
    cases hw : s.history.wanted <;> cases th <;> simp [hw, ha, url] at hc ⊢
    all_goals exact fun _ => hc

lemma strays_reconnect (s : State) (th : Option String) : (s.reconnect th).history.strays = 0 ↔
      s.history.strays = 0 ∧ (s.Opens → s.history.wanted = true) := by
  by_cases below : s.connectionState.reconnectAttempts < s.config.maxReconnectAttempts
  · obtain ⟨-, hs⟩ := history_connect s.counting none th
    obtain ⟨sockets, microtasks, hsm⟩ := reconnect_of_below th below
    rw [hsm]
    exact hs.trans (and_congr_right fun _ =>
      ⟨fun hh ho => hh ho.1 ho.2.2.1 ho.2.2.2, fun hh ha url hc => hh ⟨ha, below, url, hc⟩⟩)
  · have hsm := link_reconnect_of_max th (Nat.not_lt.mp below)
    rw [link, link, Link.mk.injEq] at hsm
    rw [hsm.2.2.2.1]
    exact ⟨fun none => ⟨none, fun ho => absurd ho.2.1 below⟩, fun hb => hb.1⟩

lemma tended_reconnect (s : State) (th : Option String) :
    (s.reconnect th).Tended ↔ s.history.strays = 0 ∧ (s.Opens → s.history.wanted = true) := by
  rw [← strays_reconnect s th]
  refine ⟨Tended.strays, fun hs => ?_⟩
  by_cases below : s.connectionState.reconnectAttempts < s.config.maxReconnectAttempts
  · exact ⟨fun _ idle => absurd (inProgress_reconnect th below) idle, hs⟩
  · have hsm := link_reconnect_of_max th (Nat.not_lt.mp below)
    have hk : s.Tended := by
      refine ⟨fun ha => absurd ha.2.2.2 below, ?_⟩
      exact ((strays_reconnect s th).mp hs).1
    exact hk.of_link hsm

lemma tended_connect (hte : s.Tended) (url th : Option String) :
    (s.want.connect url th).1.Tended ↔ s.Orderly (.connect url th) := by
  have hs : (s.want.connect url th).1.history.strays = 0 :=
    (history_connect s.want url th).2.mpr ⟨hte.strays, fun _ _ _ => rfl⟩
  rw [tended_iff]
  refine (and_iff_right hs).trans ?_
  rw [Orderly, connect]
  split
  · rename_i hdd
    exact ⟨fun _ has => absurd (hdd.symm.trans has.2.1) (by decide),
      fun _ has => absurd (hdd.symm.trans has.2.1) (by decide)⟩
  split
  · rename_i hmi
    refine imp_congr_right fun _ => ?_
    have he : orString url s.config.url = "" := hmi
    simp only [he, ne_eq, not_true_eq_false, false_and, true_or, and_true, false_or]
    exact Iff.rfl
  split
  · rename_i hco
    have ha : s.isConnected = true := hco.1
    exact ⟨fun _ _ => .inr (.inr (.inl ha)), fun _ _ => .inr (.inl ha)⟩
  · rename_i hn _
    cases th with
    | none =>
      refine ⟨fun _ _ => .inl ⟨hn, rfl⟩, fun _ _ => .inl (.inr ?_)⟩
      simp [readyState, current, want]
    | some error =>
      -- the timers are cleared where there is a socket
      have hg : orString url s.config.url ≠ "" := hn
      have sk : s.want.socket = s.socket := rfl
      simp only [sk, hg, ne_eq, reduceCtorEq, and_false, false_or]
      cases s.socket with
      | none =>
        simp only [Option.isSome_none, Bool.false_eq_true, if_false, and_true]
        exact Iff.rfl
      | some i =>
        simp only [Option.isSome_some, if_true, reduceCtorEq, and_false, or_false]
        refine ⟨fun hh has => ?_, fun hh has => ?_⟩
        · rcases hh has with hb | hco | tm
          · exact .inl hb
          · exact .inr hco
          · exact absurd rfl tm
        · rcases hh has with hb | hco
          · exact .inl hb
          · exact .inr (.inl hco)

lemma tended_of_unwanted (hu : s.history.wanted = false)
    (hs : s.history.strays = 0) : s.Tended := by
  refine ⟨fun ha => ?_, hs⟩
  rw [Asked, hu] at ha
  exact absurd ha.2.2.1 (by decide)

lemma history_disconnect (s : State) :
    s.disconnect.history = { s.history with wanted := false } := by
  rw [disconnect]
  cases s.socket <;> rfl

lemma tended_call (hte : s.Tended) (ht : s.call action = some t) : t.Tended ↔ s.Orderly action := by
  have hun : ∀ {u : State}, u.link = s.link → (u.Tended ↔ True) := fun hs =>
    iff_true_intro (hte.of_link hs)
  cases action with
  | connect url th =>
    cases ht
    exact tended_connect hte url th
  | disconnect =>
    cases ht
    refine iff_true_intro (tended_of_unwanted ?_ ?_)
    all_goals rw [history_disconnect]
    exact hte.strays
  | reconnect th =>
    cases ht
    refine (tended_reconnect s.want th).trans ?_
    exact iff_true_intro ⟨hte.strays, fun _ => rfl⟩
  | destroy =>
    cases ht
    have hh : s.destroy.history = { s.history with wanted := false } :=
      history_disconnect { s with destroyed := true }
    refine iff_true_intro (tended_of_unwanted ?_ ?_)
    all_goals rw [hh]
    exact hte.strays
  | send d fa =>
    cases ht
    exact hun (link_of_core (core_send s d fa))
  | sendHeartbeat fa =>
    cases ht
    exact hun (link_of_core (core_sendHeartbeat s fa))
  | init | clearQueue | setSessionContext _ _ =>
    cases ht
    exact hun rfl
  | _ => cases ht

lemma tended_resume (hte : s.Tended) {o : Outcome} {l : List Outcome}
    (hq : s.microtasks = o :: l) :
    (State.afterConnect { s with microtasks := l } o).Tended ↔ s.Orderly .resume := by
  cases o with
  | rejected =>
    have hp : s.Orderly .resume := by
      intro hs
      rw [hq] at hs
      cases hs
    refine iff_of_true ⟨fun _ _ _ => ?_, hte.strays⟩ hp
    exact Option.some_ne_none _
  | resolved =>
    cases l with
    | cons next l =>
      have hp : s.Orderly .resume := by
        intro hs
        rw [hq] at hs
        cases hs
      refine iff_of_true ⟨fun _ idle => ?_, hte.strays⟩ hp
      exact absurd (.inl (cons_ne_nil _ _)) idle
    | nil =>
      rw [tended_iff]
      refine (and_iff_right hte.strays).trans ?_
      constructor
      · intro hh _ hen ha hw hps
        rcases hh ⟨hen, ha, hw, hps⟩ with (hqq | hcg) | hco | tm
        · exact absurd rfl hqq
        · exact .inl (.inl hcg)
        · exact .inl (.inr hco)
        · exact .inr tm
      · rintro hh ⟨hen, ha, hw, hps⟩
        rcases hh hq hen ha hw hps with (hcg | hco) | tm
        · exact .inl (.inr hcg)
        · exact .inr (.inl hco)
        · exact .inr (.inr tm)

lemma link_onOpen (s : State) (fa : List Nat) : (s.onOpen fa).link = s.link := by
  rw [link_eq, core_onOpen]
  rfl

lemma link_onError (s : State) (t : String) : (s.onError t).link = s.link := rfl

/-- The timer is set again only when the manager thinks itself connected. -/
lemma tended_onClose (hst : s.history.strays = 0) : s.onClose.Tended ↔
      (s.Asked → s.connectionState.status = .connected ∨ s.InProgress ∨ s.isConnected = true) := by
  rw [tended_iff, onClose]
  split
  · rename_i hsc
    exact ⟨fun _ _ => .inl hsc.2.1, fun _ => ⟨hst, fun _ => .inr (.inr (Option.some_ne_none _))⟩⟩
  · rename_i hs
    refine (and_iff_right hst).trans (imp_congr_right fun has => ?_)
    obtain ⟨hen, ha, -⟩ : s.Asked := has
    have huc : ¬ s.connectionState.status = .connected := fun hco => hs ⟨hen, hco, by simp [ha]⟩
    refine Iff.trans ?_ (or_iff_right huc).symm
    exact or_congr_right (or_iff_left fun tm => tm rfl)

section

variable (hf : s.sockets[i]? = some sk)
include hf

lemma link_set (new : Socket) : { s with sockets := s.sockets.set i new }.link = { s.link with
        readyState := if s.socket = some i then some new.readyState else s.readyState } := by
  rw [link, readyState_set hf]
  rfl

lemma awaits_set {new : Socket} (hs : t.sockets = s.sockets.set i new)
    (hk : new.awaited = sk.awaited) : t.awaits i = s.awaits i := by
  have hin : i < s.sockets.length := (List.getElem?_eq_some_iff.mp hf).1
  rw [awaits, awaits, hs, hf, getElem?_set_self hin]
  simp [hk]

lemma tended_opened {fa : List Nat} (hte : s.Tended)
    (ht : s.deliver i sk (.opened i fa) = some t) : t.Tended := by
  rw [deliver, Option.ite_none_right_eq_some] at ht
  obtain ⟨-, ⟨⟩⟩ := ht
  rw [tended_iff_link] at hte ⊢
  obtain ⟨hs, hh⟩ := hte
  rw [link_settle, link_onOpen, link_set hf]
  refine ⟨hs, fun ha => ?_⟩
  rcases hh ha with hq | hcg | hco | tm
  · refine .inl ?_
    exact fun none => hq (append_eq_nil_iff.mp none).1
  · by_cases hhr : s.socket = some i
    · exact .inr (.inr (.inl (if_pos hhr)))
    · exact .inr (.inl ((if_neg hhr).trans hcg))
  · by_cases hhr : s.socket = some i
    · exact .inr (.inr (.inl (if_pos hhr)))
    · exact .inr (.inr (.inl ((if_neg hhr).trans hco)))
  · exact .inr (.inr (.inr tm))

lemma tended_error {tx : String} (hte : s.Tended) (hi : s.microtasks = [])
    (ht : s.deliver i sk (.error i tx) = some t) : t.Tended ↔ s.Orderly (.error i tx) := by
  rw [deliver, Option.ite_none_right_eq_some] at ht
  obtain ⟨-, ⟨⟩⟩ := ht
  have ha := awaits_set hf (t := onError { s with
    sockets := s.sockets.set i { sk with readyState := .closed } } tx) rfl rfl
  rw [tended_iff_link] at hte
  obtain ⟨hs, hh⟩ := hte
  rw [tended_iff_link, link_settle, ha, link_onError, link_set hf]
  refine (and_iff_right hs).trans (imp_congr_right fun has => ?_)
  have hq : s.link.microtasks = [] := hi
  by_cases hhr : s.socket = some i
  · rw [if_pos hhr, hq, nil_append]
    cases s.awaits i <;> simp [hhr, link]
  · refine iff_of_true ?_ fun hsm => absurd hsm hhr
    rw [if_neg hhr]
    rcases hh has with hpe | hcg | hco | tm
    · exact absurd hi hpe
    · exact .inr (.inl hcg)
    · exact .inr (.inr (.inl hco))
    · exact .inr (.inr (.inr tm))

lemma tended_closed (hte : s.Tended) (hi : s.microtasks = [])
    (ht : s.deliver i sk (.closed i) = some t) : t.Tended ↔ s.Orderly (.closed i) := by
  rw [deliver, Option.ite_none_right_eq_some] at ht
  obtain ⟨-, ⟨⟩⟩ := ht
  refine Iff.trans (tended_onClose ?_) (imp_congr_right fun _ => or_congr_right ?_)
  · exact hte.strays
  rw [InProgress, isConnected_iff, readyState_set hf, Live, isConnected_iff]
  by_cases hh : s.socket = some i <;> simp [hh, hi]

end

lemma link_heartbeatTick (s : State) (fa : Bool) : (s.heartbeatTick fa).link = s.link := by
  rw [heartbeatTick]
  split
  · exact Eq.trans (b := (s.sendHeartbeat fa).link) rfl (link_of_core (core_sendHeartbeat s fa))
  · rfl

lemma tended_heartbeatLapse (hte : s.Tended) (tm : Timer) (th : Option String) :
    (s.heartbeatLapse th).Tended ↔ s.Orderly (.heartbeatLapse tm th) := by
  rw [heartbeatLapse, Orderly]
  split
  · rename_i hm
    refine (tended_reconnect _ th).trans ?_
    exact ⟨fun hb _ ho => hb.2 ho, fun hh => ⟨hte.strays, fun ho => hh hm ho⟩⟩
  · rename_i few
    refine iff_of_true (hte.of_link ?_) fun hm => absurd hm few
    rfl

lemma tended_reconnectTimer (hte : s.Tended) (hi : s.microtasks = []) (throws : Option String) :
    (reconnectTimer { s with timers := { s.timers with reconnectTimeout := none } }
      throws).Tended ↔ s.Orderly (.reconnectTimer throws) := by
  rw [reconnectTimer, Orderly]
  split
  · rename_i hc
    refine (tended_reconnect _ throws).trans ?_
    exact ⟨fun hb => ⟨fun _ hco => absurd hco hc.2, fun ho _ => hb.2 ho⟩,
      fun hh => ⟨hte.strays, fun ho => hh.2 ho hc.2⟩⟩
  · rename_i hs
    rw [tended_iff]
    refine (and_iff_right hte.strays).trans ?_
    constructor
    · refine fun hh => ⟨fun has hco => ?_, fun ho huc => ?_⟩
      · rcases hh has with (hq | hcg) | open' | tm
        · exact absurd hi hq
        · exact .inl hcg
        · exact .inr open'
        · exact absurd rfl tm
      · exact absurd ⟨by simp [ho.1], huc⟩ hs
    · rintro ⟨hh, -⟩ has
      have hco : s.connectionState.status = .connected := by
        by_contra huc
        have ha : s.destroyed = false := has.2.1
        exact hs ⟨by simp [ha], huc⟩
      rcases hh has hco with hcg | open'
      · exact .inl (.inr hcg)
      · exact .inr (.inl open')

lemma awaits_closeSocket (s : State) (i j : Nat) : (s.closeSocket j).awaits i = s.awaits i := by
  rw [awaits, awaits, closeSocket, getElem?_modify]
  cases s.sockets[i]? with
  | none => rfl
  | some sk =>
    by_cases hh : j = i
    · simp only [hh, if_true, Option.map_eq_map, Option.map_some, Option.any_some]
      split <;> rfl
    · simp [hh]

lemma link_closeSocket {j : Nat} (hh : s.socket = some j) (hcg : s.readyState = some .connecting) :
    (s.closeSocket j).link = { s.link with readyState := some .closing } := by
  have hrd : (s.closeSocket j).readyState = some .closing := by
    rw [readyState, current, hh] at hcg
    rw [readyState, current, closeSocket, hh]
    obtain ⟨sk, hf, st⟩ := Option.map_eq_some_iff.mp hcg
    simp only [Option.bind_some] at hf
    simp [hf, st]
  rw [link, hrd]
  rfl

section

variable (hte : s.Tended) (idle : s.microtasks = [])
include hte idle

lemma tended_connectLapse (tm : Timer) (i : Nat) :
    (s.connectLapse i).Tended ↔ s.Orderly (.connectLapse tm i) := by
  rw [connectLapse]
  split
  · rename_i j hh
    have hrd : s.readyState = (s.sockets[j]?).map Socket.readyState := by
      rw [readyState, current, hh, Option.bind_some]
    split
    · rename_i hf
      have hcg : s.readyState = some .connecting := by
        obtain ⟨sk, hin, st⟩ := (Option.any_eq_true _ _).mp hf
        rw [hrd, hin]
        simpa using st
      rw [tended_iff_link, link_settle, link_closeSocket hh hcg, awaits_closeSocket]
      refine (and_iff_right hte.strays).trans (imp_congr_right fun _ => ?_)
      cases s.awaits i <;> simp [hcg, link, idle]
    · rename_i x
      refine iff_of_true hte fun _ hcg => absurd ?_ x
      rw [hrd] at hcg
      obtain ⟨sk, hf, st⟩ := Option.map_eq_some_iff.mp hcg
      simp [hf, st]
  · rename_i none
    refine iff_of_true hte fun _ hcg => ?_
    rw [readyState, current, none] at hcg
    cases hcg

lemma tended_fire (ht : s.fire action = some t) : t.Tended ↔ s.Orderly action := by
  cases action with
  | heartbeat fa =>
    obtain ⟨tm, -, a⟩ := fire_heartbeat ht
    rw [a]
    refine iff_true_intro (hte.of_link ?_)
    exact link_heartbeatTick s fa
  | heartbeatLapse tm th =>
    obtain ⟨-, ⟨⟩⟩ := Option.ite_none_right_eq_some.mp ht
    refine Iff.trans (tended_heartbeatLapse ?_ tm th) Iff.rfl
    exact hte.of_link rfl
  | reconnectTimer th =>
    rw [fire_reconnectTimer ht]
    exact tended_reconnectTimer hte idle th
  | queueProcessor fa =>
    obtain ⟨tm, a⟩ := fire_queueProcessor ht
    rw [a]
    refine iff_true_intro (hte.of_link ?_)
    exact Eq.trans (b := (s.processQueue fa).link) rfl (link_of_core (core_processQueue s fa))
  | connectLapse tm i =>
    obtain ⟨-, ⟨⟩⟩ := Option.ite_none_right_eq_some.mp ht
    refine Iff.trans (tended_connectLapse ?_ ?_ tm i) Iff.rfl
    · exact hte.of_link rfl
    · exact idle
  | _ => cases ht

lemma tended_deliver (hf : s.sockets[i]? = some sk) (hs : action.source = some i)
    (ht : s.deliver i sk action = some t) : t.Tended ↔ s.Orderly action := by
  cases action with
  | opened j fa =>
    cases hs
    exact iff_true_intro (tended_opened hf hte ht)
  | message j ig =>
    obtain ⟨-, ⟨⟩⟩ := Option.ite_none_right_eq_some.mp ht
    exact iff_true_intro (hte.of_link (link_of_core (core_onMessage s ig)))
  | error j text =>
    cases hs
    exact tended_error hf hte idle ht
  | closed j =>
    cases hs
    exact tended_closed hf hte idle ht
  | _ => cases hs

end

lemma tended_act (hte : s.Tended) (ht : s.act action = some t) : t.Tended ↔ s.Orderly action := by
  cases acted_of_act ht with
  | call _ hc => exact tended_call hte hc
  | resume hh hq a =>
    rw [hh, a]
    exact tended_resume hte hq
  | event idle hs hf hdl => exact tended_deliver hte idle hf hs hdl
  | timer idle _ hfr => exact tended_fire hte idle hfr

end State

/-- In the runs whose steps all meet the condition, and in no others, every state on the way has the
timer that it needs, and no socket is opened after `disconnect`. -/
theorem tended_iff_orderly (options : Options) {t : State} {labels : List Label} :
    Run State.step (fun s _ => s.Tended) (create options) labels t ∧ t.Tended ↔
      Run State.step (fun s label => s.Orderly label.action) (create options) labels t := by
  refine Run.throughout_iff (fun _ => True) State.Tended (fun _ _ _ _ _ _ => trivial) ?_ trivial
    (State.tended_of_unwanted rfl rfl)
  intro s label t _ ht htk
  obtain ⟨-, ha⟩ := Option.ite_none_right_eq_some.mp htk
  refine Iff.trans (State.tended_act ?_ ha) ?_
  · exact ht.of_link rfl
  · cases label.action <;> exact Iff.rfl

deriving instance Decidable for State.InProgress, State.Live, State.Asked, State.Opens

instance (s : State) (action : Action) : Decidable (s.Orderly action) := by
  induction action using Action.casesOn <;> dsimp only [State.Orderly] <;> infer_instance

def remote : Options := { url := some "server" }

/-- The socket closes, the timer fires and another socket opens. -/
def regained : List Label :=
  [⟨0, .connect none none⟩, ⟨10, .opened 0 []⟩, ⟨20, .closed 0⟩, ⟨9000, .reconnectTimer none⟩,
    ⟨9010, .opened 1 []⟩, ⟨9010, .resume⟩]

theorem tended_iff_orderly_regained : ∃ t,
    Run State.step (fun s label => s.Orderly label.action) (create remote) regained t ∧
      t.isConnected = true ∧ t.metrics.reconnections = 1 ∧
      Run State.step (fun s _ => s.Tended) (create remote) regained t ∧ t.Tended :=
  exists_run₂ (by decide +kernel) fun _ run _ _ => (tended_iff_orderly remote).mpr run

/-- The socket fails: its error comes before its close. -/
def lost : List Label :=
  [⟨0, .connect none none⟩, ⟨10, .opened 0 []⟩, ⟨20, .error 0 ""⟩, ⟨20, .closed 0⟩]

theorem lost_has_no_timer : ∃ t,
    Run State.step Always (create remote) lost t ∧ t.Asked ∧ ¬ t.InProgress ∧
      t.isConnected = false ∧ t.timers.reconnectTimeout = none :=
  exists_run_seen (by decide +kernel)

end WebSocketManager
