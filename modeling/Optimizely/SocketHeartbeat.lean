import Optimizely.TransitionRuns
import Optimizely.WebSocketManager

/-!
# Heartbeats

Each heartbeat sets a timeout that counts it as missed, and forgets what was missed before. The
timeout passes before the next heartbeat, so no more than one is ever counted.
-/

namespace WebSocketManager

open TransitionRuns Option

namespace State

/-- On an open connection timers fire and messages arrive. The interval does not overtake a timeout
that is due before it. -/
def InOrder (s : State) (label : Label) : Prop :=
  match label.action with
  | .heartbeat _ => ∀ interval ∈ s.timers.heartbeatInterval,
      ∀ timer ∈ s.timers.heartbeatTimeouts, interval.due ≤ timer.due
  | .heartbeatLapse _ _ | .reconnectTimer _ | .queueProcessor _ | .connectLapse _ _ => True
  | .message i _ => s.socket = some i
  | _ => False

/-- When `maxMissed` heartbeats had been sent without a pong, and the timeout of one of them passed,
`reconnect` was called. -/
def Detected (s t : State) : Prop :=
  t.history.overdue = true → s.history.heartbeatCalls < t.history.heartbeatCalls

/-- No timeout passes when `maxMissed` heartbeats have had no pong. -/
def Answered (s : State) (label : Label) : Prop :=
  match label.action with
  | .heartbeatLapse _ _ => s.history.unanswered < s.config.heartbeatConfig.maxMissed
  | _ => True

/-- At most one timeout is set. It is due before the next heartbeat, and nothing has been counted
since its heartbeat was sent. -/
structure Beating (calls : Nat) (s : State) : Prop where
  connected : s.isConnected = true
  status : s.connectionState.status = .connected
  larger : s.config.heartbeatConfig.timeout < s.config.heartbeatConfig.interval
  timeouts : s.timers.heartbeatTimeouts = [] ∨ ∃ timer, s.timers.heartbeatTimeouts = [timer] ∧
    s.heartbeatsMissed = 0 ∧ ∀ interval ∈ s.timers.heartbeatInterval, timer.due < interval.due
  calls : s.history.heartbeatCalls = calls

lemma isConnected_eq (s : State) : s.isConnected =
    (s.core.socket.bind fun i => s.core.sockets[i]?).any fun socket =>
      socket.readyState = .opened := rfl

variable {s t : State} {calls : Nat} {l : Label}

lemma isConnected_of_core (hs : t.core = s.core) : t.isConnected = s.isConnected := by
  rw [isConnected_eq, isConnected_eq, hs]

lemma Beating.of_core (hbe : s.Beating calls)
    (hs : t.core = s.core) (hm : t.heartbeatsMissed = s.heartbeatsMissed ∨
      t.heartbeatsMissed = 0) (h : t.history.heartbeatCalls = s.history.heartbeatCalls) :
    t.Beating calls := by
  have ht : t.timers = s.timers := congrArg Core.timers hs
  have c : t.config = s.config := congrArg Core.config hs
  refine ⟨?_, ?_, ?_, ?_, h.trans hbe.calls⟩
  · rw [isConnected_of_core hs]
    exact hbe.connected
  · exact (congrArg Core.status hs).trans hbe.status
  · rw [c]
    exact hbe.larger
  · rw [ht]
    rcases hbe.timeouts with none | ⟨tm, one, hu, hea⟩
    · exact .inl none
    · refine .inr ⟨tm, one, ?_, hea⟩
      rcases hm with hk | hr
      · exact hk.trans hu
      · exact hr

lemma history_send (s : State) (d : Draft) (fa : Bool) : (s.send d fa).1.history = s.history := by
  rw [send]
  split
  · rfl
  · split <;> rfl

lemma history_processQueue (s : State) (fa : List Nat) : (s.processQueue fa).history = s.history ∧
      (s.processQueue fa).heartbeatsMissed = s.heartbeatsMissed := by
  rw [processQueue]
  split <;> exact ⟨rfl, rfl⟩

lemma history_onMessage (s : State) (m : Incoming) :
    ((s.onMessage m).heartbeatsMissed = s.heartbeatsMissed ∨ (s.onMessage m).heartbeatsMissed = 0) ∧
      (s.onMessage m).history.heartbeatCalls = s.history.heartbeatCalls ∧
      (s.onMessage m).history.overdue = s.history.overdue := by
  cases m with
  | heartbeat p timestamp =>
    refine ⟨?_, rfl, rfl⟩
    simp only [onMessage, handleHeartbeatResponse]
    cases s.pendingPings.get? p with
    | none => exact .inl rfl
    | some sendTime => exact .inr rfl
  | ack mi => cases mi <;> exact ⟨.inl rfl, rfl, rfl⟩
  | _ => exact ⟨.inl rfl, rfl, rfl⟩

lemma sendHeartbeat_eq (hco : s.isConnected = true) (fa : Bool) :
    (s.sendHeartbeat fa).heartbeatsMissed = 0 ∧ (s.sendHeartbeat fa).history =
        { s.history with unanswered := s.history.unanswered + 1 } := by
  rw [sendHeartbeat, if_neg (not_not.mpr hco)]
  refine ⟨rfl, ?_⟩
  simp only [history_send]

section

variable (hbe : s.Beating calls)
include hbe

/-- A heartbeat is sent when the timeout of the one before has passed. -/
lemma beating_heartbeat {fa : Bool} (hin : ∀ i ∈ s.timers.heartbeatInterval,
      ∀ tm ∈ s.timers.heartbeatTimeouts, i.due ≤ tm.due) (hf : s.fire (.heartbeat fa) = some t) :
    t.Beating calls ∧ t.history.overdue = s.history.overdue := by
  obtain ⟨first, i, ha⟩ := fire_heartbeat hf
  have hp : s.timers.heartbeatTimeouts = [] := by
    rcases hbe.timeouts with none | ⟨tm, one, -, hea⟩
    · exact none
    · have before := hea first i
      have ha := hin first i tm (by simp [one])
      omega
  have hs := core_sendHeartbeat s fa
  obtain ⟨hm, h⟩ := sendHeartbeat_eq hbe.connected fa
  have now : (s.sendHeartbeat fa).now = s.now := congrArg Core.now hs
  have c : (s.sendHeartbeat fa).config = s.config := congrArg Core.config hs
  have ht : (s.sendHeartbeat fa).timers = s.timers := congrArg Core.timers hs
  rw [ha, heartbeatTick, if_pos hbe.connected]
  let tm : Timer := ⟨(s.sendHeartbeat fa).nextTimer,
    (s.sendHeartbeat fa).now + (s.sendHeartbeat fa).config.heartbeatConfig.timeout⟩
  refine ⟨⟨?_, ?_, ?_, .inr ⟨tm, ?_, hm, ?_⟩, ?_⟩, ?_⟩
  · exact (isConnected_of_core hs).trans hbe.connected
  · exact (congrArg Core.status hs).trans hbe.status
  · dsimp only
    rw [c]
    exact hbe.larger
  · dsimp only
    rw [ht, hp]
    rfl
  · intro next hh
    cases hh
    have larger := hbe.larger
    have due : tm.due = s.now + s.config.heartbeatConfig.timeout := by
      simp only [tm, now, c]
    dsimp only
    omega
  · dsimp only
    rw [h]
    exact hbe.calls
  · dsimp only
    rw [h]

/-- A timeout passes, and its heartbeat is the only one that is counted. -/
lemma beating_heartbeatLapse {tm : Timer} {th : Option String}
    (hf : s.fire (.heartbeatLapse tm th) = some t) : t.Beating calls ∧ t.history.overdue =
      (s.history.overdue || s.config.heartbeatConfig.maxMissed ≤ s.history.unanswered) := by
  obtain ⟨⟨mem, -⟩, ⟨⟩⟩ := ite_none_right_eq_some.mp hf
  rcases hbe.timeouts with none | ⟨only, one, hu, -⟩
  · rw [none] at mem
    cases mem
  · rw [one, List.mem_singleton] at mem
    rw [heartbeatLapse, if_neg]
    · refine ⟨{ hbe with timeouts := .inl ?_ }, rfl⟩
      rw [one, mem]
      simp
    · simp [hu, WebSocketConfig.heartbeatConfig]

lemma beating_fire (hi : s.InOrder l) (hfr : s.fire l.action = some t) : t.Beating calls ∧
      (t.history.overdue = false ↔ s.history.overdue = false ∧ s.Answered l) := by
  obtain ⟨now, a⟩ := l
  cases a with
  | heartbeat fa =>
    obtain ⟨next, hs⟩ := beating_heartbeat hbe hi hfr
    rw [hs]
    exact ⟨next, (and_iff_left trivial).symm⟩
  | heartbeatLapse tm th =>
    obtain ⟨next, ho⟩ := beating_heartbeatLapse hbe hfr
    refine ⟨next, ?_⟩
    rw [ho, Bool.or_eq_false_iff, decide_eq_false_iff_not, Nat.not_le]
    exact Iff.rfl
  | reconnectTimer th =>
    rw [fire_reconnectTimer hfr, reconnectTimer, if_neg fun hc => hc.2 hbe.status]
    exact ⟨{ hbe with }, (and_iff_left trivial).symm⟩
  | queueProcessor fa =>
    obtain ⟨tm, af⟩ := fire_queueProcessor hfr
    obtain ⟨h, hm⟩ := history_processQueue s fa
    have next := hbe.of_core (core_processQueue s fa) (.inl hm) (congrArg History.heartbeatCalls h)
    rw [af]
    refine ⟨{ next with }, ?_⟩
    rw [h]
    exact (and_iff_left trivial).symm
  | connectLapse tm i =>
    obtain ⟨-, ⟨⟩⟩ := ite_none_right_eq_some.mp hfr
    have hop : ∀ j, s.socket = some j →
        ¬ ((s.sockets[j]?).any fun sk => sk.readyState = .connecting) = true := by
      intro j hh hcg
      have hco := hbe.connected
      rw [isConnected, current, hh, bind_some] at hco
      cases hf : s.sockets[j]? with
      | none =>
        rw [hf] at hco
        cases hco
      | some sk =>
        simp only [hf, any_some, decide_eq_true_eq] at hco hcg
        rw [hco] at hcg
        cases hcg
    have hun : connectLapse { s with
        timers := { s.timers with
          connectTimeouts := s.timers.connectTimeouts.erase (tm, i) } } i =
        { s with
          timers := { s.timers with
            connectTimeouts := s.timers.connectTimeouts.erase (tm, i) } } := by
      rw [connectLapse]
      split
      · rename_i j hh
        exact if_neg (hop j hh)
      · rfl
    rw [hun]
    exact ⟨{ hbe with }, (and_iff_left trivial).symm⟩
  | _ => cases hfr

lemma beating_act (hi : s.InOrder l) (ht : s.act l.action = some t) : t.Beating calls ∧
      (t.history.overdue = false ↔ s.history.overdue = false ∧ s.Answered l) := by
  obtain ⟨now, a⟩ := l
  cases acted_of_act ht with
  | call _ hc => cases a <;> first | exact hi.elim | cases hc
  | resume hh _ _ =>
    cases hh
    exact hi.elim
  | event _ hs _ hdl =>
    cases a with
    | message i ig =>
      obtain ⟨-, ⟨⟩⟩ := ite_none_right_eq_some.mp hdl
      obtain ⟨hm, calls, ho⟩ := history_onMessage s ig
      rw [ho]
      exact ⟨hbe.of_core (core_onMessage s ig) hm calls, (and_iff_left trivial).symm⟩
    | opened | error | closed => exact hi.elim
    | _ => cases hs
  | timer _ _ hf => exact beating_fire hbe hi hf

lemma beating_step (hi : s.InOrder l) (ht : s.step l = some t) : t.Beating calls ∧
      (t.history.overdue = false ↔ s.history.overdue = false ∧ s.Answered l) := by
  obtain ⟨-, ha⟩ := ite_none_right_eq_some.mp ht
  have hl : State.Beating calls { s with now := l.now } := { hbe with }
  exact beating_act (s := { s with now := l.now }) hl hi ha

end

lemma isConnected_settle (s : State) (i : Nat) (o : Outcome) :
    (s.settle i o).isConnected = s.isConnected :=
  isConnected_congr (readyState_settle s i o)

lemma settle_eq (s : State) (i : Nat) (o : Outcome) :
    (s.settle i o).connectionState = s.connectionState ∧
      (s.settle i o).config = s.config ∧ (s.settle i o).timers = s.timers ∧
      (s.settle i o).history = s.history := by
  rw [settle]
  split <;> exact ⟨rfl, rfl, rfl, rfl⟩

lemma overdue_onOpen (s : State) (fa : List Nat) : (s.onOpen fa).history.overdue = false := by
  exact (congrArg History.overdue (history_processQueue _ fa).1).trans rfl

/-- The socket of the manager opens while no timeout of an earlier heartbeat is left. -/
lemma beating_opened {i : Nat} {fa : List Nat} {now : Nat}
    (opening : s.step ⟨now, .opened i fa⟩ = some t) (current : s.socket = some i)
    (passed : s.timers.heartbeatTimeouts = [])
    (larger : s.config.heartbeatConfig.timeout < s.config.heartbeatConfig.interval) :
    t.Beating t.history.heartbeatCalls ∧ t.history.overdue = false := by
  obtain ⟨-, acted⟩ := ite_none_right_eq_some.mp opening
  obtain ⟨-, hdl⟩ := ite_none_right_eq_some.mp acted
  obtain ⟨sk, hf, hdl⟩ := bind_eq_some_iff.mp hdl
  obtain ⟨-, ⟨⟩⟩ := ite_none_right_eq_some.mp hdl
  obtain ⟨state, c, timers, history⟩ := settle_eq (onOpen { s with
    now := now
    sockets := s.sockets.set i { sk with readyState := .opened } } fa) i .resolved
  have core := core_onOpen { s with
    now := now
    sockets := s.sockets.set i { sk with readyState := .opened } } fa
  refine ⟨⟨?_, ?_, ?_, .inl ?_, rfl⟩, ?_⟩
  · rw [isConnected_settle, isConnected_eq, core]
    have hin : i < s.sockets.length := (List.getElem?_eq_some_iff.mp hf).1
    simp [State.core, current, hin]
  · rw [state]
    exact congrArg Core.status core
  · rw [c]
    rw [show (onOpen _ fa).config = s.config from congrArg Core.config core]
    exact larger
  · rw [timers]
    rw [show (onOpen _ fa).timers = _ from congrArg Core.timers core]
    exact passed
  · rw [history]
    exact overdue_onOpen _ fa

end State

/-- From the opening of a socket on, in any schedule: missed heartbeats never call `reconnect`. They
would have to just in the runs in which a timeout passes when `maxMissed` heartbeats have had no
pong. -/
theorem detected_iff_answered {s t : State} {labels : List Label} {before : State} {i : Nat}
    {fails : List Nat} {now : Nat} (opening : before.step ⟨now, .opened i fails⟩ = some s)
    (current : before.socket = some i) (passed : before.timers.heartbeatTimeouts = [])
    (larger : before.config.heartbeatConfig.timeout < before.config.heartbeatInterval)
    (run : Run State.step State.InOrder s labels t) :
    t.history.heartbeatCalls = s.history.heartbeatCalls ∧ (s.Detected t ↔
        Run State.step (fun s label => s.InOrder label ∧ s.Answered label) s labels t) := by
  obtain ⟨hb, hu⟩ := State.beating_opened opening current passed larger
  have hl := run.invariant (State.Beating s.history.heartbeatCalls)
    (fun _ _ _ hb hi ht => (State.beating_step hb hi ht).1) hb
  refine ⟨hl.calls, ?_⟩
  have hw := run.iff_within_base (State.Beating s.history.heartbeatCalls)
    (fun s => s.history.overdue = false)
    (fun _ _ _ hb hi ht => (State.beating_step hb hi ht).1)
    (fun _ _ _ hb hi ht => (State.beating_step hb hi ht).2)
    hb hu
  rw [← hw, State.Detected, hl.calls]
  cases t.history.overdue <;> simp

instance (s : State) (label : Label) : Decidable (s.InOrder label) := by
  obtain ⟨now, action⟩ := label
  cases action <;> dsimp only [State.InOrder] <;> infer_instance

instance (s : State) (label : Label) : Decidable (s.Answered label) := by
  obtain ⟨now, action⟩ := label
  cases action <;> dsimp only [State.Answered] <;> infer_instance

def connecting : List Label := [⟨0, .connect none none⟩]

/-- The server answers the first heartbeat and the third. -/
def answering : List Label :=
  [⟨30010, .heartbeat false⟩, ⟨30020, .message 0 (.heartbeat 0 30010)⟩,
    ⟨35010, .heartbeatLapse ⟨2, 35010⟩ none⟩, ⟨60010, .heartbeat false⟩,
    ⟨65010, .heartbeatLapse ⟨3, 65010⟩ none⟩, ⟨90010, .heartbeat false⟩,
    ⟨90020, .message 0 (.heartbeat 4 90010)⟩, ⟨95010, .heartbeatLapse ⟨4, 95010⟩ none⟩]

/-- No heartbeat is answered. -/
def silent : List Label :=
  [⟨30010, .heartbeat false⟩, ⟨35010, .heartbeatLapse ⟨2, 35010⟩ none⟩,
    ⟨60010, .heartbeat false⟩, ⟨65010, .heartbeatLapse ⟨3, 65010⟩ none⟩,
    ⟨90010, .heartbeat false⟩, ⟨95010, .heartbeatLapse ⟨4, 95010⟩ none⟩]

def distant : Options := { url := some "server" }

/-- The socket opens, and a schedule follows. -/
def afterOpening (labels : List Label) : Option (State × State × State) :=
  (exec State.step (create distant) connecting).bind fun before =>
    (before.step ⟨10, .opened 0 []⟩).bind fun s =>
      (execWithin State.step State.InOrder s labels).map fun t => (before, s, t)

lemma runs_of_afterOpening {ls : List Label} {before s t : State}
    (he : afterOpening ls = some (before, s, t)) :
    Run State.step Always (create distant) connecting before ∧
      before.step ⟨10, .opened 0 []⟩ = some s ∧ Run State.step State.InOrder s ls t := by
  obtain ⟨_, first, r⟩ := bind_eq_some_iff.mp he
  obtain ⟨_, ho, r⟩ := bind_eq_some_iff.mp r
  obtain ⟨_, l, hs⟩ := map_eq_some_iff.mp r
  cases hs
  exact ⟨run_of_exec first, ho, run_of_execWithin l⟩

theorem detected_iff_answered_answering : ∃ before s t,
    Run State.step Always (create distant) connecting before ∧
      before.step ⟨10, .opened 0 []⟩ = some s ∧ Run State.step State.InOrder s answering t ∧
      t.outbox.messagesSet = 3 ∧ t.history.heartbeatCalls = s.history.heartbeatCalls ∧
      Run State.step (fun s label => s.InOrder label ∧ s.Answered label) s answering t := by
  have hr : (afterOpening answering).map (fun (before, _, t) =>
      ((before.socket, before.timers.heartbeatTimeouts, before.config.heartbeatInterval),
        t.outbox.messagesSet, t.history.overdue)) = some ((some 0, [], 30000), 3, false) := by
    decide +kernel
  obtain ⟨⟨before, s, t⟩, he, sn⟩ := map_eq_some_iff.mp hr
  simp only [Prod.mk.injEq] at sn
  obtain ⟨⟨sc, hp, interval⟩, hs, hov⟩ := sn
  obtain ⟨first, ho, run⟩ := runs_of_afterOpening he
  have hl : before.config.heartbeatConfig.timeout < before.config.heartbeatInterval := by
    have timeout : before.config.heartbeatConfig.timeout = 5000 := rfl
    omega
  obtain ⟨calls, hw⟩ := detected_iff_answered ho sc hp hl run
  refine ⟨before, s, t, first, ho, run, hs, calls, hw.mp fun hm => ?_⟩
  rw [hov] at hm
  cases hm

theorem silent_undetected : ∃ before s t, Run State.step Always (create distant) connecting before ∧
      before.step ⟨10, .opened 0 []⟩ = some s ∧ Run State.step State.InOrder s silent t ∧
      t.isConnected = true ∧ t.history.unanswered = 3 ∧ ¬ s.Detected t := by
  refine ⟨_, _, _, run_of_exec rfl, rfl, run_of_execWithin rfl, rfl, rfl, fun hdt => ?_⟩
  exact absurd (hdt rfl) (by decide)

end WebSocketManager
