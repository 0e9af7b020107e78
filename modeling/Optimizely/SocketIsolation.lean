import Optimizely.TransitionRuns
import Optimizely.WebSocketManager

/-!
# Old sockets

A socket that `connect` has replaced keeps its handlers, which act on the manager as those of the
new one do. The interval that processes the queue is set by `init` alone, and cleared with the other
timers whenever a connection is cleaned up.
-/

namespace WebSocketManager

open TransitionRuns Option

namespace State

/-- Status, timers, queue and metrics. A timer that is set has a new number. -/
structure Surface where
  status : Status
  heartbeatInterval : Option Timer
  heartbeatTimeouts : List Timer
  reconnectTimeout : Option Timer
  queueProcessorInterval : Option Timer
  connectTimeouts : List (Timer × Nat)
  nextTimer : Nat
  messageQueue : List QueuedMessage
  messagesSet : Nat
  metrics : Metrics

def surface (s : State) : Surface :=
  ⟨s.connectionState.status, s.timers.heartbeatInterval, s.timers.heartbeatTimeouts,
    s.timers.reconnectTimeout, s.timers.queueProcessorInterval, s.timers.connectTimeouts,
    s.nextTimer, s.outbox.messageQueue, s.outbox.messagesSet, s.metrics⟩

/-- The event of a socket that is not that of the manager disturbs nothing. -/
def Isolated (s : State) (label : Label) : Prop :=
  ∀ i t, label.action.source = some i → s.socket ≠ some i → s.step label = some t →
    t.surface = s.surface

/-- `init` was called and `destroy` was not. -/
def Running (s : State) : Prop := s.history.initialized = true ∧ s.destroyed = false

def Active (s : State) : Prop := s.Running → s.timers.queueProcessorInterval ≠ none

/-- `connect` opens no socket, or the first one. -/
def Leaves (s : State) (url : Option String) : Prop :=
  orString url s.config.url = "" ∨
    (s.isConnected = true ∧ s.connectionState.url = orString url s.config.url) ∨ s.socket = none

/-- `reconnect` opens no socket, or the first one. -/
def LeavesAgain (s : State) : Prop :=
  s.config.maxReconnectAttempts ≤ s.connectionState.reconnectAttempts ∨ s.Leaves none

/-- There is nothing that a close event changes. -/
def Rests (s : State) : Prop :=
  s.connectionState.status = .disconnected ∧ s.timers.heartbeatInterval = none ∧
    (∀ timer ∈ s.timers.heartbeatTimeouts, s.timers.heartbeatTimeout ≠ some timer.id) ∧
    s.timers.reconnectTimeout = none ∧ s.timers.queueProcessorInterval = none

def Apart (s : State) : Action → Prop
  | .opened i _ => s.socket = some i
  | .message i incoming => s.socket = some i ∨ incoming = .unreadable
  | .error i _ => s.socket = some i
  | .closed i => ¬ s.Running ∧ (s.socket = some i ∨ s.Rests)
  | .disconnect => ¬ s.Running
  | .connect url _ => s.Running → s.Leaves url
  | .reconnect _ => s.Running → s.LeavesAgain
  | .reconnectTimer _ => s.Running → s.connectionState.status ≠ .connected → s.LeavesAgain
  | .heartbeatLapse _ _ => s.Running →
      s.config.heartbeatConfig.maxMissed ≤ s.heartbeatsMissed + 1 → s.LeavesAgain
  | _ => True

structure Processor where
  initialized : Bool
  destroyed : Bool
  interval : Option Timer

def processor (s : State) : Processor :=
  ⟨s.history.initialized, s.destroyed, s.timers.queueProcessorInterval⟩

lemma processor_eq (s : State) : s.processor =
    ⟨s.core.initialized, s.core.destroyed, s.core.timers.queueProcessorInterval⟩ := rfl

variable {s t : State} {action : Action}

lemma processor_of_core (hs : t.core = s.core) : t.processor = s.processor := by
  rw [processor_eq, processor_eq, hs]

lemma active_iff (s : State) : s.Active ↔ (s.processor.initialized = true ∧
    s.processor.destroyed = false → s.processor.interval ≠ none) := Iff.rfl

lemma Active.of_processor (hac : s.Active) (hs : t.processor = s.processor) : t.Active := by
  rw [active_iff] at hac ⊢
  rw [hs]
  exact hac

lemma active_of_cleared (hc : t.processor = ⟨s.history.initialized, s.destroyed, none⟩) :
    t.Active ↔ ¬ s.Running := by
  rw [active_iff, hc]
  exact ⟨fun hh hr => hh hr rfl, fun hi hr => absurd hr hi⟩

lemma processor_settle (s : State) (i : Nat) (o : Outcome) :
    (s.settle i o).processor = s.processor := by
  rw [settle]
  split <;> rfl

lemma processor_onOpen (s : State) (fa : List Nat) : (s.onOpen fa).processor = s.processor := by
  rw [processor_eq, core_onOpen]
  rfl

lemma processor_onClose (s : State) :
    s.onClose.processor = ⟨s.history.initialized, s.destroyed, none⟩ := by
  rw [onClose]
  split <;> rfl

lemma processor_heartbeatTick (s : State) (fa : Bool) :
    (s.heartbeatTick fa).processor = s.processor := by
  rw [heartbeatTick]
  split
  · exact Eq.trans (b := (s.sendHeartbeat fa).processor) rfl
      (processor_of_core (core_sendHeartbeat s fa))
  · rfl

lemma active_connect (hac : s.Active) (url th : Option String) :
    (s.connect url th).1.Active ↔ (s.Running → s.Leaves url) := by
  rw [connect]
  split
  · rename_i hdd
    refine iff_of_true hac fun hr => ?_
    exact absurd (hdd.symm.trans hr.2) (by decide)
  split
  · rename_i hmi
    exact iff_of_true hac fun _ => .inl hmi
  split
  · rename_i hco
    exact iff_of_true hac fun _ => .inr (.inl hco)
  · rename_i g hc
    cases sk : s.socket with
    | none =>
      refine iff_of_true (hac.of_processor ?_) fun _ => .inr (.inr sk)
      cases th <;> rfl
    | some i =>
      refine Iff.trans (active_of_cleared (s := s) ?_) ?_
      · cases th <;> rfl
      · refine forall_congr' fun _ => iff_of_false id ?_
        rintro (hmi | hco | none)
        · exact g hmi
        · exact hc hco
        · rw [sk] at none
          cases none

lemma active_reconnect (hac : s.Active) (th : Option String) :
    (s.reconnect th).Active ↔ (s.Running → s.LeavesAgain) := by
  by_cases hm : s.config.maxReconnectAttempts ≤ s.connectionState.reconnectAttempts
  · rw [reconnect, if_pos hm]
    refine iff_of_true (hac.of_processor ?_) fun _ => .inl hm
    exact processor_of_core (core_activateFallback s _)
  · have hco := active_connect (s := s.counting) hac none th
    have hl : (s.Running → s.LeavesAgain) ↔ (s.Running → s.Leaves none) :=
      imp_congr_right fun _ => or_iff_right hm
    obtain ⟨sockets, microtasks, hs⟩ := reconnect_of_below th (Nat.not_le.mp hm)
    rw [hl, hs]
    exact hco

lemma nextTimer_onOpen (s : State) (fa : List Nat) : (s.onOpen fa).nextTimer = s.nextTimer + 1 :=
  congrArg Core.nextTimer (core_onOpen s fa)

lemma nextTimer_settle (s : State) (i : Nat) (o : Outcome) :
    (s.settle i o).nextTimer = s.nextTimer := by
  rw [settle]
  split <;> rfl

lemma metrics_settle (s : State) (i : Nat) (o : Outcome) : (s.settle i o).metrics = s.metrics := by
  rw [settle]
  split <;> rfl

lemma metrics_onMessage {m : Incoming} (hr : m ≠ .unreadable) :
    (s.onMessage m).metrics.messagesReceived = s.metrics.messagesReceived + 1 := by
  cases m with
  | unreadable => exact absurd rfl hr
  | heartbeat pingId timestamp =>
    simp only [onMessage, handleHeartbeatResponse]
    split <;> rfl
  | ack mi => cases mi <;> rfl
  | _ => rfl

lemma surface_onClose_iff (s : State) : s.onClose.surface = s.surface ↔ s.Rests := by
  have hf : s.timers.heartbeatTimeouts.filter (fun tm =>
      s.timers.heartbeatTimeout != some tm.id) = s.timers.heartbeatTimeouts ↔
      ∀ tm ∈ s.timers.heartbeatTimeouts, s.timers.heartbeatTimeout ≠ some tm.id := by
    simp
  have status : s.onClose.connectionState.status = .disconnected := by
    rw [onClose]
    split <;> rfl
  by_cases hco : s.connectionState.status = .connected
  · refine iff_of_false (fun hs => ?_) fun hrs => ?_
    · have hk := congrArg Surface.status hs
      rw [surface, surface, status, hco] at hk
      cases hk
    · rw [Rests, hco] at hrs
      cases hrs.1
  · have hc : s.onClose.surface = { s.surface with
        status := .disconnected
        heartbeatInterval := none
        heartbeatTimeouts := s.timers.heartbeatTimeouts.filter fun tm =>
          s.timers.heartbeatTimeout != some tm.id
        reconnectTimeout := none
        queueProcessorInterval := none } := by
      rw [onClose, if_neg fun all => hco all.2.1]
      rfl
    rw [hc, Rests, ← hf, surface, Surface.mk.injEq]
    constructor
    · rintro ⟨hds, hi, ht, hr, hp, -⟩
      exact ⟨hds.symm, hi.symm, ht, hr.symm, hp.symm⟩
    · rintro ⟨hds, hi, ht, hr, hp⟩
      exact ⟨hds.symm, hi.symm, ht, hr.symm, hp.symm, rfl, rfl, rfl, rfl, rfl⟩

variable (hac : s.Active)
include hac

lemma isolated_deliver {i : Nat} {sk : Socket} (hs : action.source = some i)
    (ht : s.deliver i sk action = some t) :
    (s.socket ≠ some i → t.surface = s.surface) ∧ t.Active ↔ s.Apart action := by
  cases action with
  | opened j fa =>
    cases hs
    obtain ⟨-, ⟨⟩⟩ := ite_none_right_eq_some.mp ht
    refine (and_iff_left ?_).trans ?_
    · refine hac.of_processor ?_
      rw [processor_settle, processor_onOpen]
      rfl
    · refine ⟨fun hk => ?_, fun hh old => absurd hh old⟩
      by_contra old
      have hsm := congrArg Surface.nextTimer (hk old)
      rw [surface, nextTimer_settle, nextTimer_onOpen] at hsm
      exact absurd hsm (Nat.succ_ne_self _)
  | message j ig =>
    cases hs
    obtain ⟨-, ⟨⟩⟩ := ite_none_right_eq_some.mp ht
    refine (and_iff_left (hac.of_processor (processor_of_core (core_onMessage s ig)))).trans
      ⟨fun hk => ?_, ?_⟩
    · by_cases hh : s.socket = some i
      · exact .inl hh
      · refine .inr ?_
        by_contra readable
        have hsm := congrArg (fun u => u.metrics.messagesReceived) (hk hh)
        exact absurd ((metrics_onMessage readable).symm.trans hsm) (Nat.succ_ne_self _)
    · rintro (hh | rfl) old
      · exact absurd hh old
      · rfl
  | error j text =>
    cases hs
    obtain ⟨-, ⟨⟩⟩ := ite_none_right_eq_some.mp ht
    refine (and_iff_left ?_).trans ?_
    · refine hac.of_processor ?_
      rw [processor_settle]
      rfl
    · refine ⟨fun hk => ?_, fun hh old => absurd hh old⟩
      by_contra old
      have hsm := congrArg (fun u => u.metrics.errors) (hk old)
      rw [surface, metrics_settle] at hsm
      exact absurd hsm (Nat.succ_ne_self _)
  | closed j =>
    cases hs
    obtain ⟨-, ⟨⟩⟩ := ite_none_right_eq_some.mp ht
    have hi := active_of_cleared (s := s) (processor_onClose { s with
      sockets := s.sockets.set i { sk with readyState := .closed, finished := true } })
    rw [hi, and_comm]
    refine and_congr_right fun _ => ?_
    have hr := surface_onClose_iff { s with
      sockets := s.sockets.set i { sk with readyState := .closed, finished := true } }
    constructor
    · intro hk
      by_cases hh : s.socket = some i
      · exact .inl hh
      · exact .inr (hr.mp (hk hh))
    · rintro (hh | hst) old
      · exact absurd hh old
      · exact hr.mpr hst
  | _ => cases hs

lemma active_call (ht : s.call action = some t) : t.Active ↔ s.Apart action := by
  cases action with
  | connect url th =>
    cases ht
    exact active_connect (s := s.want) hac url th
  | reconnect th =>
    cases ht
    exact active_reconnect (s := s.want) hac th
  | disconnect =>
    cases ht
    refine active_of_cleared (s := s) ?_
    rw [disconnect]
    cases s.socket <;> rfl
  | destroy =>
    cases ht
    refine iff_true_intro fun hr => ?_
    have hdd : s.destroy.destroyed = true := by
      rw [destroy, disconnect]
      cases s.socket <;> rfl
    exact absurd (hdd.symm.trans hr.2) (by decide)
  | init =>
    cases ht
    exact iff_true_intro fun _ => some_ne_none _
  | send d fa =>
    cases ht
    exact iff_true_intro (hac.of_processor (processor_of_core (core_send s d fa)))
  | sendHeartbeat fa =>
    cases ht
    exact iff_true_intro (hac.of_processor (processor_of_core (core_sendHeartbeat s fa)))
  | clearQueue | setSessionContext _ _ =>
    cases ht
    exact iff_true_intro hac
  | _ => cases ht

lemma active_fire (ht : s.fire action = some t) : t.Active ↔ s.Apart action := by
  cases action with
  | heartbeat fa =>
    obtain ⟨tm, -, a⟩ := fire_heartbeat ht
    rw [a]
    refine iff_true_intro (hac.of_processor ?_)
    exact Eq.trans (b := (s.heartbeatTick fa).processor) rfl (processor_heartbeatTick s fa)
  | heartbeatLapse tm th =>
    obtain ⟨-, ⟨⟩⟩ := ite_none_right_eq_some.mp ht
    rw [heartbeatLapse, Apart]
    split
    · rename_i hm
      refine Iff.trans (active_reconnect ?_ th) ?_
      · exact hac
      · exact ⟨fun hh hr _ => hh hr, fun hh hr => hh hr hm⟩
    · rename_i few
      exact iff_of_true hac fun _ hm => absurd hm few
  | reconnectTimer th =>
    rw [fire_reconnectTimer ht, reconnectTimer, Apart]
    split
    · rename_i hc
      refine Iff.trans (active_reconnect ?_ th) ?_
      · exact hac
      · exact ⟨fun hh hr _ => hh hr, fun hh hr => hh hr hc.2⟩
    · rename_i hs
      refine iff_of_true hac fun hr huc => absurd ⟨?_, huc⟩ hs
      simp [hr.2]
  | queueProcessor fa =>
    obtain ⟨tm, a⟩ := fire_queueProcessor ht
    rw [a]
    exact iff_true_intro fun _ => some_ne_none _
  | connectLapse tm i =>
    obtain ⟨-, ⟨⟩⟩ := ite_none_right_eq_some.mp ht
    refine iff_true_intro (hac.of_processor ?_)
    rw [connectLapse]
    split
    · split
      · rw [processor_settle]
        rfl
      · rfl
    · rfl
  | _ => cases ht

lemma active_resume {o : Outcome} {l : List Outcome} :
    (State.afterConnect { s with microtasks := l } o).Active := by
  refine hac.of_processor ?_
  cases o <;> rfl

lemma isolated_act (ht : s.act action = some t) :
    (∀ i, action.source = some i → s.socket ≠ some i → t.surface = s.surface) ∧ t.Active ↔
      s.Apart action := by
  have hsi : ∀ {P : Prop}, action.source = none →
      ((∀ i, action.source = some i → s.socket ≠ some i → t.surface = s.surface) ∧ P ↔ P) := by
    intro P hsi
    refine and_iff_right fun i hs => ?_
    rw [hsi] at hs
    cases hs
  cases acted_of_act ht with
  | call none hc => exact (hsi none).trans (active_call hac hc)
  | resume hh _ a =>
    refine (hsi (hh ▸ rfl)).trans ?_
    rw [hh, a]
    exact iff_true_intro (active_resume hac)
  | event _ hs _ hdl =>
    rw [← isolated_deliver hac hs hdl]
    refine and_congr_left fun _ => ⟨fun all => all _ hs, fun one j hsm => ?_⟩
    cases hs.symm.trans hsm
    exact one
  | timer _ none hf => exact (hsi none).trans (active_fire hac hf)

end State

/-- In the runs whose steps all meet the condition, and in no others, old sockets disturb nothing
and the queue is processed from `init` to `destroy`. -/
theorem isolated_iff_apart (options : Options) {t : State} {labels : List Label} :
    Run State.step (fun s label => s.Active ∧ s.Isolated label) (create options) labels t ∧
        t.Active ↔
      Run State.step (fun s label => s.Apart label.action) (create options) labels t := by
  refine Run.stepwise_iff State.Active State.Isolated ?_ fun hr => ?_
  · intro s label t ha ht
    obtain ⟨-, hac⟩ := ite_none_right_eq_some.mp ht
    refine Iff.trans (and_congr_left fun _ => ?_)
      (Iff.trans (State.isolated_act (s := { s with now := label.now }) ha hac) ?_)
    · constructor
      · exact fun hi i hs old => hi i t hs old ht
      · intro hk i u hs old o
        cases ht.symm.trans o
        exact hk i hs old
    · cases label.action <;> exact Iff.rfl
  · cases hr.1

deriving instance Decidable for State.Running, State.Leaves, State.LeavesAgain, State.Rests

instance (s : State) (action : Action) : Decidable (s.Apart action) := by
  induction action using Action.casesOn <;> dsimp only [State.Apart] <;> infer_instance

def twoServers : Options := { url := some "first" }

/-- One socket, which answers and is given messages. -/
def oneSocket : List Label :=
  [⟨0, .init⟩, ⟨0, .connect none none⟩, ⟨5, .send ⟨.event, none⟩ false⟩, ⟨10, .opened 0 []⟩,
    ⟨20, .message 0 .other⟩, ⟨1000, .queueProcessor []⟩]

theorem isolated_iff_apart_oneSocket : ∃ t,
    Run State.step (fun s label => s.Apart label.action) (create twoServers) oneSocket t ∧
      t.outbox.messagesSet = 1 ∧
      Run State.step (fun s label => s.Active ∧ s.Isolated label) (create twoServers) oneSocket t ∧
      t.Active :=
  exists_run (by decide +kernel) fun _ run _ => (isolated_iff_apart twoServers).mpr run

/-- A second socket is open when the first one closes. -/
def replaced : List Label :=
  [⟨0, .init⟩, ⟨0, .connect none none⟩, ⟨10, .opened 0 []⟩, ⟨20, .connect (some "second") none⟩,
    ⟨30, .opened 1 []⟩]

theorem replaced_disturbs : ∃ s t, Run State.step Always (create twoServers) replaced s ∧
      s.step ⟨40, .closed 0⟩ = some t ∧ s.socket = some 1 ∧
      s.connectionState.status = .connected ∧ t.connectionState.status = .disconnected ∧
      t.isConnected = true ∧ s.Running ∧ s.timers.queueProcessorInterval = none := by
  exact ⟨_, _, run_of_exec rfl, rfl, rfl, rfl, rfl, rfl, by decide, rfl⟩

end WebSocketManager
