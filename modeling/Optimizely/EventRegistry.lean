import Optimizely.EventManager
import Optimizely.TaskLists
import Optimizely.TransitionRuns

/-!
# The handler registry under interleaved calls

`unsubscribe` finds the handler set of a channel empty, awaits Redis, and then deletes the set, with
a handler that was registered meanwhile. As long as the set is still empty then, every wanted
handler is registered and its channel subscribed.
-/

namespace EventRegistry

open EventManager TransitionRuns

inductive Call where
  | subscribing (channel : String)
  | unsubscribing (channel : String) (await : Await)
  | completed
  deriving DecidableEq

/-- The last field is the history of the calls issued. -/
structure State (Handler : Type) where
  manager : Manager Handler
  calls : List Call
  issued : List (Request Handler)

inductive Label (Handler : Type) where
  | subscribe (eventType : String) (handler : Handler)
  | unsubscribe (eventType : String) (handler : Handler)
  | resume (index : Nat)
  deriving DecidableEq

variable {Handler : Type} [DecidableEq Handler]

/-- Commands take effect when they are issued. -/
def State.step (s : State Handler) : Label Handler → Option (State Handler)
  | .subscribe eventType handler => some
      { manager := s.manager.subscribe eventType handler
        calls := s.calls ++ [.subscribing (channelOf eventType)]
        issued := s.issued ++ [.subscribe eventType handler] }
  | .unsubscribe eventType handler =>
    let (manager, await) := s.manager.unsubscribe eventType (some handler)
    some
      { manager := manager.unsubscribed (channelOf eventType) await
        calls := s.calls ++ [match await with
          | .nothing => .completed
          | await => .unsubscribing (channelOf eventType) await]
        issued := s.issued ++ [.unsubscribe eventType (some handler)] }
  | .resume index =>
    match s.calls[index]? with
    | some (.subscribing _) => some { s with calls := s.calls.set index .completed }
    | some (.unsubscribing channel await) => some
        { s with
          manager := s.manager.finishUnsubscribe channel await
          calls := s.calls.set index .completed }
    | _ => none

def launched : State Handler := ⟨.constructed, [], []⟩

/-- The last `subscribe` call for the handler was issued after its last `unsubscribe` call. -/
def Wanted (s : State Handler) (eventType : String) (handler : Handler) : Prop :=
  Registered s.issued (.ofType eventType) handler

deriving instance Decidable for Wanted

def Kept (s : State Handler) : Prop :=
  ∀ eventType handler, Wanted s eventType handler →
    handler ∈ s.manager.handlersOf (channelOf eventType) ∧
      channelOf eventType ∈ s.manager.subscriptions

/-- If the call deletes the entry of a channel, there are no handlers in it. -/
def DeletesEmpty (m : Manager Handler) : Call → Prop
  | .unsubscribing channel .deletion => m.handlersOf channel = []
  | _ => True

def Careful (s : State Handler) : Label Handler → Prop
  | .resume index => ∀ call ∈ s.calls[index]?, DeletesEmpty s.manager call
  | _ => True

lemma registry_step {s t : State Handler} {l : Label Handler}
    (hr : Registry s.issued s.manager) (hca : Careful s l)
    (hs : s.step l = some t) : Registry t.issued t.manager := by
  cases l with
  | subscribe ty d =>
    cases hs
    exact hr.addHandler (.ofType ty) d fun _ _ => registered_subscribe s.issued _ _ ty d
  | unsubscribe ty d =>
    cases hs
    refine (hr.unsubscribe ty (some d)).unsubscribed fun hsn => ?_
    by_contra hn
    exact hsn ((Manager.await_unsubscribe s.manager ty (some d)).mpr hn)
  | resume i =>
    simp only [State.step] at hs
    split at hs
    · cases hs
      exact hr
    · rename_i c await hp
      cases hs
      refine hr.finishUnsubscribe fun hdl => ?_
      subst hdl
      exact hca _ hp
    · cases hs

lemma kept_of_registry {s : State Handler} (hr : Registry s.issued s.manager) : Kept s := by
  intro ty d hw
  have mem : d ∈ s.manager.handlersOf (channelOf ty) :=
    (hr.handlers _ d).mpr ⟨.ofType ty, rfl, hw⟩
  exact ⟨mem, hr.subscribed _ (List.ne_nil_of_mem mem)⟩

theorem kept_of_careful {labels : List (Label Handler)} {t : State Handler}
    (run : Run State.step Careful launched labels t) : Kept t := by
  have hr := run.invariant (fun s => Registry s.issued s.manager)
    (fun _ _ _ hr hc hs => registry_step hr hc hs)
    registry_constructed
  exact kept_of_registry hr

instance (m : Manager Handler) (call : Call) : Decidable (DeletesEmpty m call) := by
  unfold DeletesEmpty
  repeat' split
  all_goals infer_instance

instance (s : State Handler) (label : Label Handler) : Decidable (Careful s label) := by
  cases label <;> dsimp only [Careful] <;> infer_instance

/-- Whether all calls have completed, and the handlers and the subscription for a type. -/
def registryOf (s : State Handler) (eventType : String) : Bool × List Handler × Bool :=
  (s.calls.all (· = .completed), s.manager.handlersOf (channelOf eventType),
    channelOf eventType ∈ s.manager.subscriptions)

/-- The entry is deleted before another handler is registered. -/
def unsubscribeThenSubscribe : List (Label String) :=
  [.subscribe "data_updated" "refresh", .unsubscribe "data_updated" "refresh", .resume 1,
    .subscribe "data_updated" "audit", .resume 0, .resume 2]

theorem unsubscribeThenSubscribe_kept : ∃ t : State String,
    Run State.step Careful launched unsubscribeThenSubscribe t ∧
      registryOf t "data_updated" = (true, ["audit"], true) ∧ Kept t :=
  exists_run (by decide +kernel) fun _ run _ => kept_of_careful run

/-- Another handler is registered between the command and its reply. -/
def subscribeMeanwhile : List (Label String) :=
  [.subscribe "data_updated" "refresh", .resume 0, .unsubscribe "data_updated" "refresh",
    .subscribe "data_updated" "audit", .resume 1, .resume 2]

theorem subscribeMeanwhile_loses_handler : ∃ t : State String,
    Run State.step Always launched subscribeMeanwhile t ∧
      registryOf t "data_updated" = (true, [], true) ∧ ¬ Kept t := by
  refine exists_run_of_seen (fun t => registryOf t "data_updated" = (true, [], true) ∧
    Wanted t "data_updated" "audit") (by decide +kernel) fun t _ s => ⟨s.1, fun hk => ?_⟩
  have ha : t.manager.handlersOf (channelOf "data_updated") = [] := congrArg (fun v => v.2.1) s.1
  have hl := (hk "data_updated" "audit" s.2).1
  simp [ha] at hl

end EventRegistry
