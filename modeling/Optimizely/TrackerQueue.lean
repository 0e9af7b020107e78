import Optimizely.TaskLists
import Optimizely.Tracker
import Optimizely.TransitionRuns

/-!
# The queue of events

No event is lost or sent twice, whatever batches fail. The queue is in the order of queueing as long
as no batch fails after a younger one has been put back; one that fails after that is put in front
of older events.
-/

namespace Tracker

open TransitionRuns List Option TaskLists

def Call.inFlight : Call → Option (List Nat)
  | .sending events => some events
  | _ => none

def Call.delivered : Call → Option (List Nat)
  | .sent events => some events
  | _ => none

namespace State

def inFlight (s : State) : List (List Nat) := s.calls.filterMap Call.inFlight

def delivered (s : State) : List (List Nat) := s.calls.filterMap Call.delivered

def held (s : State) : List Nat :=
  s.eventQueue ++ s.inFlight.flatten ++ s.delivered.flatten

end State

/-- Every event that was queued is in one place, and there once. -/
def Conserved (s : State) : Prop := s.held.Perm (List.range s.events.length)

def InOrder (s : State) : Prop := s.eventQueue.Pairwise (· < ·)

def failing (s : State) : Label → Option (List Nat)
  | .resume index false _ _ => s.calls[index]?.bind Call.inFlight
  | _ => none

/-- A batch that fails is older than what is in the queue. -/
def FailsInOrder (s : State) (label : Label) : Prop :=
  ∀ events ∈ failing s label, ∀ event ∈ events, ∀ queued ∈ s.eventQueue, event < queued

deriving instance Decidable for FailsInOrder

structure Aside (s t : State) : Prop where
  events : t.events = s.events
  eventQueue : t.eventQueue = s.eventQueue
  inFlight : t.inFlight = s.inFlight
  delivered : t.delivered = s.delivered

namespace Aside

variable {s t r : State}

lemma refl (s : State) : Aside s s := ⟨rfl, rfl, rfl, rfl⟩

lemma trans (first : Aside s t) (hs : Aside t r) : Aside s r where
  events := hs.events.trans first.events
  eventQueue := hs.eventQueue.trans first.eventQueue
  inFlight := hs.inFlight.trans first.inFlight
  delivered := hs.delivered.trans first.delivered

lemma held (ha : Aside s t) : t.held = s.held := by
  rw [State.held, State.held, ha.eventQueue, ha.inFlight, ha.delivered]

end Aside

lemma aside_use (s : State) (m : Module) : Aside s (s.use m) := by
  rw [State.use]
  split
  · exact .refl s
  · exact ⟨rfl, rfl, rfl, rfl⟩

lemma aside_registerModules (s : State) (i : Nat) : Aside s (s.registerModules i) :=
  ((aside_use _ _).trans (aside_use _ _)).trans (aside_use _ _)

lemma aside_init (s : State) (g : GivenConfig) : Aside s (s.init g) := by
  have ha : ∀ c : Call, c.inFlight = none → c.delivered = none →
      (s.calls ++ [c]).filterMap Call.inFlight = s.inFlight ∧
        (s.calls ++ [c]).filterMap Call.delivered = s.delivered := by
    intro c hs hsn
    simp [State.inFlight, State.delivered, hs, hsn]
  simp only [State.init]
  repeat' split
  all_goals exact ⟨rfl, rfl, (ha _ rfl rfl).1, (ha _ rfl rfl).2⟩

variable {i : Nat} {s t : State} {l : Label} {events : List Nat}

lemma aside_set {old : Call} (hf : s.calls[i]? = some old)
    (new : Call) (hs : new.inFlight = old.inFlight) (hsn : new.delivered = old.delivered) :
    Aside s { s with calls := s.calls.set i new } where
  events := rfl
  eventQueue := rfl
  inFlight := filterMap_set_of_eq Call.inFlight hf hs
  delivered := filterMap_set_of_eq Call.delivered hf hsn

/-! ## Moves

Every step but the end of a request is made of events that are queued, batches that are taken, and
what leaves the queue alone. -/

inductive Move : State → State → Prop where
  | aside {s t : State} : Aside s t → Move s t
  | push (s : State) (event : EventData) : Move s (s.pushEvent event)
  | flush (s : State) : Move s s.flush

abbrev Moves : State → State → Prop := Relation.ReflTransGen Move

lemma moves_queueEvent (s : State) (e : EventData) : Moves s (s.queueEvent e) := by
  have hp : Moves s (s.pushEvent e) := .single (.push s e)
  simp only [State.queueEvent]
  split
  · exact hp.tail (.flush _)
  · exact hp

lemma moves_track (s : State) (e : String) (now : Nat) : Moves s (s.track e now) := by
  rw [State.track]
  split
  · exact moves_queueEvent s _
  · exact .refl

section

variable (s : State) (url : String) (now : Nat)

lemma moves_pageView : Moves s (s.pageView url now) := by
  rw [State.pageView]
  split
  · exact moves_queueEvent s _
  · exact .refl

lemma moves_readyCallback : Moves s (s.readyCallback url now) :=
  (moves_pageView s url now).tail (.aside ⟨rfl, rfl, rfl, rfl⟩)

lemma moves_domReady : Moves s (s.domReady url now) := by
  rw [State.domReady]
  split
  · exact .single (.aside ⟨rfl, rfl, rfl, rfl⟩)
  · exact moves_readyCallback s url now

lemma moves_fireReady : Moves s (s.fireReady url now) := by
  have hl : Move s { s with document := .loaded, readyCallbacks := 0 } :=
    .aside ⟨rfl, rfl, rfl, rfl⟩
  exact foldlRecOn _ _ (.single hl) fun t ht _ _ => ht.trans (moves_readyCallback t url now)

lemma calls_prefix_pageView : s.calls <+: (s.pageView url now).calls := by
  obtain ⟨events, eventQueue, batches, hs⟩ := queues_pageView s url now
  rw [hs]
  exact prefix_append ..

lemma calls_prefix_domReady : s.calls <+: (s.domReady url now).calls := by
  rw [State.domReady]
  split
  · exact prefix_rfl
  · exact calls_prefix_pageView s url now

end

lemma moves_finishInit {c : Call} (hf : s.calls[i]? = some c) (hs : c.inFlight = none)
    (hsn : c.delivered = none) (url : String) (now : Nat) : Moves s (s.finishInit i url now) := by
  have hk : (s.domReady url now).calls[i]? = some c := by
    obtain ⟨rest, hsm⟩ := calls_prefix_domReady s url now
    have hin := (List.getElem?_eq_some_iff.mp hf).1
    rw [← hsm, getElem?_append_left hin, hf]
  obtain ⟨events, he, it, hdl⟩ := aside_set hk .initialized hs.symm hsn.symm
  exact (moves_domReady s url now).tail (.aside ⟨events, he, it, hdl⟩)

lemma calls_use (s : State) (m : Module) : (s.use m).calls = s.calls := by
  rw [State.use]
  split <;> rfl

lemma calls_registerModules (s : State) (i : Nat) : (s.registerModules i).calls = s.calls := by
  simp only [State.registerModules, calls_use]

lemma moves_continueInit (hf : s.calls[i]? = some .initializingSession) (url : String) (now : Nat) :
    Moves s (s.continueInit i url now) := by
  have hrg : Moves s (s.registerModules i) := .single (.aside (aside_registerModules s i))
  have hk : (s.registerModules i).calls[i]? = some .initializingSession := by
    rw [calls_registerModules, hf]
  simp only [State.continueInit]
  split
  · split
    · have hu := hrg.tail (.aside (aside_use _ (.webSocketManager i)))
      rw [← calls_use _ (.webSocketManager i)] at hk
      split
      · exact hu.tail (.aside (aside_set hk .connecting rfl rfl))
      · exact hu.trans (moves_finishInit hk rfl rfl url now)
    · exact hrg.trans (moves_finishInit hk rfl rfl url now)
  · exact hrg.trans (moves_finishInit hk rfl rfl url now)

lemma step_cases (hs : s.step l = some t) : (Moves s t ∧ failing s l = none) ∨
      ∃ i ok url now es, l = .resume i ok url now ∧ s.calls[i]? = some (.sending es) ∧
        t = if ok then { s with calls := s.calls.set i (.sent es) } else { s with
            eventQueue := es ++ s.eventQueue, calls := s.calls.set i .failed } := by
  have ha : ∀ {r : State}, Aside s r → Moves s r := fun hk => .single (.aside hk)
  cases l with
  | use module =>
    simp only [State.step] at hs
    split at hs
    · cases hs
      exact .inl ⟨ha (aside_use s _), rfl⟩
    · cases hs
  | init g =>
    cases hs
    exact .inl ⟨ha (aside_init s g), rfl⟩
  | setConsent cs =>
    cases hs
    exact .inl ⟨ha ⟨rfl, rfl, rfl, rfl⟩, rfl⟩
  | track e now =>
    cases hs
    exact .inl ⟨moves_track s e now, rfl⟩
  | pageView url now =>
    cases hs
    exact .inl ⟨moves_pageView s url now, rfl⟩
  | flush =>
    cases hs
    exact .inl ⟨.single (.flush s), rfl⟩
  | resume i ok url now =>
    simp only [State.step] at hs
    split at hs
    · rename_i hf
      cases hs
      exact .inl ⟨moves_continueInit hf url now, by cases ok <;> simp [failing, hf, Call.inFlight]⟩
    · rename_i hf
      cases hs
      exact .inl ⟨moves_finishInit hf rfl rfl url now,
        by cases ok <;> simp [failing, hf, Call.inFlight]⟩
    · rename_i es hf
      exact .inr ⟨i, ok, url, now, es, rfl, hf, (some.inj hs).symm⟩
    · cases hs
  | interactive =>
    simp only [State.step] at hs
    split at hs
    · cases hs
      exact .inl ⟨ha ⟨rfl, rfl, rfl, rfl⟩, rfl⟩
    · cases hs
  | contentLoaded url now =>
    simp only [State.step] at hs
    split at hs
    · cases hs
      exact .inl ⟨moves_fireReady s url now, rfl⟩
    · cases hs

lemma conserved_move (hmv : Move s t) (hcs : Conserved s) : Conserved t := by
  cases hmv with
  | aside aside =>
    rw [Conserved, aside.held, aside.events]
    exact hcs
  | push e =>
    have hl : (s.pushEvent e).held.Perm (s.held ++ [s.events.length]) := by
      simp only [State.held, State.pushEvent, State.inFlight, State.delivered, append_assoc]
      refine List.Perm.append_left _ ?_
      rw [← append_assoc (flatten _)]
      exact perm_append_comm
    have hm : (s.pushEvent e).events.length = s.events.length + 1 := by
      simp [State.pushEvent]
    rw [Conserved, hm, range_succ]
    exact hl.trans (hcs.append_right _)
  | flush =>
    rw [State.flush]
    split
    · exact hcs
    · have ht : (State.held { s with
          eventQueue := [], calls := s.calls ++ [.sending s.eventQueue] }).Perm s.held := by
        simp only [State.held, State.inFlight, State.delivered, filterMap_append,
          filterMap_cons, filterMap_nil, Call.inFlight, Call.delivered,
          flatten_append, flatten_cons, flatten_nil, nil_append, append_nil]
        exact perm_append_comm.append_right _
      exact ht.trans hcs

lemma conserved_moves (ms : Moves s t) (hcs : Conserved s) : Conserved t := by
  induction ms with
  | refl => exact hcs
  | tail _ hm ih => exact conserved_move hm ih

section

variable (hf : s.calls[i]? = some (.sending events))
include hf

lemma inFlight_resumed (c : Call) (hfn : c.inFlight = none) :
    (((s.calls.set i c).filterMap Call.inFlight).flatten ++ events).Perm s.inFlight.flatten := by
  have hmo := (filterMap_set_perm Call.inFlight hf c).flatten
  rw [hfn, show Call.inFlight (.sending events) = some events from rfl] at hmo
  simpa [State.inFlight] using hmo

lemma conserved_sent (hcs : Conserved s) :
    Conserved { s with calls := s.calls.set i (.sent events) } := by
  have left := inFlight_resumed hf (.sent events) rfl
  have ha := (filterMap_set_perm Call.delivered hf (.sent events)).flatten
  simp only [Call.delivered, toList_none, toList_some, append_nil,
    flatten_append, flatten_cons, flatten_nil] at ha
  refine List.Perm.trans ?_ hcs
  simp only [State.held, append_assoc, State.inFlight, State.delivered]
  refine List.Perm.append_left _ ?_
  have hs := ha.trans perm_append_comm
  refine (hs.append_left _).trans ?_
  rw [← append_assoc]
  exact left.append_right _

lemma conserved_failed (hcs : Conserved s) : Conserved { s with
      eventQueue := events ++ s.eventQueue, calls := s.calls.set i .failed } := by
  have left := inFlight_resumed hf .failed rfl
  have hs : (s.calls.set i .failed).filterMap Call.delivered = s.delivered :=
    filterMap_set_of_eq Call.delivered hf rfl
  refine List.Perm.trans ?_ hcs
  simp only [State.held, State.inFlight, State.delivered] at hs left ⊢
  rw [hs]
  refine List.Perm.append_right _ ?_
  rw [append_assoc]
  refine perm_append_comm.trans ?_
  rw [append_assoc]
  exact left.append_left _

end

lemma conserved_step (hcs : Conserved s) (hs : s.step l = some t) : Conserved t := by
  obtain ⟨ms, -⟩ | ⟨i, ok, url, now, events, -, hf, rfl⟩ := step_cases hs
  · exact conserved_moves ms hcs
  · cases ok with
    | true => exact conserved_sent hf hcs
    | false => exact conserved_failed hf hcs

def BatchesInOrder (s : State) : Prop := ∀ events ∈ s.inFlight, events.Pairwise (· < ·)

lemma Conserved.lt_of_mem (hcs : Conserved s) {e : Nat}
    (mem : e ∈ s.eventQueue) : e < s.events.length := by
  have hh : e ∈ s.held := by simp [State.held, mem]
  exact mem_range.mp (hcs.mem_iff.mp hh)

lemma inOrder_move (hm : Move s t) (hcs : Conserved s)
    (ho : InOrder s) (hb : BatchesInOrder s) : InOrder t ∧ BatchesInOrder t := by
  cases hm with
  | aside aside =>
    rw [InOrder, BatchesInOrder, aside.eventQueue, aside.inFlight]
    exact ⟨ho, hb⟩
  | push e =>
    refine ⟨pairwise_append.mpr ⟨ho, pairwise_singleton .., ?_⟩, hb⟩
    intro ea mem last only
    rw [mem_singleton.mp only]
    exact hcs.lt_of_mem mem
  | flush =>
    rw [State.flush]
    split
    · exact ⟨ho, hb⟩
    · refine ⟨List.Pairwise.nil, ?_⟩
      intro events mem
      rw [State.inFlight, filterMap_append, mem_append] at mem
      rcases mem with old | new
      · exact hb events old
      · have hs : events = s.eventQueue := by simpa [Call.inFlight] using new
        rw [hs]
        exact ho

lemma inOrder_moves (ms : Moves s t) (hcs : Conserved s)
    (ho : InOrder s) (hb : BatchesInOrder s) : InOrder t ∧ BatchesInOrder t := by
  induction ms with
  | refl => exact ⟨ho, hb⟩
  | tail b hm ih =>
    exact inOrder_move hm (conserved_moves b hcs) ih.1 ih.2

lemma batchesInOrder_set {c : Call} (hf : c.inFlight = none) (hb : BatchesInOrder s) (es : List Nat)
    (mem : es ∈ (s.calls.set i c).filterMap Call.inFlight) : es.Pairwise (· < ·) := by
  obtain ⟨t, hp, ht⟩ := mem_filterMap.mp mem
  rcases mem_or_eq_of_mem_set hp with old | rfl
  · exact hb es (mem_filterMap.mpr ⟨t, old, ht⟩)
  · cases hf.symm.trans ht

lemma batchesInOrder_step (inv : Conserved s ∧ BatchesInOrder s) (ho : InOrder s)
    (hs : s.step l = some t) : Conserved t ∧ BatchesInOrder t := by
  refine ⟨conserved_step inv.1 hs, ?_⟩
  obtain ⟨ms, -⟩ | ⟨i, ok, url, now, events, -, hf, rfl⟩ := step_cases hs
  · exact (inOrder_moves ms inv.1 ho inv.2).2
  · cases ok with
    | true | false => exact batchesInOrder_set rfl inv.2

/-- A queue in order stays so just if no batch fails out of order. -/
lemma inOrder_step_iff (inv : Conserved s ∧ BatchesInOrder s)
    (ho : InOrder s) (hs : s.step l = some t) : InOrder t ↔ FailsInOrder s l := by
  obtain ⟨ms, x⟩ | ⟨i, ok, url, now, events, rfl, hf, rfl⟩ := step_cases hs
  · have hca : FailsInOrder s l := by simp [FailsInOrder, x]
    exact iff_of_true (inOrder_moves ms inv.1 ho inv.2).1 hca
  · cases ok with
    | true => exact iff_of_true ho (by simp [FailsInOrder, failing])
    | false =>
      have hb : events.Pairwise (· < ·) :=
        inv.2 events (mem_filterMap.mpr ⟨_, mem_of_getElem? hf, rfl⟩)
      simp only [InOrder, FailsInOrder, failing, Bool.false_eq_true, if_false, hf,
        bind_some, Call.inFlight, mem_some_iff, forall_eq']
      rw [pairwise_append]
      exact ⟨fun all => all.2.2, fun hol => ⟨hb, ho, hol⟩⟩

/-- Every queued event is in the queue, in one batch in flight or in one delivered batch, and the
queue is always in order just if every batch that fails does so in order. -/
theorem conserved_and_inOrder_iff {storage : OrderedMap String ConsentData}
    {document : ReadyState} {labels : List Label} {t : State}
    (run : Run State.step Always (constructed storage document) labels t) : Conserved t ∧
      (Run State.step (fun s _ => InOrder s) (constructed storage document) labels t ∧ InOrder t ↔
        Run State.step FailsInOrder (constructed storage document) labels t) := by
  have he : Conserved (constructed storage document) := List.Perm.refl []
  refine ⟨run.invariant Conserved (fun _ _ _ inv _ => conserved_step inv) he, ?_⟩
  exact Run.throughout_iff (fun s => Conserved s ∧ BatchesInOrder s) InOrder
    (fun _ _ _ inv ho => batchesInOrder_step inv ho)
    (fun _ _ _ inv ho => inOrder_step_iff inv ho)
    ⟨he, by simp [BatchesInOrder, State.inFlight, constructed]⟩ List.Pairwise.nil

def consented : OrderedMap String ConsentData :=
  OrderedMap.empty.set "opt_shop_consent" ⟨true, true⟩

/-- The tracker is initialised, and two batches are in flight: two events, and one. -/
def twoFlushes : List Label :=
  [.init ⟨"/api", "shop", none, none, none⟩, .resume 0 true "/" 1, .track "a" 2, .track "b" 3,
    .flush, .track "c" 4, .flush]

/-- The younger batch fails first. -/
def failsInOrder : List Label := twoFlushes ++ [.resume 2 false "/" 5, .resume 1 false "/" 6]

theorem failsInOrder_kept : ∃ t,
    Run State.step FailsInOrder (constructed consented .loaded) failsInOrder t ∧
      t.eventQueue = [0, 1, 2] ∧ Conserved t ∧
      Run State.step (fun s _ => InOrder s) (constructed consented .loaded) failsInOrder t ∧
      InOrder t := by
  refine exists_run (by decide +kernel) fun t run _ => ?_
  obtain ⟨hc, ho⟩ := conserved_and_inOrder_iff run.always
  exact ⟨hc, ho.mpr run⟩

/-- The older batch fails first. -/
def failsOutOfOrder : List Label := twoFlushes ++ [.resume 1 false "/" 5, .resume 2 false "/" 6]

theorem failsOutOfOrder_reorders : ∃ t,
    Run State.step Always (constructed consented .loaded) failsOutOfOrder t ∧
      t.eventQueue = [2, 0, 1] ∧ ¬ InOrder t := by
  refine exists_run (by decide +kernel) fun t _ s => ?_
  rw [InOrder, s]
  decide

end Tracker
