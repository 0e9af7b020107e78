import Optimizely.OrderedMap

/-!
# The event manager

Handlers are registered under channels, one for each type of event and one for all. Every event is
published on both. A message on the channel of a type also goes to the handlers for all events.
-/

namespace EventManager

inductive EventType where
  | visitorIdentified
  | highValueSession
  | conversionIntent
  | revenuePrediction
  | dealScored
  | pipelineUpdate
  | cacheInvalidated
  | dataUpdated
  | integrationError
  deriving DecidableEq

def EventType.name : EventType → String
  | .visitorIdentified => "visitor_identified"
  | .highValueSession => "high_value_session"
  | .conversionIntent => "conversion_intent"
  | .revenuePrediction => "revenue_prediction"
  | .dealScored => "deal_scored"
  | .pipelineUpdate => "pipeline_update"
  | .cacheInvalidated => "cache_invalidated"
  | .dataUpdated => "data_updated"
  | .integrationError => "integration_error"

def channelOf (eventType : String) : String := "events:" ++ eventType

def wildcard : String := "events:*"

lemma channelOf_injective : Function.Injective channelOf := by
  intro a b hs
  have hl := congrArg String.toList hs
  simp only [channelOf, String.toList_append, List.append_cancel_left_eq] at hl
  exact String.toList_inj.mp hl

lemma channelOf_name_ne_wildcard (e : EventType) : channelOf e.name ≠ wildcard := by
  cases e <;> decide

/-- The handlers, and the channels to which the Redis connection is subscribed. -/
structure Manager (Handler : Type) where
  handlers : OrderedMap String (OrderedMap Handler Unit)
  subscriptions : Finset String

/-- What `unsubscribe` awaits: nothing, or a reply after which it deletes the entry of the
channel, or a reply after which it does nothing. -/
inductive Await where
  | nothing
  | deletion
  | reply
  deriving DecidableEq

namespace Manager

variable {Handler : Type}

def constructed : Manager Handler := ⟨.empty, ∅⟩

def handlersOf (m : Manager Handler) (channel : String) : List Handler :=
  ((m.handlers.get? channel).map OrderedMap.keys).getD []

lemma nodup_handlersOf (m : Manager Handler) (c : String) : (m.handlersOf c).Nodup := by
  rw [handlersOf]
  cases m.handlers.get? c with
  | none => simp
  | some set => exact set.nodup

lemma handlersOf_erase (m : Manager Handler) (c channel' : String) :
    { m with handlers := m.handlers.erase c }.handlersOf channel' =
      if c = channel' then [] else m.handlersOf channel' := by
  simp only [handlersOf, OrderedMap.get?_erase]
  split <;> simp

variable [DecidableEq Handler]

def addHandler (m : Manager Handler) (channel : String) (handler : Handler) : Manager Handler :=
  { handlers := m.handlers.set channel (((m.handlers.get? channel).getD .empty).set handler ())
    subscriptions := insert channel m.subscriptions }

def subscribe (m : Manager Handler) (eventType : String) (handler : Handler) : Manager Handler :=
  m.addHandler (channelOf eventType) handler

def subscribeToAll (m : Manager Handler) (handler : Handler) : Manager Handler :=
  m.addHandler wildcard handler

/-- `unsubscribe` up to its await. -/
def unsubscribe (m : Manager Handler) (eventType : String) (handler : Option Handler) :
    Manager Handler × Await :=
  let channel := channelOf eventType
  match handler, m.handlers.get? channel with
  | some handler, some set =>
    let left := set.erase handler
    ({ m with handlers := m.handlers.set channel left },
      if left.keys = [] then .deletion else .nothing)
  | _, _ => ({ m with handlers := m.handlers.erase channel }, .reply)

/-- Redis carries out the awaited command. -/
def unsubscribed (m : Manager Handler) (channel : String) : Await → Manager Handler
  | .nothing => m
  | _ => { m with subscriptions := m.subscriptions.erase channel }

/-- The rest of `unsubscribe`, once it has the reply. -/
def finishUnsubscribe (m : Manager Handler) (channel : String) : Await → Manager Handler
  | .deletion => { m with handlers := m.handlers.erase channel }
  | _ => m

def onMessage (m : Manager Handler) (channel : String) : List Handler :=
  m.handlersOf channel ++ if channel ≠ wildcard then m.handlersOf wildcard else []

/-- The handlers invoked when an event is published: a message arrives for every channel on which
it is sent and to which the connection is subscribed. -/
def publish (m : Manager Handler) (event : EventType) : List Handler :=
  [channelOf event.name, wildcard].flatMap fun channel =>
    if channel ∈ m.subscriptions then m.onMessage channel else []

variable (m : Manager Handler)

lemma mem_handlersOf_addHandler (c channel' : String) (d d' : Handler) :
    d' ∈ (m.addHandler c d).handlersOf channel' ↔
      c = channel' ∧ d' = d ∨ d' ∈ m.handlersOf channel' := by
  simp only [addHandler, handlersOf, OrderedMap.get?_set]
  by_cases hs : c = channel'
  · subst hs
    simp only [if_true, Option.map_some, Option.getD_some, OrderedMap.mem_keys_set, true_and]
    cases m.handlers.get? c with
    | none => simp [OrderedMap.keys, OrderedMap.empty]
    | some set => simp
  · simp [hs]

lemma mem_handlersOf_unsubscribe (ty c : String) (d : Option Handler) (d' : Handler) :
    d' ∈ (m.unsubscribe ty d).1.handlersOf c ↔ d' ∈ m.handlersOf c ∧
        ¬ (channelOf ty = c ∧ ∀ g ∈ d, d' = g) := by
  by_cases hs : channelOf ty = c
  · subst hs
    cases d with
    | none => simp [unsubscribe, handlersOf_erase]
    | some g =>
      cases hst : m.handlers.get? (channelOf ty) with
      | none => simp [unsubscribe, hst, handlersOf, OrderedMap.get?_erase]
      | some set =>
        simp [unsubscribe, hst, handlersOf, OrderedMap.get?_set, OrderedMap.mem_keys_erase]
  · have x : (m.unsubscribe ty d).1.handlersOf c = m.handlersOf c := by
      simp only [unsubscribe]
      split
      · simp [handlersOf, OrderedMap.get?_set, hs]
      · rw [handlersOf_erase, if_neg hs]
    simp [x, hs]

lemma await_unsubscribe (ty : String) (d : Option Handler) : (m.unsubscribe ty d).2 = .nothing ↔
      (m.unsubscribe ty d).1.handlersOf (channelOf ty) ≠ [] := by
  simp only [unsubscribe]
  split
  · simp [handlersOf, OrderedMap.get?_set]
  · rw [handlersOf_erase, if_pos rfl]
    simp

omit [DecidableEq Handler] in
lemma handlersOf_unsubscribed (c x : String) (a : Await) :
    (m.unsubscribed c a).handlersOf x = m.handlersOf x := by
  cases a <;> rfl

@[simp] lemma subscriptions_unsubscribe (ty : String) (d : Option Handler) :
    (m.unsubscribe ty d).1.subscriptions = m.subscriptions := by
  simp only [unsubscribe]
  split <;> rfl

end Manager

/-- A call and what it is about. -/
inductive Request (Handler : Type) where
  | subscribe (eventType : String) (handler : Handler)
  | subscribeToAll (handler : Handler)
  | unsubscribe (eventType : String) (handler : Option Handler)
  deriving DecidableEq

/-- By which method a handler was registered. -/
inductive Origin where
  | ofType (eventType : String)
  | all
  deriving DecidableEq

def Origin.channel : Origin → String
  | .ofType eventType => channelOf eventType
  | .all => wildcard

section

variable {Handler : Type} [DecidableEq Handler]

/-- Whether a handler is registered after one more request. -/
def stillRegistered (origin : Origin) (handler : Handler) (before : Bool) :
    Request Handler → Bool
  | .subscribe eventType added => (origin = .ofType eventType && handler = added) || before
  | .subscribeToAll added => (origin = .all && handler = added) || before
  | .unsubscribe eventType none => before && channelOf eventType ≠ origin.channel
  | .unsubscribe eventType (some removed) =>
    before && !(channelOf eventType = origin.channel && handler = removed)

/-- What the caller has asked for: the handler was registered by this method, and has not been
unsubscribed since. -/
def Registered (requests : List (Request Handler)) (origin : Origin) (handler : Handler) : Prop :=
  requests.foldl (stillRegistered origin handler) false = true

deriving instance Decidable for Registered

lemma registered_nil (o : Origin) (d : Handler) : ¬ Registered [] o d := by
  simp [Registered]

section

variable (rs : List (Request Handler)) (o : Origin) (d : Handler)

lemma registered_subscribe (ty : String) (a : Handler) : Registered (rs ++ [.subscribe ty a]) o d ↔
      o = .ofType ty ∧ d = a ∨ Registered rs o d := by
  simp [Registered, stillRegistered]

lemma registered_subscribeToAll (a : Handler) : Registered (rs ++ [.subscribeToAll a]) o d ↔
      o = .all ∧ d = a ∨ Registered rs o d := by
  simp [Registered, stillRegistered]

lemma registered_unsubscribe (ty : String) (rm : Option Handler) :
    Registered (rs ++ [.unsubscribe ty rm]) o d ↔ Registered rs o d ∧
        ¬ (channelOf ty = o.channel ∧ ∀ g ∈ rm, d = g) := by
  cases rm with
  | none => simp [Registered, stillRegistered]
  | some g => simp [Registered, stillRegistered, imp_iff_not_or]

end

/-- The registry is what the callers asked for, and the connection is subscribed to every channel
with handlers. -/
structure Registry (requests : List (Request Handler)) (m : Manager Handler) : Prop where
  handlers : ∀ channel handler, handler ∈ m.handlersOf channel ↔
    ∃ origin : Origin, origin.channel = channel ∧ Registered requests origin handler
  subscribed : ∀ channel, m.handlersOf channel ≠ [] → channel ∈ m.subscriptions

lemma registry_constructed : Registry [] (Manager.constructed : Manager Handler) where
  handlers := by
    intro c d
    simp [Manager.constructed, Manager.handlersOf, registered_nil, OrderedMap.empty,
      OrderedMap.get?, OrderedMap.lookup]
  subscribed := by
    intro c hn
    exact absurd rfl hn

variable {m : Manager Handler} {rs : List (Request Handler)} (hr : Registry rs m)
include hr

lemma Registry.addHandler (o : Origin) (d : Handler) {r : Request Handler}
    (hrg : ∀ o' d', Registered (rs ++ [r]) o' d' ↔ o' = o ∧ d' = d ∨ Registered rs o' d') :
    Registry (rs ++ [r]) (m.addHandler o.channel d) := by
  constructor
  · intro c d'
    rw [Manager.mem_handlersOf_addHandler, hr.handlers]
    simp only [hrg]
    constructor
    · rintro (⟨rfl, rfl⟩ | ⟨o', rfl, s⟩)
      · exact ⟨o, rfl, .inl ⟨rfl, rfl⟩⟩
      · exact ⟨o', rfl, .inr s⟩
    · rintro ⟨o', rfl, ⟨rfl, rfl⟩ | s⟩
      · exact .inl ⟨rfl, rfl⟩
      · exact .inr ⟨o', rfl, s⟩
  · intro c hn
    obtain ⟨d', mem⟩ := List.exists_mem_of_ne_nil _ hn
    rcases (Manager.mem_handlersOf_addHandler ..).mp mem with ⟨rfl, -⟩ | s
    · exact Finset.mem_insert_self ..
    · exact Finset.mem_insert_of_mem (hr.subscribed c (List.ne_nil_of_mem s))

lemma Registry.unsubscribe (ty : String) (d : Option Handler) :
    Registry (rs ++ [.unsubscribe ty d]) (m.unsubscribe ty d).1 where
  handlers := by
    intro c d''
    rw [Manager.mem_handlersOf_unsubscribe, hr.handlers]
    simp only [registered_unsubscribe]
    constructor
    · rintro ⟨⟨o, rfl, s⟩, hk⟩
      exact ⟨o, rfl, s, hk⟩
    · rintro ⟨o, rfl, s, hk⟩
      exact ⟨⟨o, rfl, s⟩, hk⟩
  subscribed := by
    intro c hn
    obtain ⟨d'', mem⟩ := List.exists_mem_of_ne_nil _ hn
    obtain ⟨s, -⟩ := (Manager.mem_handlersOf_unsubscribe ..).mp mem
    rw [Manager.subscriptions_unsubscribe]
    exact hr.subscribed c (List.ne_nil_of_mem s)

lemma Registry.unsubscribed {c : String} {a : Await} (he : a ≠ .nothing → m.handlersOf c = []) :
    Registry rs (m.unsubscribed c a) := by
  constructor
  · intro x d
    rw [Manager.handlersOf_unsubscribed]
    exact hr.handlers x d
  · intro x hn
    rw [Manager.handlersOf_unsubscribed] at hn
    have hs := hr.subscribed x hn
    by_cases hsi : a = .nothing
    · subst hsi
      exact hs
    · have hne : x ≠ c := by
        rintro rfl
        exact hn (he hsi)
      have hsn : (m.unsubscribed c a).subscriptions = m.subscriptions.erase c := by
        cases a with
        | nothing => exact absurd rfl hsi
        | reply | deletion => rfl
      rw [hsn]
      exact Finset.mem_erase.mpr ⟨hne, hs⟩

lemma Registry.finishUnsubscribe {c : String} {a : Await}
    (he : a = .deletion → m.handlersOf c = []) : Registry rs (m.finishUnsubscribe c a) := by
  cases a with
  | nothing | reply => exact hr
  | deletion =>
    have hs : ∀ x, (m.finishUnsubscribe c .deletion).handlersOf x = m.handlersOf x := by
      intro x
      refine (Manager.handlersOf_erase m c x).trans ?_
      split
      · rename_i hh
        rw [← hh, he rfl]
      · rfl
    constructor
    · intro x d
      rw [hs]
      exact hr.handlers x d
    · intro x hn
      rw [hs] at hn
      exact hr.subscribed x hn

end
end EventManager
