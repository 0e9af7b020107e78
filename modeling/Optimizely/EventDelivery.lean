import Optimizely.EventManager

/-!
# Delivery of events

A published event arrives on the channel of its type and on that for all events. The handlers for
all events are called for both: once just if the connection is not subscribed to the type.
-/

namespace EventDelivery

open EventManager List Manager

variable {Handler : Type} [DecidableEq Handler]

/-- A completed call, with the reply that `unsubscribe` got; it swallows a rejection. -/
def perform (m : Manager Handler) : Request Handler × Bool → Manager Handler
  | (.subscribe eventType handler, _) => m.subscribe eventType handler
  | (.subscribeToAll handler, _) => m.subscribeToAll handler
  | (.unsubscribe eventType handler, accepted) =>
    let (m, await) := m.unsubscribe eventType handler
    let channel := channelOf eventType
    if accepted then (m.unsubscribed channel await).finishUnsubscribe channel await else m

def performed (calls : List (Request Handler × Bool)) : Manager Handler :=
  calls.foldl perform .constructed

def invocations (m : Manager Handler) (event : EventType) (handler : Handler) : Nat :=
  (m.publish event).count handler

/-- The event reaches every handler registered for all events, and every one registered for its
type, exactly once. -/
structure Delivers (calls : List (Request Handler × Bool)) (event : EventType) : Prop where
  all : ∀ handler, Registered (calls.map Prod.fst) .all handler →
    invocations (performed calls) event handler = 1
  ofType : ∀ handler, Registered (calls.map Prod.fst) (.ofType event.name) handler →
    invocations (performed calls) event handler = 1

variable {m : Manager Handler} {rs : List (Request Handler)}

lemma registry_perform (hr : Registry rs m) (c : Request Handler × Bool) :
    Registry (rs ++ [c.1]) (perform m c) := by
  obtain ⟨r, cc⟩ := c
  cases r with
  | subscribe ty d =>
    exact hr.addHandler (.ofType ty) d fun _ _ => registered_subscribe rs _ _ ty d
  | subscribeToAll d =>
    exact hr.addHandler .all d fun _ _ => registered_subscribeToAll rs _ _ d
  | unsubscribe ty d =>
    have his := hr.unsubscribe ty d
    have he : (m.unsubscribe ty d).2 ≠ .nothing →
        (m.unsubscribe ty d).1.handlersOf (channelOf ty) = [] := by
      intro hs
      by_contra hn
      exact hs ((await_unsubscribe m ty d).mpr hn)
    simp only [perform]
    split
    · refine (his.unsubscribed he).finishUnsubscribe fun hdl => ?_
      rw [handlersOf_unsubscribed]
      exact he (by simp [hdl])
    · exact his

lemma registry_performed (cs : List (Request Handler × Bool)) :
    Registry (cs.map Prod.fst) (performed cs) := by
  induction cs using reverseRecOn with
  | nil => exact registry_constructed
  | append_singleton cs c ih =>
    rw [performed, foldl_append, map_append]
    exact registry_perform ih c

/-- A handler is invoked for each message once under the channel of the message, and for a message
of a type once more if it is a handler for all events. -/
lemma invocations_eq (m : Manager Handler) (e : EventType) (d : Handler) :
    invocations m e d = (if channelOf e.name ∈ m.subscriptions then
        (if d ∈ m.handlersOf (channelOf e.name) then 1 else 0) +
          (if d ∈ m.handlersOf wildcard then 1 else 0) else 0) +
      if wildcard ∈ m.subscriptions then if d ∈ m.handlersOf wildcard then 1 else 0 else 0 := by
  have ho : ∀ c, (m.handlersOf c).count d = if d ∈ m.handlersOf c then 1 else 0 := by
    intro c
    exact (m.nodup_handlersOf c).count
  have ht := channelOf_name_ne_wildcard e
  simp only [invocations, publish, onMessage, flatMap_cons, flatMap_nil,
    append_nil, count_append, if_pos ht, ne_eq, not_true, if_false]
  split <;> split <;> simp [ho]

lemma invocations_all {e : EventType} {d : Handler} (hr : Registry rs m)
    (mem : d ∈ m.handlersOf wildcard) :
    invocations m e d = 1 ↔ channelOf e.name ∉ m.subscriptions := by
  have hs := hr.subscribed wildcard (ne_nil_of_mem mem)
  rw [invocations_eq, if_pos hs, if_pos mem]
  by_cases ht : channelOf e.name ∈ m.subscriptions
  · rw [if_pos ht]
    simp only [ht, not_true, iff_false]
    omega
  · simp [ht]

lemma invocations_ofType {e : EventType} {d : Handler} (hr : Registry rs m)
    (mem : d ∈ m.handlersOf (channelOf e.name)) :
    invocations m e d = 1 ↔ d ∉ m.handlersOf wildcard := by
  have hs := hr.subscribed (channelOf e.name) (ne_nil_of_mem mem)
  rw [invocations_eq, if_pos hs, if_pos mem]
  by_cases all : d ∈ m.handlersOf wildcard
  · simp only [all, if_true, not_true, iff_false]
    omega
  · simp [all]

lemma mem_handlersOf_name (hr : Registry rs m) (e : EventType)
    (d : Handler) : d ∈ m.handlersOf (channelOf e.name) ↔ Registered rs (.ofType e.name) d := by
  rw [hr.handlers]
  constructor
  · rintro ⟨o, hs, hrg⟩
    cases o with
    | all => exact absurd hs.symm (channelOf_name_ne_wildcard e)
    | ofType ty => exact channelOf_injective hs ▸ hrg
  · intro hrg
    exact ⟨.ofType e.name, rfl, hrg⟩

end EventDelivery
