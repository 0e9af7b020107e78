import Mathlib.Algebra.Order.Group.Int
import Optimizely.EventManager

/-!
# Recent events

`storeRecentEvent` pushes an event onto the list of its type and that of all events, and trims both.
`getRecentEvents` reads from the front up to the index `limit - 1`, which for a limit of 0 is the
last one.
-/

namespace RecentEvents

open EventManager List Function

variable {E : Type}

/-- `LRANGE`: negative indices count from the end, and `stop` is included. -/
def lrange (list : List E) (start stop : Int) : List E :=
  let index (i : Int) : Int := if i < 0 then i + list.length else i
  (list.take (index stop + 1).toNat).drop (index start).toNat

/-- `LPUSH`, then `LTRIM` to what `lrange` reads. -/
def pushTrimmed (lists : String → List E) (key : String) (event : E) (stop : Nat) :
    String → List E :=
  update lists key (lrange (event :: lists key) 0 stop)

structure Replay (E : Type) where
  lists : String → List E
  total : Int
  byType : OrderedMap String Int

def recentKey (eventType : String) : String := "recent_events:" ++ eventType

def storeRecentEvent (type : E → EventType) (replay : Replay E) (event : E) : Replay E where
  lists := pushTrimmed (pushTrimmed replay.lists (recentKey (type event).name) event 99)
    (recentKey "all") event 499
  total := replay.total + 1
  byType := replay.byType.addTo (type event).name 1

def getRecentEvents (replay : Replay E) (eventType : Option String) (limit : Nat) : List E :=
  let key := if eventType.getD "" ≠ "" then recentKey (eventType.getD "") else recentKey "all"
  lrange (replay.lists key) 0 (limit - 1)

/-- What was stored of a history of events, oldest first. -/
def replayOf (type : E → EventType) (history : List E) : Replay E :=
  history.foldl (storeRecentEvent type) ⟨fun _ => [], 0, .empty⟩

def ofType (type : E → EventType) (history : List E) (eventType : String) : List E :=
  history.filter fun event => (type event).name = eventType

/-- The newest events asked for, newest first. -/
def newest (type : E → EventType) (history : List E) (limit : Nat) : Option String → List E
  | some eventType => (ofType type history eventType).reverse.take (min limit 100)
  | none => history.reverse.take (min limit 500)

/-- Nothing was stored if nothing is asked for, and no type is asked for that names the list of
all events. -/
def Readable (type : E → EventType) (history : List E) (limit : Nat) : Option String → Prop
  | none => limit = 0 → history = []
  | some eventType =>
    if eventType = "" ∨ eventType = "all" then history = []
    else limit = 0 → ofType type history eventType = []

lemma lrange_zero (l : List E) (n : Nat) : lrange l 0 n = l.take (n + 1) := by
  simp [lrange, Int.not_lt.mpr (Int.natCast_nonneg n)]

lemma lrange_limit (l : List E) (n : Nat) :
    lrange l 0 ((n : Int) - 1) = if n = 0 then l else l.take n := by
  cases n with
  | zero => simp [lrange]
  | succ n => simpa using lrange_zero l n

lemma pushTrimmed_self {ls : String → List E} {k : String} {r : List E} {n : Nat}
    (h : ls k = r.take (n + 1)) (e : E) : pushTrimmed ls k e n k = (e :: r).take (n + 1) := by
  rw [pushTrimmed, update_self, lrange_zero, h, take_succ_cons, take_succ_cons, take_take,
    Nat.min_eq_left (Nat.le_succ n)]

lemma pushTrimmed_of_ne {k k' : String} (hne : k' ≠ k) (ls : String → List E) (e : E)
    (n : Nat) : pushTrimmed ls k e n k' = ls k' :=
  update_of_ne hne _ _

lemma recentKey_inj {a b : String} : recentKey a = recentKey b ↔ a = b := by
  simp [recentKey]

lemma name_ne (t : EventType) : t.name ≠ "" ∧ t.name ≠ "all" := by
  cases t <;> decide

section

variable (type : E → EventType) (xs : List E)

lemma lists_replayOf (t : String) : (replayOf type xs).lists (recentKey t) =
    if t = "all" then xs.reverse.take 500 else (ofType type xs t).reverse.take 100 := by
  induction xs using reverseRecOn with
  | nil => simp [replayOf, ofType]
  | append_singleton xs e ih =>
    have ha : recentKey "all" ≠ recentKey (type e).name := by
      rw [Ne, recentKey_inj]
      exact (name_ne _).2.symm
    rw [replayOf, foldl_concat, ← replayOf]
    dsimp only [storeRecentEvent]
    by_cases all : t = "all"
    · subst all
      rw [if_pos rfl] at ih ⊢
      rw [reverse_concat]
      exact pushTrimmed_self ((pushTrimmed_of_ne ha _ e 99).trans ih) e
    · rw [if_neg all] at ih ⊢
      rw [pushTrimmed_of_ne (by rwa [Ne, recentKey_inj]), ofType, filter_append]
      by_cases hs : (type e).name = t
      · subst hs
        rw [filter_cons_of_pos (by simp), filter_nil, reverse_concat]
        exact pushTrimmed_self ih e
      · rw [pushTrimmed_of_ne (by rw [Ne, recentKey_inj]; exact Ne.symm hs),
          filter_cons_of_neg (by simpa using hs), filter_nil, append_nil]
        exact ih

lemma total_replayOf : (replayOf type xs).total = (replayOf type xs).byType.values.sum := by
  induction xs using reverseRecOn with
  | nil => rfl
  | append_singleton xs e ih =>
    simp only [replayOf, foldl_concat, storeRecentEvent, OrderedMap.sum_values_addTo] at ih ⊢
    rw [ih]

/-- The newest events are returned just if the limit is not 0 and the type names no other list,
unless there is nothing to return. -/
theorem getRecentEvents_iff (l : Nat) (et : Option String) :
    (getRecentEvents (replayOf type xs) et l = newest type xs l et ↔ Readable type xs l et) ∧
      (replayOf type xs).total = (replayOf type xs).byType.values.sum := by
  refine ⟨?_, total_replayOf type xs⟩
  rw [getRecentEvents]
  cases et with
  | none =>
    simp only [Option.getD_none, ne_eq, not_true, if_false, lists_replayOf, if_true, lrange_limit,
      newest, Readable]
    split <;> simp [*, take_take]
  | some t =>
    simp only [Option.getD_some, newest, Readable, lrange_limit]
    by_cases hg : t = "" ∨ t = "all"
    · have key : (if t ≠ "" then recentKey t else recentKey "all") = recentKey "all" := by
        rcases hg with rfl | rfl <;> rfl
      have none : ofType type xs t = [] := by
        refine filter_eq_nil_iff.mpr fun e _ => ?_
        rcases hg with rfl | rfl <;> simp [name_ne]
      rw [key, lists_replayOf, if_pos rfl, if_pos hg, none]
      split <;> simp [*]
    · have key : (if t ≠ "" then recentKey t else recentKey "all") = recentKey t :=
        if_pos (mt .inl hg)
      rw [key, lists_replayOf, if_neg (mt .inr hg), if_neg hg]
      split <;> simp [*, take_take]

end

theorem zero_returns_all : getRecentEvents (replayOf id [.dealScored, .dataUpdated]) none 0 =
    [.dataUpdated, .dealScored] := by
  decide

end RecentEvents
