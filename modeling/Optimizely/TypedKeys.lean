import Optimizely.ExpiringKeys
import Optimizely.OrderedMap

/-!
# Keys of two types

A Redis key holds a string or a hash. Hash commands are rejected while it holds a string, and
create the hash if there is none. `EXPIRE` applies to a key of either type.
-/

universe u v

/-- The entry under a key, unless its time to live has passed. -/
def ExpiringKeys.live {K : Type u} {V : Type v} (keys : ExpiringKeys K V) (now : Nat) (k : K) :
    Option (ExpiringEntry V) :=
  (keys k).filter fun entry => now ≤ entry.expiresAt

lemma ExpiringKeys.live_eq_some_iff {K : Type u} {V : Type v} {keys : ExpiringKeys K V}
    {now : Nat} {k : K} {e : ExpiringEntry V} :
    keys.live now k = some e ↔ keys k = some e ∧ now ≤ e.expiresAt := by
  simp [live, Option.filter_eq_some_iff]

structure HashEntry where
  fields : OrderedMap String Int
  expiresAt : Option Nat

structure TypedKeys (K : Type u) (V : Type v) where
  strings : ExpiringKeys K V
  hashes : K → Option HashEntry

namespace TypedKeys

open ExpiringKeys

variable {K : Type u} {V : Type v}

/-- The hash under a key; an empty one that does not expire if there is none. -/
def hashAt (keys : TypedKeys K V) (now : Nat) (k : K) : HashEntry :=
  ((keys.hashes k).filter fun hash => hash.expiresAt.all fun time => now ≤ time).getD
    ⟨.empty, none⟩

variable [DecidableEq K]

/-- A hash command that changes the fields; none if it is rejected. -/
def onHash (keys : TypedKeys K V) (now : Nat) (k : K)
    (change : OrderedMap String Int → OrderedMap String Int) : Option (TypedKeys K V) :=
  match keys.strings.live now k with
  | some _ => none
  | none =>
    let hash := keys.hashAt now k
    some ⟨keys.strings.del [k],
      fun k' => if k' = k then some { hash with fields := change hash.fields } else keys.hashes k'⟩

def hincrby (keys : TypedKeys K V) (now : Nat) (k : K) (field : String) (amount : Int) :
    Option (TypedKeys K V) :=
  keys.onHash now k fun fields => fields.addTo field amount

def hset (keys : TypedKeys K V) (now : Nat) (k : K) (field : String) (value : Int) :
    Option (TypedKeys K V) :=
  keys.onHash now k fun fields => fields.set field value

def expire (keys : TypedKeys K V) (now : Nat) (k : K) (ttl : Nat) : TypedKeys K V where
  strings := fun k' =>
    if k' = k then
      (keys.strings.live now k).map fun entry => { entry with expiresAt := now + ttl * 1000 }
    else keys.strings k'
  hashes := fun k' =>
    if k' = k then
      ((keys.hashes k).filter fun hash => hash.expiresAt.all fun time => now ≤ time).map
        fun hash => { hash with expiresAt := some (now + ttl * 1000) }
    else keys.hashes k'

variable {keys : TypedKeys K V} {now : Nat} {k : K}

lemma strings_onHash (change : OrderedMap String Int → OrderedMap String Int) (k' : K) :
    ((keys.onHash now k change).getD keys).strings k' =
      if k' = k then keys.strings.live now k else keys.strings k' := by
  rw [onHash]
  cases hl : keys.strings.live now k with
  | some e =>
    have hst := (live_eq_some_iff.mp hl).1
    by_cases hs : k' = k <;> simp [hs, hst]
  | none =>
    by_cases hs : k' = k <;> simp [hs, del]

lemma live_onHash (change : OrderedMap String Int → OrderedMap String Int) :
    ((keys.onHash now k change).getD keys).strings.live now k = keys.strings.live now k := by
  have hst : ((keys.onHash now k change).getD keys).strings k = keys.strings.live now k := by
    rw [strings_onHash, if_pos rfl]
  rw [live, hst, live, Option.filter_filter]
  simp

end TypedKeys
