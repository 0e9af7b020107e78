import Mathlib.Data.List.Basic

/-!
# Keys with an expiry time

The string keys of a Redis database: a value written with `setex` can be read until its
time to live has passed. Times are milliseconds, times to live seconds.
-/

universe u v

structure ExpiringEntry (V : Type v) where
  value : V
  expiresAt : Nat

def ExpiringKeys (K : Type u) (V : Type v) := K → Option (ExpiringEntry V)

namespace ExpiringKeys

variable {K : Type u} {V : Type v}

def get (keys : ExpiringKeys K V) (now : Nat) (k : K) : Option V :=
  match keys k with
  | some entry => if now ≤ entry.expiresAt then some entry.value else none
  | none => none

variable {k k' : K} {keys : ExpiringKeys K V} {now : Nat} {v : V}

lemma get_eq_some_iff : keys.get now k = some v ↔
      ∃ e, keys k = some e ∧ now ≤ e.expiresAt ∧ e.value = v := by
  rw [get]
  cases keys k with
  | none => simp
  | some e =>
    by_cases hl : now ≤ e.expiresAt <;> simp [hl]

lemma get_of_later {l : Nat}
    (ho : now ≤ l) (hf : keys.get l k = some v) : keys.get now k = some v := by
  obtain ⟨e, hst, hlv, vl⟩ := get_eq_some_iff.mp hf
  exact get_eq_some_iff.mpr ⟨e, hst, Nat.le_trans ho hlv, vl⟩

/-- The time to live of the key is over, or there is no such key. -/
def PastDue (keys : ExpiringKeys K V) (now : Nat) (k : K) : Prop :=
  ∀ entry, keys k = some entry → entry.expiresAt ≤ now

instance (keys : ExpiringKeys K V) (now : Nat) (k : K) : Decidable (keys.PastDue now k) :=
  match h : keys k with
  | none => .isTrue (by simp [PastDue, h])
  | some entry => decidable_of_iff (entry.expiresAt ≤ now) (by simp [PastDue, h])

variable [DecidableEq K]

def setex (keys : ExpiringKeys K V) (now : Nat) (k : K) (ttl : Nat) (v : V) : ExpiringKeys K V :=
  fun k' => if k' = k then some ⟨v, now + ttl * 1000⟩ else keys k'

def del (keys : ExpiringKeys K V) (removed : List K) : ExpiringKeys K V := fun k =>
  if k ∈ removed then none else keys k

@[simp] lemma setex_self (keys : ExpiringKeys K V) (now : Nat) (k : K) (ttl : Nat) (v : V) :
    keys.setex now k ttl v k = some ⟨v, now + ttl * 1000⟩ := by
  simp [setex]

lemma setex_of_ne (ks : ExpiringKeys K V) (now : Nat) (hne : k' ≠ k)
    (ttl : Nat) (v : V) : ks.setex now k ttl v k' = ks k' := by
  simp [setex, hne]

lemma get_setex_of_ne (ks : ExpiringKeys K V) (now : Nat) (hne : k' ≠ k)
    (ttl : Nat) (v : V) : (ks.setex now k ttl v).get now k' = ks.get now k' := by
  rw [get, setex_of_ne ks now hne, get]

lemma eq_of_get_setex {ttl : Nat} {w : V}
    (hf : (keys.setex now k ttl v).get now k = some w) : w = v := by
  obtain ⟨e, hst, -, rfl⟩ := get_eq_some_iff.mp hf
  rw [setex_self] at hst
  cases hst
  rfl

lemma get_del_of_ne (ks : ExpiringKeys K V) (now : Nat) (hne : k' ≠ k) :
    (ks.del [k]).get now k' = ks.get now k' := by
  rw [get, del, if_neg (by simpa using hne), get]

lemma get_del_self (ks : ExpiringKeys K V) (now : Nat) (k : K) : (ks.del [k]).get now k = none := by
  rw [get, del, if_pos (List.mem_singleton_self k)]

end ExpiringKeys
