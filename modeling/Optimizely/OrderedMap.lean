import Mathlib.Algebra.BigOperators.Group.Finset.Basic
import Mathlib.Algebra.Ring.Int.Defs

/-!
# Maps that remember the order of insertion

A finite map as a list of entries with distinct keys. Writing to a present key keeps
its place in the order; a new key goes to the end.
-/

universe u v

structure OrderedMap (K : Type u) (V : Type v) where
  entries : List (K × V)
  nodup : (entries.map Prod.fst).Nodup

namespace OrderedMap

open List Option

variable {K : Type u} {V : Type v}

def empty : OrderedMap K V := ⟨[], by simp⟩

def keys (m : OrderedMap K V) : List K := m.entries.map Prod.fst

def values (m : OrderedMap K V) : List V := m.entries.map Prod.snd

@[simp] lemma values_empty : (empty : OrderedMap K V).values = [] := rfl

instance [DecidableEq K] [DecidableEq V] : DecidableEq (OrderedMap K V) := fun m n =>
  decidable_of_iff (m.entries = n.entries) (by cases m; cases n; simp)

variable [DecidableEq K]

def lookup (k : K) : List (K × V) → Option V
  | [] => none
  | entry :: entries => if entry.1 = k then some entry.2 else lookup k entries

def get? (m : OrderedMap K V) (k : K) : Option V := lookup k m.entries

def replace (k : K) (v : V) : List (K × V) → List (K × V)
  | [] => [(k, v)]
  | entry :: entries => if entry.1 = k then (k, v) :: entries else entry :: replace k v entries

lemma mem_keys_replace (k : K) (v : V) (es : List (K × V)) (k' : K) :
    k' ∈ (replace k v es).map Prod.fst ↔ k' = k ∨ k' ∈ es.map Prod.fst := by
  induction es with
  | nil => simp [replace]
  | cons e es ih =>
    by_cases h : e.1 = k
    · simp [replace, h]
    · simp only [replace, if_neg h, map_cons, mem_cons, ih]
      tauto

variable {entries : List (K × V)} {k : K} {v : V} {m : OrderedMap K V}

lemma nodup_replace (k : K) (v : V)
    (hds : (entries.map Prod.fst).Nodup) : ((replace k v entries).map Prod.fst).Nodup := by
  induction entries with
  | nil => simp [replace]
  | cons e entries ih =>
    obtain ⟨hf, r⟩ := nodup_cons.mp hds
    by_cases h : e.1 = k
    · simpa [replace, ← h] using hds
    · simp only [replace, if_neg h, map_cons]
      refine nodup_cons.mpr ⟨?_, ih r⟩
      intro mem
      rcases (mem_keys_replace k v entries e.1).mp mem with heq | old
      · exact h heq
      · exact hf old

def set (m : OrderedMap K V) (k : K) (v : V) : OrderedMap K V :=
  ⟨replace k v m.entries, nodup_replace k v m.nodup⟩

lemma mem_of_lookup (hf : lookup k entries = some v) : (k, v) ∈ entries := by
  induction entries with
  | nil => cases hf
  | cons e entries ih =>
    by_cases h : e.1 = k
    · have hv : e.2 = v := by simpa [lookup, h] using hf
      rw [← h, ← hv]
      exact mem_cons_self
    · exact mem_cons_of_mem _ (ih (by simpa [lookup, h] using hf))

lemma lookup_of_not_mem (ha : k ∉ entries.map Prod.fst) : lookup k entries = none := by
  cases hf : lookup k entries with
  | none => rfl
  | some v => exact absurd (mem_map_of_mem (mem_of_lookup hf)) ha

lemma mem_of_get? (hf : m.get? k = some v) : (k, v) ∈ m.entries := mem_of_lookup hf

lemma lookup_of_mem (hds : (entries.map Prod.fst).Nodup) (mem : (k, v) ∈ entries) :
    lookup k entries = some v := by
  induction entries with
  | nil => cases mem
  | cons e entries ih =>
    obtain ⟨hf, r⟩ := nodup_cons.mp hds
    rcases mem_cons.mp mem with rfl | old
    · exact if_pos rfl
    · have ne : e.1 ≠ k := fun h => hf (h ▸ mem_map_of_mem old)
      exact (if_neg ne).trans (ih r old)

lemma lookup_perm {entries' : List (K × V)} (hs : entries.Perm entries')
    (hds : (entries'.map Prod.fst).Nodup) (k : K) : lookup k entries = lookup k entries' := by
  have hds' : (entries.map Prod.fst).Nodup := (hs.map Prod.fst).nodup_iff.mpr hds
  ext v
  constructor
  · exact fun hf => lookup_of_mem hds (hs.mem_iff.mp (mem_of_lookup hf))
  · exact fun hf => lookup_of_mem hds' (hs.mem_iff.mpr (mem_of_lookup hf))

lemma lookup_append (k : K) (first r : List (K × V)) :
    lookup k (first ++ r) = (lookup k first).or (lookup k r) := by
  induction first with
  | nil => rfl
  | cons entry first ih =>
    rw [cons_append, lookup, ih, lookup]
    split <;> rfl

lemma get?_of_mem (mem : (k, v) ∈ m.entries) : m.get? k = some v := lookup_of_mem m.nodup mem

lemma mem_entries {e : K × V} : e ∈ m.entries ↔ m.get? e.1 = some e.2 := ⟨get?_of_mem, mem_of_get?⟩

lemma lookup_replace (k : K) (v : V) (entries : List (K × V)) (k' : K) :
    lookup k' (replace k v entries) = if k = k' then some v else lookup k' entries := by
  induction entries with
  | nil => simp [replace, lookup]
  | cons e entries ih =>
    by_cases h : e.1 = k
    · by_cases hk : k = k' <;> simp [replace, lookup, h, hk]
    · by_cases hk : k = k'
      · subst hk
        simp only [replace, if_neg h, lookup, ih, if_true]
      · simp only [replace, if_neg h, lookup, ih, if_neg hk]

lemma get?_set (m : OrderedMap K V) (k : K) (v : V) (k' : K) :
    (m.set k v).get? k' = if k = k' then some v else m.get? k' :=
  lookup_replace k v m.entries k'

lemma mem_entries_set {en : K × V} (mem : en ∈ (m.set k v).entries) :
    en = (k, v) ∨ en ∈ m.entries := by
  have hf := get?_of_mem mem
  rw [get?_set] at hf
  split at hf
  · rename_i hs
    cases hf
    exact .inl (Prod.ext hs.symm rfl)
  · exact .inr (mem_of_get? hf)

/-- What `f` sees of the entries does not change when it sees the same of a new value. -/
lemma map_get?_set {W : Type*} (f : V → W) {old new : V}
    (hf : m.get? k = some old) (hs : f new = f old) (k' : K) :
    ((m.set k new).get? k').map f = (m.get? k').map f := by
  rw [get?_set]
  by_cases hh : k = k'
  · subst hh
    simp [hf, hs]
  · simp [hh]

@[simp] lemma values_set_empty (k : K) (v : V) : (empty.set k v).values = [v] := rfl

def filter (m : OrderedMap K V) (keep : K → V → Bool) : OrderedMap K V where
  entries := m.entries.filter fun entry => keep entry.1 entry.2
  nodup := m.nodup.sublist ((List.filter_sublist).map Prod.fst)

lemma get?_of_filter {g : K → V → Bool} (hf : (m.filter g).get? k = some v) : m.get? k = some v :=
  get?_of_mem (mem_of_mem_filter (mem_of_get? hf))

lemma get?_filter_of_keep {g : K → V → Bool}
    (hf : m.get? k = some v) (hkp : g k v = true) : (m.filter g).get? k = some v :=
  get?_of_mem (mem_filter.mpr ⟨mem_of_get? hf, hkp⟩)

section

variable {A : Type*} (key : A → K) (vl : A → V) {it : List A}

lemma get?_foldl_set_of_not_mem {k : K} (ha : k ∉ it.map key) (m : OrderedMap K V) :
    (it.foldl (fun m i => m.set (key i) (vl i)) m).get? k = m.get? k := by
  induction it generalizing m with
  | nil => rfl
  | cons i it ih =>
    simp only [map_cons, mem_cons, not_or] at ha
    rw [foldl_cons, ih ha.2, get?_set, if_neg (Ne.symm ha.1)]

lemma get?_foldl_set_of_mem (hds : (it.map key).Nodup) {i : A} (mem : i ∈ it) (m : OrderedMap K V) :
    (it.foldl (fun m i => m.set (key i) (vl i)) m).get? (key i) = some (vl i) := by
  induction it generalizing m with
  | nil => cases mem
  | cons first it ih =>
    rw [map_cons, nodup_cons] at hds
    rw [foldl_cons]
    rcases mem_cons.mp mem with rfl | l
    · rw [get?_foldl_set_of_not_mem key vl hds.1, get?_set, if_pos rfl]
    · exact ih hds.2 l _

lemma get?_foldl_set_cases {m : OrderedMap K V} {k : K} {v : V}
    (hf : (it.foldl (fun m i => m.set (key i) (vl i)) m).get? k = some v) :
    (∃ i ∈ it, key i = k ∧ vl i = v) ∨ m.get? k = some v := by
  induction it generalizing m with
  | nil => exact .inr hf
  | cons first it ih =>
    rcases ih hf with ⟨i, mem, hs⟩ | b
    · exact .inl ⟨i, mem_cons_of_mem _ mem, hs⟩
    · rw [get?_set] at b
      split at b
      · rename_i hh
        exact .inl ⟨first, mem_cons_self, hh, some.inj b⟩
      · exact .inr b

end

def erase (m : OrderedMap K V) (k : K) : OrderedMap K V := m.filter fun k' _ => k' ≠ k

lemma mem_keys_set (m : OrderedMap K V) (k : K) (v : V) (k' : K) :
    k' ∈ (m.set k v).keys ↔ k' = k ∨ k' ∈ m.keys :=
  mem_keys_replace k v m.entries k'

lemma mem_keys_erase (m : OrderedMap K V) (k k' : K) :
    k' ∈ (m.erase k).keys ↔ k' ∈ m.keys ∧ k' ≠ k := by
  simp only [keys, erase, filter, List.mem_map, mem_filter, decide_eq_true_eq]
  constructor
  · rintro ⟨e, ⟨mem, hk⟩, rfl⟩
    exact ⟨⟨e, mem, rfl⟩, hk⟩
  · rintro ⟨⟨e, mem, rfl⟩, hk⟩
    exact ⟨e, ⟨mem, hk⟩, rfl⟩

lemma mem_keys_of_get? (hf : m.get? k = some v) : k ∈ m.keys := mem_map_of_mem (mem_of_get? hf)

lemma mem_keys_filter {keep : K → V → Bool} :
    k ∈ (m.filter keep).keys ↔ ∃ v, m.get? k = some v ∧ keep k v = true := by
  constructor
  · intro mem
    obtain ⟨e, he, rfl⟩ := mem_map.mp mem
    obtain ⟨he, hk⟩ := mem_filter.mp he
    exact ⟨e.2, get?_of_mem he, hk⟩
  · rintro ⟨v, hf, hk⟩
    exact mem_keys_of_get? (get?_filter_of_keep hf hk)

lemma flatMap_entries_of_key {B : Type*} (f : K × V → List B)
    (ho : ∀ en ∈ m.entries, en.1 ≠ k → f en = []) :
    m.entries.flatMap f = (m.get? k).elim [] fun v => f (k, v) := by
  obtain ⟨entries, hds⟩ := m
  rw [get?]
  induction entries with
  | nil => rfl
  | cons en entries ih =>
    obtain ⟨hf, r⟩ := nodup_cons.mp hds
    have ih := ih r fun en mem => ho en (mem_cons_of_mem _ mem)
    by_cases h : en.1 = k
    · subst h
      rw [flatMap_cons, ih, lookup_of_not_mem hf]
      simp [lookup]
    · rw [flatMap_cons, ho en mem_cons_self h, ih]
      simp [lookup, h]

lemma get?_erase (m : OrderedMap K V) (k k' : K) :
    (m.erase k).get? k' = if k = k' then none else m.get? k' := by
  ext v
  rw [← mem_entries (e := (k', v)), erase, filter, mem_filter, mem_entries]
  by_cases h : k = k' <;> simp [h, eq_comm]

lemma perm_cons_erase {n : OrderedMap K V} (hf : n.get? k = some v)
    (hs : ∀ k', k ≠ k' → n.get? k' = m.get? k') : n.entries ~ (k, v) :: (m.erase k).entries := by
  have hds : ((k, v) :: (m.erase k).entries).Nodup := by
    refine nodup_cons.mpr ⟨fun h => ?_, .of_map _ (m.erase k).nodup⟩
    exact ((mem_keys_erase m k k).mp (mem_map_of_mem h)).2 rfl
  rw [perm_ext_iff_of_nodup (.of_map _ n.nodup) hds]
  rintro ⟨k', v'⟩
  rw [mem_cons, mem_entries, mem_entries, get?_erase]
  by_cases h : k = k'
  · subst h
    simp [hf, eq_comm]
  · simp [h, hs k' h, Ne.symm h]

lemma perm_set (m : OrderedMap K V) (k : K) (v : V) :
    (m.set k v).entries ~ (k, v) :: (m.erase k).entries :=
  perm_cons_erase (by simp [get?_set]) fun k' h => by simp [get?_set, h]

/-- `{...m, ...n}`. -/
def spread (m n : OrderedMap K V) : OrderedMap K V :=
  n.entries.foldl (fun m entry => m.set entry.1 entry.2) m

lemma get?_spread (m n : OrderedMap K V) (k : K) :
    (m.spread n).get? k = (n.get? k).or (m.get? k) := by
  cases hf : n.get? k with
  | none =>
    refine get?_foldl_set_of_not_mem Prod.fst Prod.snd (fun mem => ?_) m
    obtain ⟨entry, s, rfl⟩ := List.mem_map.mp mem
    cases hf.symm.trans (get?_of_mem s)
  | some v => exact get?_foldl_set_of_mem Prod.fst Prod.snd n.nodup (mem_of_get? hf) m

section

variable {M : Type v} [AddCommMonoid M] {W : Type*}

lemma sum_map_values (f : W → M) (m : OrderedMap K W) :
    (m.values.map f).sum = ∑ k ∈ m.keys.toFinset, ((m.get? k).map f).getD 0 := by
  rw [keys, sum_toFinset _ m.nodup, values, List.map_map, List.map_map]
  congr 1
  apply map_congr_left
  intro entry mem
  simp [get?_of_mem mem]

lemma sum_map_erase (f : K × W → M) (m : OrderedMap K W) (k : K) :
    ((m.erase k).entries.map f).sum + ((m.get? k).map fun old => f (k, old)).getD 0 =
      (m.entries.map f).sum := by
  cases hf : m.get? k with
  | none =>
    have hs : (m.erase k).entries = m.entries := by
      apply filter_eq_self.mpr
      rintro ⟨k', v⟩ mem
      have ne : k' ≠ k := fun h => by simp [← h, get?_of_mem mem] at hf
      simpa using ne
    simp [hs]
  | some old =>
    rw [((perm_cons_erase hf fun _ _ => rfl).map f).sum_eq, map_cons, sum_cons, add_comm]
    rfl

lemma sum_map_set (f : K × W → M) (m : OrderedMap K W) (k : K) (v : W) :
    ((m.set k v).entries.map f).sum + ((m.get? k).map fun old => f (k, old)).getD 0 =
      (m.entries.map f).sum + f (k, v) := by
  rw [((perm_set m k v).map f).sum_eq, map_cons, sum_cons, add_assoc, sum_map_erase, add_comm]

lemma sum_values_set (m : OrderedMap K M) (k : K) (v : M) :
    (m.set k v).values.sum + (m.get? k).getD 0 = m.values.sum + v := by
  simpa [values] using sum_map_set Prod.snd m k v

/-- How many values have a property after one of them has been written. -/
lemma countP_values_set (p : W → Bool) (m : OrderedMap K W) (k : K) (v : W) :
    (m.set k v).values.countP p + ((m.get? k).map fun old => if p old then 1 else 0).getD 0 =
      m.values.countP p + if p v then 1 else 0 := by
  have hs : ∀ n : OrderedMap K W, n.values.countP p =
      (n.entries.map fun e => if p e.2 then 1 else 0).sum := by
    intro n
    rw [values, countP_map]
    simp [sum_map_ite, countP_eq_length_filter, Function.comp_def]
  rw [hs, hs]
  exact sum_map_set (fun e : K × W => if p e.2 then 1 else 0) m k v

/-- `m[k] = (m[k] || 0) + amount`. -/
def addTo (m : OrderedMap K M) (k : K) (amount : M) : OrderedMap K M :=
  m.set k ((m.get? k).getD 0 + amount)

end

section

variable {M : Type v} [AddCommGroup M]

lemma sum_values_addTo (m : OrderedMap K M) (k : K) (amount : M) :
    (m.addTo k amount).values.sum = m.values.sum + amount := by
  have ht := sum_values_set m k ((m.get? k).getD 0 + amount)
  rw [add_comm ((m.get? k).getD 0) amount, ← add_assoc] at ht
  rw [addTo, add_comm ((m.get? k).getD 0) amount]
  exact add_right_cancel ht

/-- Adding up a list of entries key by key keeps the total. -/
lemma sum_values_foldl_addTo {A : Type*} (key : A → K) (a : A → M) (xs : List A)
    (m : OrderedMap K M) : (xs.foldl (fun m i => m.addTo (key i) (a i)) m).values.sum =
      m.values.sum + (xs.map a).sum := by
  induction xs generalizing m with
  | nil => simp
  | cons i xs ih => rw [foldl_cons, ih, sum_values_addTo, map_cons, sum_cons, add_assoc]

end

section

/-- How often each key occurs in a list. -/
def tally (occurrences : List K) : OrderedMap K Int :=
  occurrences.foldl (fun m k => m.addTo k 1) empty

lemma tally_concat (os : List K) (k : K) : tally (os ++ [k]) = (tally os).addTo k 1 := by
  simp [tally]

lemma sum_values_tally (os : List K) : (tally os).values.sum = os.length := by
  rw [tally, sum_values_foldl_addTo (fun k => k) (fun _ => (1 : Int))]
  simp

lemma getD_tally (os : List K) (k : K) : ((tally os).get? k).getD 0 = os.count k := by
  induction os using reverseRecOn with
  | nil => rfl
  | append_singleton os l ih =>
    rw [tally_concat, addTo, get?_set, count_append, count_singleton]
    by_cases hs : l = k <;> simp [hs, ih]

end

section

variable {W : Type*}

omit [DecidableEq K] in
lemma fst_of_filterMap (f : V → Option W) (es : List (K × V)) :
    ((es.filterMap fun e => (f e.2).map (e.1, ·)).map Prod.fst).Sublist (es.map Prod.fst) := by
  induction es with
  | nil => exact .slnil
  | cons e es ih =>
    cases h : f e.2 with
    | none => simpa [h] using ih.cons _
    | some w => simpa [h] using ih

/-- Every value is replaced or left out. -/
def filterMapValues (m : OrderedMap K V) (f : V → Option W) : OrderedMap K W where
  entries := m.entries.filterMap fun entry => (f entry.2).map (entry.1, ·)
  nodup := m.nodup.sublist (fst_of_filterMap f m.entries)

lemma get?_filterMapValues (m : OrderedMap K V) (f : V → Option W) (k : K) :
    (m.filterMapValues f).get? k = (m.get? k).bind f := by
  ext w
  rw [← mem_entries (e := (k, w)), filterMapValues, mem_filterMap, bind_eq_some_iff]
  constructor
  · rintro ⟨⟨k', v⟩, mem, hs⟩
    obtain ⟨w', g, ⟨⟩⟩ := map_eq_some_iff.mp hs
    exact ⟨v, get?_of_mem mem, g⟩
  · rintro ⟨v, hf, g⟩
    exact ⟨(k, v), mem_of_get? hf, by simp [g]⟩

end

end OrderedMap
