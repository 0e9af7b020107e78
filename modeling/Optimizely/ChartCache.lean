import Mathlib.Tactic
import Optimizely.OrderedMap
import Optimizely.TransitionRuns

/-!
# The cache of the chart engine

The limit is on the sum of the sizes, but a cache over it only loses a fifth of its entries,
rounded down: nothing if there are fewer than five.
-/

namespace PerformanceEngine

open TransitionRuns List OrderedMap

variable {D : Type}

structure CacheEntry (D : Type) where
  key : String
  data : D
  size : ℚ
  accessCount : Nat
  lastAccessed : Int
  createdAt : Int
  expiresAt : Option Int

abbrev Cache (D : Type) := OrderedMap String (CacheEntry D)

structure Engine (D : Type) where
  maxCacheSize : ℚ
  cache : Cache D
  now : Int

/-- The sort of the source is stable, too. -/
def byLastAccess (cache : Cache D) : List (String × CacheEntry D) :=
  cache.entries.insertionSort fun a b => a.2.lastAccessed ≤ b.2.lastAccessed

def toRemove (cache : Cache D) (percentage : ℚ) : Nat :=
  ⌊cache.entries.length * percentage⌋₊

def evictLRUCacheEntries (cache : Cache D) (percentage : ℚ) : Cache D :=
  ((byLastAccess cache).take (toRemove cache percentage)).foldl (fun cache e => cache.erase e.1)
    cache

def totalSize (cache : Cache D) : ℚ := (cache.entries.map (·.2.size)).sum

def enforceCacheLimit (maxCacheSize : ℚ) (cache : Cache D) : Cache D :=
  if totalSize cache > maxCacheSize then evictLRUCacheEntries cache 0.2 else cache

/-- A time to live of zero is none. -/
def newEntry (now : Int) (key : String) (data : D) (size : ℚ) (ttl : Option Int) : CacheEntry D :=
  ⟨key, data, size, 1, now, now, (ttl.filter (· ≠ 0)).map (now + ·)⟩

def Engine.setCacheEntry (engine : Engine D) (key : String) (data : D) (size : ℚ)
    (ttl : Option Int) : Engine D :=
  let cache := engine.cache.set key (newEntry engine.now key data size ttl)
  { engine with cache := enforceCacheLimit engine.maxCacheSize cache }

def CacheEntry.isExpired (entry : CacheEntry D) (now : Int) : Bool :=
  entry.expiresAt.any fun time => time ≠ 0 ∧ now > time

def Engine.getCacheEntry (engine : Engine D) (key : String) : Option (CacheEntry D) × Engine D :=
  match engine.cache.get? key with
  | none => (none, engine)
  | some entry =>
    if entry.isExpired engine.now then
      (none, { engine with cache := engine.cache.erase key })
    else
      let entry := { entry with
        accessCount := entry.accessCount + 1, lastAccessed := engine.now }
      (some entry, { engine with cache := engine.cache.set key entry })

inductive Call (D : Type) where
  | set (now : Int) (key : String) (data : D) (size : ℚ) (ttl : Option Int)
  | get (now : Int) (key : String)

def step (engine : Engine D) : Call D → Option (Engine D)
  | .set now key data size ttl =>
    if engine.now ≤ now then some ({ engine with now }.setCacheEntry key data size ttl) else none
  | .get now key =>
    if engine.now ≤ now then some ({ engine with now }.getCacheEntry key).2 else none

def start (maxCacheSize : ℚ) : Engine D := ⟨maxCacheSize, .empty, 0⟩

/-- The entry fits beside the others, or there are four others at least, none of them smaller
and all of them last accessed before. -/
def Careful (engine : Engine D) : Call D → Prop
  | .set now key _ size _ => 0 ≤ size ∧ size ≤ engine.maxCacheSize ∧
    let others := engine.cache.erase key
    (totalSize others + size ≤ engine.maxCacheSize ∨ 4 ≤ others.entries.length ∧
      ∀ other ∈ others.entries, size ≤ other.2.size ∧ other.2.lastAccessed < now)
  | .get _ _ => True

instance (engine : Engine D) : (call : Call D) → Decidable (Careful engine call)
  | .set _ _ _ _ _ => inferInstanceAs (Decidable (_ ∧ _ ∧ (_ ∨ _ ∧ ∀ _ ∈ _, _)))
  | .get _ _ => .isTrue trivial

section

variable {m : Cache D} {p : ℚ}

lemma entries_foldl_erase (l : List (String × CacheEntry D)) (m : Cache D) :
    (l.foldl (fun m e => m.erase e.1) m).entries = m.entries.filter (·.1 ∉ l.map Prod.fst) := by
  induction l generalizing m with
  | nil => simp
  | cons x l ih =>
    rw [foldl_cons, ih, erase, OrderedMap.filter, filter_filter]
    congr 1
    funext y
    rw [Bool.eq_iff_iff]
    simp only [map_cons, Bool.and_eq_true, decide_eq_true_eq, mem_cons, not_or, and_comm]

lemma filter_not_mem_left {l r : List (String × CacheEntry D)}
    (hd : ((l ++ r).map Prod.fst).Nodup) : (l ++ r).filter (·.1 ∉ l.map Prod.fst) = r := by
  rw [map_append, nodup_append] at hd
  rw [filter_append, filter_eq_nil_iff.mpr, filter_eq_self.mpr, nil_append]
  · intro x hx
    exact decide_eq_true fun hk => hd.2.2 _ hk _ (mem_map_of_mem hx) rfl
  · intro x hx
    simpa using ⟨x.2, hx⟩

lemma take_append_drop_perm (m : Cache D) (n : Nat) :
    (byLastAccess m).take n ++ (byLastAccess m).drop n ~ m.entries := by
  rw [take_append_drop]
  exact perm_insertionSort _ _

lemma perm_evict (m : Cache D) (p : ℚ) :
    (evictLRUCacheEntries m p).entries ~ (byLastAccess m).drop (toRemove m p) := by
  have hp := take_append_drop_perm m (toRemove m p)
  rw [evictLRUCacheEntries, entries_foldl_erase]
  exact (hp.symm.filter _).trans (.of_eq (filter_not_mem_left ((hp.map _).nodup_iff.mpr m.nodup)))

lemma lastAccessed_le (m : Cache D) (n : Nat) :
    ∀ x ∈ (byLastAccess m).take n, ∀ y ∈ (byLastAccess m).drop n,
      x.2.lastAccessed ≤ y.2.lastAccessed := by
  have hs : (byLastAccess m).Pairwise fun a b => a.2.lastAccessed ≤ b.2.lastAccessed := by
    have : IsTrans (String × CacheEntry D) fun a b => a.2.lastAccessed ≤ b.2.lastAccessed :=
      ⟨fun _ _ _ => le_trans⟩
    have : Std.Total fun a b : String × CacheEntry D => a.2.lastAccessed ≤ b.2.lastAccessed :=
      ⟨fun _ _ => le_total _ _⟩
    exact pairwise_insertionSort _ _
  rw [← take_append_drop n (byLastAccess m), pairwise_append] at hs
  exact hs.2.2

lemma totalSize_evict (m : Cache D) (p : ℚ) :
    (((byLastAccess m).take (toRemove m p)).map (·.2.size)).sum +
      totalSize (evictLRUCacheEntries m p) = totalSize m := by
  rw [totalSize, totalSize, ((perm_evict m p).map _).sum_eq, ← sum_append, ← map_append]
  exact ((take_append_drop_perm m _).map _).sum_eq

lemma mem_evict {x : String × CacheEntry D} (hx : x ∈ m.entries)
    (hn : toRemove m p < m.entries.length)
    (hl : ∀ y ∈ m.entries, y ≠ x → y.2.lastAccessed < x.2.lastAccessed) :
    x ∈ (evictLRUCacheEntries m p).entries := by
  have hp := take_append_drop_perm m (toRemove m p)
  rw [(perm_evict m p).mem_iff]
  by_contra hnd
  have ht : x ∈ (byLastAccess m).take (toRemove m p) :=
    (mem_append.mp (hp.mem_iff.mpr hx)).resolve_right hnd
  have hne : (byLastAccess m).drop (toRemove m p) ≠ [] := by
    rw [ne_eq, drop_eq_nil_iff, byLastAccess, length_insertionSort]
    omega
  obtain ⟨y, hy⟩ := exists_mem_of_ne_nil _ hne
  have hlt := hl y (hp.mem_iff.mp (mem_append_right _ hy)) fun h => hnd (h ▸ hy)
  have hle := lastAccessed_le m _ x ht y hy
  omega

end

structure Bounded (limit : ℚ) (cache : Cache D) : Prop where
  nonneg : ∀ entry ∈ cache.entries, 0 ≤ entry.2.size
  total : totalSize cache ≤ max limit 0

section

variable {s t : Engine D} {m : Cache D} {k : String} {e : CacheEntry D} {l : ℚ}

lemma totalSize_set (m : Cache D) (k : String) (e : CacheEntry D) :
    totalSize (m.set k e) = e.size + totalSize (m.erase k) := by
  rw [totalSize, ((perm_set m k e).map _).sum_eq]
  rfl

lemma totalSize_erase_le (hn : ∀ x ∈ m.entries, 0 ≤ x.2.size) (k : String) :
    totalSize (m.erase k) ≤ totalSize m := by
  refine (filter_sublist.map _).sum_le_sum ?_
  simpa using fun x k' e hx hk => hk ▸ hn (k', e) hx

lemma enforceCacheLimit_subset : (enforceCacheLimit l m).entries ⊆ m.entries := by
  rw [enforceCacheLimit]
  split
  · rw [evictLRUCacheEntries, entries_foldl_erase]
    exact filter_subset_self _
  · exact Subset.refl _

lemma toRemove_bounds (h : 5 ≤ m.entries.length) :
    1 ≤ toRemove m 0.2 ∧ toRemove m 0.2 < m.entries.length := by
  have hq : (5 : ℚ) ≤ m.entries.length := by exact_mod_cast h
  constructor
  · exact Nat.le_floor (by norm_num; linarith)
  · exact (Nat.floor_lt (by positivity)).mpr (by norm_num; linarith)

/-- An eviction that takes an entry of the size written makes room, and leaves what was written. -/
lemma evict_set (hn : ∀ x ∈ m.entries, 0 ≤ x.2.size) (he : 0 ≤ e.size)
    (hl : 4 ≤ (m.erase k).entries.length) (ho : ∀ x ∈ (m.erase k).entries,
      e.size ≤ x.2.size ∧ x.2.lastAccessed < e.lastAccessed) :
    totalSize (evictLRUCacheEntries (m.set k e) 0.2) ≤ totalSize m ∧
      (k, e) ∈ (evictLRUCacheEntries (m.set k e) 0.2).entries := by
  have hp := perm_set m k e
  have hb := toRemove_bounds (m := m.set k e) (by rw [hp.length_eq, length_cons]; omega)
  have hs : ∀ x ∈ (m.set k e).entries, e.size ≤ x.2.size := by
    intro x hx
    rcases mem_cons.mp (hp.mem_iff.mp hx) with rfl | hx
    · exact le_refl _
    · exact (ho x hx).1
  constructor
  · have hsb : ∀ x ∈ (byLastAccess (m.set k e)).take (toRemove (m.set k e) 0.2),
        e.size ≤ x.2.size := fun x hx =>
      hs x ((take_append_drop_perm _ _).mem_iff.mp (mem_append_left _ hx))
    obtain ⟨x, hx⟩ := exists_mem_of_length_pos (l := (byLastAccess (m.set k e)).take
      (toRemove (m.set k e) 0.2)) (by
        rw [length_take, byLastAccess, length_insertionSort]
        omega)
    have hle := single_le_sum (l := ((byLastAccess (m.set k e)).take
      (toRemove (m.set k e) 0.2)).map (·.2.size))
        (forall_mem_map.mpr fun y hy => he.trans (hsb y hy)) _ (mem_map_of_mem hx)
    have htot := totalSize_evict (m.set k e) 0.2
    have hset := totalSize_set m k e
    have hers := totalSize_erase_le hn k
    have hsize := hsb x hx
    linarith
  · refine mem_evict (hp.mem_iff.mpr mem_cons_self) hb.2 fun y hy hne => ?_
    exact (ho y ((mem_cons.mp (hp.mem_iff.mp hy)).resolve_left hne)).2

lemma bounded_set (hb : Bounded l m) (he : 0 ≤ e.size)
    (hc : totalSize (m.erase k) + e.size ≤ l ∨ 4 ≤ (m.erase k).entries.length ∧
      ∀ x ∈ (m.erase k).entries, e.size ≤ x.2.size ∧ x.2.lastAccessed < e.lastAccessed) :
    Bounded l (enforceCacheLimit l (m.set k e)) ∧
      (k, e) ∈ (enforceCacheLimit l (m.set k e)).entries := by
  have hn : ∀ x ∈ (enforceCacheLimit l (m.set k e)).entries, 0 ≤ x.2.size := by
    intro x hx
    rcases mem_entries_set (enforceCacheLimit_subset hx) with rfl | hx
    · exact he
    · exact hb.nonneg x hx
  have hset := totalSize_set m k e
  rw [enforceCacheLimit] at hn ⊢
  split at hn
  · rename_i hov
    rw [if_pos hov]
    rcases hc with hc | ⟨hl, ho⟩
    · linarith
    · obtain ⟨ht, hk⟩ := evict_set hb.nonneg he hl ho
      exact ⟨⟨hn, ht.trans hb.total⟩, hk⟩
  · rename_i hov
    rw [if_neg hov]
    exact ⟨⟨hn, le_max_of_le_left (not_lt.mp hov)⟩, (perm_set _ _ _).mem_iff.mpr mem_cons_self⟩

lemma bounded_getCacheEntry (hb : Bounded s.maxCacheSize s.cache) (k : String) :
    Bounded (s.getCacheEntry k).2.maxCacheSize (s.getCacheEntry k).2.cache := by
  rw [Engine.getCacheEntry]
  split
  · exact hb
  · rename_i e hf
    have he := totalSize_erase_le hb.nonneg k
    split
    · exact ⟨fun x hx => hb.nonneg x (mem_of_mem_filter hx), he.trans hb.total⟩
    · refine ⟨fun x hx => ?_, ?_⟩
      · rcases mem_entries_set hx with rfl | hx
        · exact hb.nonneg (k, e) (mem_of_get? hf)
        · exact hb.nonneg x hx
      · have hs := sum_map_erase (·.2.size) s.cache k
        have ht := hb.total
        rw [hf] at hs
        rw [totalSize_set]
        simp only [totalSize, Option.map_some, Option.getD_some] at *
        linarith

lemma bounded_step {c : Call D} (hb : Bounded s.maxCacheSize s.cache) (hc : Careful s c)
    (hs : step s c = some t) : Bounded t.maxCacheSize t.cache := by
  cases c with
  | set now key d sz ttl =>
    rw [step, Option.ite_none_right_eq_some] at hs
    obtain ⟨-, ⟨⟩⟩ := hs
    exact (bounded_set (e := newEntry now key d sz ttl) hb hc.1 hc.2.2).1
  | get now key =>
    rw [step, Option.ite_none_right_eq_some] at hs
    obtain ⟨-, ⟨⟩⟩ := hs
    exact bounded_getCacheEntry (s := { s with now }) hb key

lemma lastAccessed_le_of_evicted {k' : String} {e' : CacheEntry D}
    (hf : m.get? k = some e) (hg : (enforceCacheLimit l m).get? k = none)
    (hr : (enforceCacheLimit l m).get? k' = some e') : e.lastAccessed ≤ e'.lastAccessed := by
  rw [enforceCacheLimit] at hg hr
  split at hg
  · rename_i ho
    rw [if_pos ho] at hr
    have hp := perm_evict m 0.2
    have hx := mem_append.mp ((take_append_drop_perm m (toRemove m 0.2)).mem_iff.mpr
      (mem_of_get? hf))
    refine lastAccessed_le m _ (k, e) (hx.resolve_right fun h => ?_) (k', e')
      (hp.mem_iff.mp (mem_of_get? hr))
    rw [get?_of_mem (hp.mem_iff.mpr h)] at hg
    cases hg
  · rw [hf] at hg
    cases hg

end

theorem setCacheEntry_of_careful {maxCacheSize : ℚ} {calls : List (Call D)}
    {engine after : Engine D} {now : Int} {key : String} {data : D} {size : ℚ} {ttl : Option Int}
    (run : Run step Careful (start maxCacheSize) calls engine)
    (careful : Careful engine (.set now key data size ttl))
    (stepped : step engine (.set now key data size ttl) = some after) :
    totalSize after.cache ≤ after.maxCacheSize ∧
      after.cache.get? key = some (newEntry now key data size ttl) ∧
      ∀ evicted entry, (engine.cache.set key (newEntry now key data size ttl)).get? evicted =
          some entry → after.cache.get? evicted = none → ∀ kept remaining,
        after.cache.get? kept = some remaining → entry.lastAccessed ≤ remaining.lastAccessed := by
  have hb := run.invariant (fun s => Bounded s.maxCacheSize s.cache) (fun _ _ _ => bounded_step)
    ⟨by rintro _ ⟨⟩, le_max_right _ _⟩
  rw [step, Option.ite_none_right_eq_some] at stepped
  obtain ⟨-, ⟨⟩⟩ := stepped
  obtain ⟨ht, hk⟩ := bounded_set (e := newEntry now key data size ttl) hb careful.1 careful.2.2
  have hm := max_eq_left (careful.1.trans careful.2.1)
  exact ⟨ht.total.trans_eq hm, get?_of_mem hk,
    fun _ _ hf hg _ _ => lastAccessed_le_of_evicted hf hg⟩

def fiveEntries : List (Call Unit) :=
  [.set 1 "1" () 20 none, .set 2 "2" () 20 none, .set 3 "3" () 20 none, .set 4 "4" () 20 none,
    .set 5 "5" () 20 none, .get 5 "1"]

def sixth : Call Unit := .set 6 "6" () 20 none

theorem sixth_makes_room : ∃ engine, Run step Careful (start 100) fiveEntries engine ∧
    Careful engine sixth ∧ (∃ after ∈ step engine sixth, (after.cache.get? "2").isNone) ∧
      ∀ after ∈ step engine sixth, totalSize after.cache ≤ after.maxCacheSize ∧
        after.cache.get? "6" = some (newEntry 6 "6" () 20 none) :=
  exists_run₂ (by decide +kernel) fun _ run careful _ _ stepped =>
    have written := setCacheEntry_of_careful run careful stepped
    ⟨written.1, written.2.1⟩

/-- Two entries that do not fit together stay together. -/
theorem twoEntries_exceed : ∃ engine, exec step (start 100)
    [.set 1 "a" () 60 none, .set 2 "b" () 60 none] = some engine ∧
      engine.maxCacheSize < totalSize engine.cache :=
  ⟨_, rfl, by decide +kernel⟩

end PerformanceEngine
