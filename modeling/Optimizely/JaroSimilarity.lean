import Mathlib.Tactic
import Optimizely.StableMatching
import Optimizely.StringSimilarity

/-!
# Jaro similarity

The greedy search gives every unit of the first string the first free partner in its window. It
finds the stable matching of equal units near each other, which is the same from both sides.
-/

namespace StringSimilarity

open StableMatching Utf16 List

/-- Two positions with the same unit, not farther apart than the window. -/
def Near (s t : Text) (w : Int) (i j : Nat) : Prop :=
  (i : Int) - w ≤ j ∧ (j : Int) ≤ i + w ∧ ∃ u, s[i]? = some u ∧ t[j]? = some u

/-- What is found when the first `n` units have been looked at. -/
structure Found (s t : Text) (w : Int) (n : Nat) (m : Matches) (ps : List (Nat × Nat)) : Prop where
  flags : m = ⟨flagged s.length (ps.map Prod.fst), flagged t.length (ps.map Prod.snd), ps.length⟩
  left : (ps.map Prod.fst).Nodup
  right : (ps.map Prod.snd).Nodup
  near : ∀ p ∈ ps, p.1 < n ∧ Near s t w p.1 p.2
  unblocked : ∀ i j, i < n → Near s t w i j →
    (∃ j' ≤ j, (i, j') ∈ ps) ∨ ∃ i' ≤ i, (i', j) ∈ ps

variable {s t : Text} {w : Int} {n j : Nat} {m : Matches} {ps : List (Nat × Nat)} {u : CodeUnit}
  {ks : List Nat}

lemma near_swap (i j : Nat) : Near t s w j i ↔ Near s t w i j := by
  constructor <;> rintro ⟨hl, hr, u, hi, hj⟩ <;> exact ⟨by omega, by omega, u, hj, hi⟩

lemma free_iff : ((flagged t.length ks)[j]? = some false ∧ t[j]? = some u) ↔
    j ∉ ks ∧ t[j]? = some u := by
  refine and_congr_left fun h => ?_
  obtain ⟨hj, -⟩ := List.getElem?_eq_some_iff.mp h
  rw [getElem?_flagged ks hj]
  simp

/-- The search in the window of position `n`. -/
def partnerOf (t : Text) (w : Int) (n : Nat) (u : CodeUnit) (flags : List Bool) : Option Nat :=
  findPartner u t flags (max 0 ((n : Int) - w)).toNat (min ((n : Int) + w + 1) t.length).toNat

lemma partnerOf_none (hu : s[n]? = some u) (h : partnerOf t w n u (flagged t.length ks) = none)
    (hn : Near s t w n j) : j ∈ ks := by
  obtain ⟨hl, hr, v, hv, hj⟩ := hn
  cases hu.symm.trans hv
  obtain ⟨hlt, -⟩ := List.getElem?_eq_some_iff.mp hj
  have ht := find?_range'_eq_none.mp h j (by omega) (by omega)
  by_contra free
  simp [free_iff.mpr ⟨free, hj⟩] at ht

lemma partnerOf_some (hu : s[n]? = some u) (h : partnerOf t w n u (flagged t.length ks) = some j) :
    Near s t w n j ∧ j ∉ ks ∧ ∀ k < j, Near s t w n k → k ∈ ks := by
  obtain ⟨a, mem, first⟩ := find?_range'_eq_some.mp h
  obtain ⟨hf, hj⟩ := free_iff.mp (by simpa using a)
  have hwindow := mem_range'_1.mp mem
  refine ⟨⟨by omega, by omega, u, hu, hj⟩, hf, ?_⟩
  rintro k hlt ⟨hl, hr, v, hv, hk⟩
  cases hu.symm.trans hv
  have ht := first k (by omega) hlt
  by_contra hf
  simp [free_iff.mpr ⟨hf, hk⟩] at ht

section

variable (hf : Found s t w n m ps)
include hf

lemma Found.unmatched (hb : ∀ j, Near s t w n j → j ∈ ps.map Prod.snd) :
    Found s t w (n + 1) m ps := by
  refine ⟨hf.flags, hf.left, hf.right, fun p mem => ?_, fun i j hi hn => ?_⟩
  · exact ⟨Nat.lt_succ_of_lt (hf.near p mem).1, (hf.near p mem).2⟩
  · rcases Nat.lt_succ_iff_lt_or_eq.mp hi with hlt | rfl
    · exact hf.unblocked i j hlt hn
    · obtain ⟨⟨k, l⟩, mem, rfl⟩ := mem_map.mp (hb j hn)
      exact .inr ⟨k, (hf.near _ mem).1.le, mem⟩

lemma Found.matched (hn : Near s t w n j) (hfx : j ∉ ps.map Prod.snd)
    (first : ∀ k < j, Near s t w n k → k ∈ ps.map Prod.snd) :
    Found s t w (n + 1) ⟨m.str1Matches.set n true, m.str2Matches.set j true, m.matched + 1⟩
      ((n, j) :: ps) := by
  obtain ⟨rfl, left, right, hnr, hu⟩ := hf
  have hfr : n ∉ ps.map Prod.fst := by
    intro e
    obtain ⟨p, mem, rfl⟩ := mem_map.mp e
    exact Nat.lt_irrefl _ (hnr p mem).1
  refine ⟨by simp [set_flagged], nodup_cons.mpr ⟨hfr, left⟩, nodup_cons.mpr ⟨hfx, right⟩,
    forall_mem_cons.mpr ⟨⟨Nat.lt_succ_self n, hn⟩, fun p mem => ?_⟩, fun i k hi hk => ?_⟩
  · exact ⟨Nat.lt_succ_of_lt (hnr p mem).1, (hnr p mem).2⟩
  · rcases Nat.lt_succ_iff_lt_or_eq.mp hi with hlt | rfl
    · rcases hu i k hlt hk with ⟨l, hl, mem⟩ | ⟨l, hl, mem⟩
      · exact .inl ⟨l, hl, mem_cons_of_mem _ mem⟩
      · exact .inr ⟨l, hl, mem_cons_of_mem _ mem⟩
    · by_cases hle : j ≤ k
      · exact .inl ⟨j, hle, mem_cons_self ..⟩
      · obtain ⟨⟨l, k⟩, mem, rfl⟩ := mem_map.mp (first k (by omega) hk)
        exact .inr ⟨l, (hnr _ mem).1.le, mem_cons_of_mem _ mem⟩

lemma matchUnit_found (hu : s[n]? = some u) :
    ∃ ps, Found s t w (n + 1) (matchUnit t w m (u, n)) ps := by
  have hfl : m.str2Matches = flagged t.length (ps.map Prod.snd) := by rw [hf.flags]
  rw [matchUnit]
  split
  · rename_i h
    exact ⟨ps, hf.unmatched fun j => partnerOf_none hu (hfl ▸ h)⟩
  · rename_i j h
    obtain ⟨hn, hfr, first⟩ := partnerOf_some hu (hfl ▸ h)
    exact ⟨_, hf.matched hn hfr first⟩

lemma foldl_found (rest : Text) (hs : s.drop n = rest) :
    ∃ ps, Found s t w s.length ((rest.zipIdx n).foldl (matchUnit t w) m) ps := by
  induction rest generalizing n m ps with
  | nil =>
    have hle := drop_eq_nil_iff.mp hs
    refine ⟨ps, hf.flags, hf.left, hf.right, fun p mem => ?_, fun i j hi => ?_⟩
    · obtain ⟨u, hu, -⟩ := (hf.near p mem).2.2.2
      exact ⟨(List.getElem?_eq_some_iff.mp hu).1, (hf.near p mem).2⟩
    · exact hf.unblocked i j (by omega)
  | cons u rest ih =>
    have hu : s[n]? = some u := by
      have hh := congrArg (·[0]?) hs
      simpa using hh
    obtain ⟨ps, next⟩ := matchUnit_found hf hu
    have ht : s.drop (n + 1) = rest := by
      rw [← drop_drop, hs]
      rfl
    exact ih next ht

end

def window (s t : Text) : Int := ((max s.length t.length / 2 : Nat) : Int) - 1

lemma findMatches_found (s t : Text) :
    ∃ ps, Found s t (window s t) s.length (findMatches s t) ps := by
  have hi : Found s t (window s t) 0 ⟨replicate s.length false, replicate t.length false, 0⟩ [] :=
    ⟨by simp [flagged_nil], nodup_nil, nodup_nil, nofun, nofun⟩
  exact foldl_found hi s rfl

lemma Found.stable (hf : Found s t w s.length m ps) :
    Stable (Near s t w) fun i j => (i, j) ∈ ps := by
  refine ⟨fun mem => (hf.near _ mem).2, fun h h' => ?_, fun h h' => ?_, fun {i j} hn => ?_⟩
  · exact congrArg Prod.snd (inj_on_of_nodup_map hf.left h h' rfl)
  · exact congrArg Prod.fst (inj_on_of_nodup_map hf.right h h' rfl)
  · obtain ⟨u, hu, -⟩ := hn.2.2
    exact hf.unblocked i j (List.getElem?_eq_some_iff.mp hu).1 hn

/-- The search flags the positions of the one stable matching and counts its pairs. -/
theorem findMatches_stable (s t : Text) : ∃ ps : List (Nat × Nat), ps.Nodup ∧
    findMatches s t =
      ⟨flagged s.length (ps.map Prod.fst), flagged t.length (ps.map Prod.snd), ps.length⟩ ∧
    Stable (Near s t (window s t)) (fun i j => (i, j) ∈ ps) ∧
    ∀ M, Stable (Near s t (window s t)) M → ∀ i j, M i j ↔ (i, j) ∈ ps := by
  obtain ⟨ps, hf⟩ := findMatches_found s t
  exact ⟨ps, hf.left.of_map _, hf.flags, hf.stable, fun _ h => h.unique hf.stable⟩

lemma findMatches_swap (s t : Text) : findMatches t s =
    ⟨(findMatches s t).str2Matches, (findMatches s t).str1Matches, (findMatches s t).matched⟩ := by
  obtain ⟨ps, hf⟩ := findMatches_found s t
  obtain ⟨qs, hg⟩ := findMatches_found t s
  have hw : window t s = window s t := by rw [window, max_comm, window]
  have hn : (fun j i => Near s t (window s t) i j) = Near t s (window t s) := by
    funext j i
    rw [hw, propext (near_swap i j)]
  have hsm := (hn ▸ hf.stable.flip).unique hg.stable
  have hp : (ps.map Prod.swap).Perm qs := by
    have hds : (ps.map Prod.swap).Nodup := (hf.left.of_map _).map Prod.swap_injective
    refine (perm_ext_iff_of_nodup hds (hg.left.of_map _)).mpr fun p => ?_
    rw [← hsm p.1 p.2, mem_map_swap]
  have hm : ∀ f : Nat × Nat → Nat, ∀ k, k ∈ qs.map f ↔ k ∈ ps.map (f ∘ Prod.swap) := by
    intro f k
    rw [← (hp.map f).mem_iff, map_map]
  have first := hm Prod.fst
  have hs := hm Prod.snd
  rw [hg.flags, hf.flags]
  simp only [flagged, first, hs, ← hp.length_eq, length_map]
  rfl

/-- The matched units of the two strings, paired in order. -/
def aligned (s t : Text) : List (CodeUnit × CodeUnit) :=
  (flaggedUnits (s.zip (findMatches s t).str1Matches)).zip
    (flaggedUnits (t.zip (findMatches s t).str2Matches))

lemma flaggedUnits_sublist {fs : List Bool} (h : fs.length = s.length) :
    (flaggedUnits (s.zip fs)).Sublist s := by
  have hw : (s.zip fs).map Prod.fst = s := map_fst_zip h.ge
  conv_rhs => rw [← hw]
  exact filter_sublist.map _

lemma length_matched (s t : Text) :
    (flaggedUnits (s.zip (findMatches s t).str1Matches)).length = (findMatches s t).matched ∧
    (flaggedUnits (t.zip (findMatches s t).str2Matches)).length = (findMatches s t).matched := by
  have hp := findMatches_paired s t
  rw [length_flaggedUnits hp.length1_eq, length_flaggedUnits hp.length2_eq]
  obtain ⟨ps, hf⟩ := findMatches_found s t
  have hn : ∀ p ∈ ps, p.1 < s.length ∧ p.2 < t.length := by
    intro p mem
    obtain ⟨u, -, hu⟩ := (hf.near p mem).2.2.2
    exact ⟨(hf.near p mem).1, (List.getElem?_eq_some_iff.mp hu).1⟩
  have hs := count_flagged hf.left (forall_mem_map.mpr fun p mem => (hn p mem).1)
  have ht := count_flagged hf.right (forall_mem_map.mpr fun p mem => (hn p mem).2)
  rw [hf.flags]
  exact ⟨by simp [hs], by simp [ht]⟩

def jaroScore (m l1 l2 transpositions : Nat) : Rat :=
  ((m : Rat) / l1 + m / l2 + (m - (transpositions : Rat) / 2) / m) / 3

lemma jaroScore_bounds {m l1 l2 k : Nat} (hm : 0 < m) (h1 : m ≤ l1) (h2 : m ≤ l2) (hk : k ≤ m) :
    0 ≤ jaroScore m l1 l2 k ∧ jaroScore m l1 l2 k ≤ 1 ∧
      (jaroScore m l1 l2 k = 1 → m = l1 ∧ m = l2 ∧ k = 0) := by
  have qm : (0 : Rat) < m := Nat.cast_pos.mpr hm
  have q1 : (m : Rat) ≤ l1 := Nat.cast_le.mpr h1
  have q2 : (m : Rat) ≤ l2 := Nat.cast_le.mpr h2
  have qk : (k : Rat) ≤ m := Nat.cast_le.mpr hk
  have q0 : (0 : Rat) ≤ k := Nat.cast_nonneg k
  have p1 : (0 : Rat) < l1 := by linarith
  have p2 : (0 : Rat) < l2 := by linarith
  have u1 := (div_le_one p1).mpr q1
  have u2 := (div_le_one p2).mpr q2
  have u3 : (m - (k : Rat) / 2) / m ≤ 1 := (div_le_one qm).mpr (by linarith)
  have n1 := div_nonneg qm.le p1.le
  have n2 := div_nonneg qm.le p2.le
  have n3 : 0 ≤ (m - (k : Rat) / 2) / m := div_nonneg (by linarith) qm.le
  rw [jaroScore]
  refine ⟨by linarith, by linarith, fun one => ?_⟩
  have e1 : (m : Rat) / l1 = 1 := by linarith
  have e2 : (m : Rat) / l2 = 1 := by linarith
  have e3 : (m - (k : Rat) / 2) / m = 1 := by linarith
  rw [div_eq_one_iff_eq p1.ne', Nat.cast_inj] at e1
  rw [div_eq_one_iff_eq p2.ne', Nat.cast_inj] at e2
  rw [div_eq_one_iff_eq qm.ne'] at e3
  exact ⟨e1, e2, Nat.cast_eq_zero.mp (by linarith : (k : Rat) = 0)⟩

def transpositionsOf (s t : Text) : Nat := (aligned s t).countP fun p => p.1 != p.2

lemma jaroSimilarity_of_ne (hne : s ≠ t) : jaroSimilarity s t =
    some (if (findMatches s t).matched = 0 then 0 else
      jaroScore (findMatches s t).matched s.length t.length (transpositionsOf s t)) := by
  obtain ⟨hs, ht⟩ := length_matched s t
  have hc := countTranspositions_eq (hs.trans ht.symm).le
  have hp := findMatches_paired s t
  have ls := (flaggedUnits_sublist hp.length1_eq).length_le
  have lt := (flaggedUnits_sublist hp.length2_eq).length_le
  rw [jaroSimilarity, if_neg hne]
  by_cases hm : (findMatches s t).matched = 0
  · simp [hm]
  · have hn : ¬ (s.length = 0 ∨ t.length = 0) := by omega
    rw [if_neg hn, if_neg hm, hc, if_neg hm]
    rfl

lemma transpositionsOf_swap (s t : Text) : transpositionsOf t s = transpositionsOf s t := by
  have hs : aligned t s = (aligned s t).map Prod.swap := by
    rw [aligned, findMatches_swap, aligned, zip_swap]
  rw [transpositionsOf, hs, countP_map, transpositionsOf]
  congr 1
  funext p
  simp [bne_comm]

lemma jaroSimilarity_swap (s t : Text) : jaroSimilarity t s = jaroSimilarity s t := by
  by_cases heq : s = t
  · rw [heq]
  · rw [jaroSimilarity_of_ne heq, jaroSimilarity_of_ne (Ne.symm heq), findMatches_swap s t,
      transpositionsOf_swap]
    simp only [jaroScore, add_comm]

lemma eq_of_matched (hs : (findMatches s t).matched = s.length)
    (ht : (findMatches s t).matched = t.length) (h : transpositionsOf s t = 0) : s = t := by
  have hp := findMatches_paired s t
  obtain ⟨ls, lt⟩ := length_matched s t
  have es := (flaggedUnits_sublist hp.length1_eq).eq_of_length (ls.trans hs)
  have et := (flaggedUnits_sublist hp.length2_eq).eq_of_length (lt.trans ht)
  rw [transpositionsOf, aligned, es, et, countP_eq_zero] at h
  refine ext_getElem (hs.symm.trans ht) fun i h1 h2 => ?_
  have mem : (s[i], t[i]) ∈ s.zip t := by
    rw [← getElem_zip (h := by simp [h1, h2])]
    exact getElem_mem _
  simpa using h _ mem

lemma commonStart_le (bound : Nat) (s t : Text) : commonStart bound s t ≤ bound := by
  induction bound generalizing s t with
  | zero => simp [commonStart]
  | succ bound ih =>
    cases s with
    | nil => simp [commonStart]
    | cons a s =>
      cases t with
      | nil => simp [commonStart]
      | cons b t =>
        rw [commonStart]
        have hle := ih s t
        split <;> omega

lemma jaroSimilarity_bounds (s t : Text) :
    ∃ x, jaroSimilarity s t = some x ∧ 0 ≤ x ∧ x ≤ 1 ∧ (x = 1 ↔ s = t) := by
  by_cases heq : s = t
  · exact ⟨1, if_pos heq, by norm_num, le_rfl, by simp [heq]⟩
  · refine ⟨_, jaroSimilarity_of_ne heq, ?_⟩
    by_cases hm : (findMatches s t).matched = 0
    · simp [hm, heq]
    · obtain ⟨ls, lt⟩ := length_matched s t
      have hp := findMatches_paired s t
      have hs := (flaggedUnits_sublist hp.length1_eq).length_le
      have ht := (flaggedUnits_sublist hp.length2_eq).length_le
      have hk : transpositionsOf s t ≤ (findMatches s t).matched := by
        refine countP_le_length.trans ?_
        rw [aligned, length_zip, ls, lt, min_self]
      rw [ls] at hs
      rw [lt] at ht
      obtain ⟨hl, hu, one⟩ := jaroScore_bounds (Nat.pos_of_ne_zero hm) hs ht hk
      rw [if_neg hm]
      refine ⟨hl, hu, fun h => ?_, fun h => absurd h heq⟩
      obtain ⟨h1, h2, h3⟩ := one h
      exact eq_of_matched h1 h2 h3

lemma jaroWinkler_bounds {x : Rat} (hx : jaroSimilarity s t = some x) (h1 : x ≤ 1) :
    ∃ y, jaroWinklerSimilarity s t = some y ∧ x ≤ y ∧ y ≤ 1 := by
  rw [jaroWinklerSimilarity, hx]
  by_cases low : x < 7 / 10
  · exact ⟨x, if_pos low, le_rfl, h1⟩
  · have hc : (commonStart 4 s t : Rat) ≤ 4 := by exact_mod_cast commonStart_le 4 s t
    have h0 : (0 : Rat) ≤ commonStart 4 s t := Nat.cast_nonneg _
    refine ⟨_, if_neg low, ?_, ?_⟩ <;> nlinarith

/-- The search for transpositions ends, and the result is a similarity. -/
theorem jaroSimilarity_is_similarity (s t : Text) :
    ∃ x, jaroSimilarity s t = some x ∧ jaroSimilarity t s = some x ∧ 0 ≤ x ∧ x ≤ 1 ∧
      (x = 1 ↔ s = t) ∧ ∃ y, jaroWinklerSimilarity s t = some y ∧ x ≤ y ∧ y ≤ 1 := by
  obtain ⟨x, hx, hl, hu, one⟩ := jaroSimilarity_bounds s t
  exact ⟨x, hx, (jaroSimilarity_swap s t).trans hx, hl, hu, one, jaroWinkler_bounds hx hu⟩

end StringSimilarity
