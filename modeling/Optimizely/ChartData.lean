import Mathlib.Data.Rat.Floor

/-!
# What the chart engine keeps of the data

`virtualizeData` cuts out the rows near the viewport, `applyOptimizations` thins the points out.
Heights and positions are whole numbers, as far as doubles are exact.
-/

namespace PerformanceEngine

variable {α : Type}

structure VirtualizationConfig where
  enabled : Bool
  itemHeight : Nat
  bufferSize : Nat
  overscan : Nat

/-- What a caller overrides. -/
structure GivenVirtualization where
  itemHeight : Option Nat
  bufferSize : Option Nat
  overscan : Option Nat

def VirtualizationConfig.override (config : VirtualizationConfig) (given : GivenVirtualization) :
    VirtualizationConfig where
  enabled := config.enabled
  itemHeight := given.itemHeight.getD config.itemHeight
  bufferSize := given.bufferSize.getD config.bufferSize
  overscan := given.overscan.getD config.overscan

/-- A negative index counts from the end. -/
def slice (data : List α) (start stop : Int) : List α :=
  let index (i : Int) : Nat := (if i < 0 then i + data.length else i).toNat
  (data.take (index stop)).drop (index start)

structure Virtualized (α : Type) where
  items : List α
  totalHeight : Nat
  startIndex : Int
  endIndex : Int

/-- The rows near the viewport. -/
def VirtualizationConfig.window (virtual : VirtualizationConfig) (data : List α)
    (start height : Nat) : Virtualized α :=
  let startIndex := max 0 (⌊(start : ℚ) / virtual.itemHeight⌋ - virtual.overscan)
  let endIndex := min (data.length - 1 : Int)
    (⌈(start + height : ℚ) / virtual.itemHeight⌉ + virtual.overscan)
  let bufferedStart := max 0 (startIndex - virtual.bufferSize)
  let bufferedEnd := min (data.length - 1 : Int) (endIndex + virtual.bufferSize)
  { items := slice data bufferedStart (bufferedEnd + 1)
    totalHeight := data.length * virtual.itemHeight
    startIndex := bufferedStart
    endIndex := bufferedEnd }

def virtualizeData (config : VirtualizationConfig) (given : GivenVirtualization) (data : List α)
    (start height : Nat) : Virtualized α :=
  if config.enabled then (config.override given).window data start height
  else ⟨data, data.length * config.itemHeight, 0, data.length - 1⟩

/-- What is shown of the data in a viewport of some height, by its start. -/
structure Shows (virtual : VirtualizationConfig) (data : List α) (height : Nat)
    (shown : Nat → Virtualized α) : Prop where
  items (start k : Nat) : (shown start).items[k]? =
    if (shown start).startIndex + k ≤ (shown start).endIndex then
      data[(shown start).startIndex.toNat + k]?
    else none
  covers (start i : Nat) : i < data.length → (∃ x : ℚ, i * virtual.itemHeight ≤ x ∧
      x < (i + 1) * virtual.itemHeight ∧ start ≤ x ∧ x < start + height) →
    (shown start).startIndex ≤ i ∧ i ≤ (shown start).endIndex
  size (start : Nat) : (shown start).items.length ≤
    ⌈(height : ℚ) / virtual.itemHeight⌉ + 2 + 2 * (virtual.overscan + virtual.bufferSize)
  ordered (start later : Nat) : start ≤ later →
    (shown start).startIndex ≤ (shown later).startIndex ∧
    (shown start).endIndex ≤ (shown later).endIndex

lemma slice_eq {data : List α} {i j : Int} (hi : 0 ≤ i) (hj : 0 ≤ j) :
    slice data i j = (data.take j.toNat).drop i.toNat := by
  simp only [slice, if_neg hi.not_gt, if_neg hj.not_gt]

lemma window_shows {virtual : VirtualizationConfig} (positive : 0 < virtual.itemHeight)
    (data : List α) (height : Nat) : Shows virtual data height (virtual.window data · height) := by
  have hp : (0 : ℚ) < virtual.itemHeight := Nat.cast_pos.mpr positive
  have low (start : Nat) : 0 ≤ ⌊(start : ℚ) / virtual.itemHeight⌋ :=
    Int.floor_nonneg.mpr (by positivity)
  have high (start : Nat) : 0 ≤ ⌈(start + height : ℚ) / virtual.itemHeight⌉ :=
    Int.ceil_nonneg (by positivity)
  constructor
  · intro start k
    have := low start
    have := high start
    simp only [VirtualizationConfig.window]
    rw [slice_eq (by omega) (by omega), List.getElem?_drop, List.getElem?_take]
    congr 1
    rw [eq_iff_iff]
    omega
  · rintro start i hi ⟨x, h₁, h₂, h₃, h₄⟩
    have above : ⌊(start : ℚ) / virtual.itemHeight⌋ < i + 1 := by
      rw [Int.floor_lt, div_lt_iff₀ hp]
      push_cast
      linarith
    have below : i < ⌈(start + height : ℚ) / virtual.itemHeight⌉ := by
      rw [Int.lt_ceil, lt_div_iff₀ hp]
      push_cast
      linarith
    simp only [VirtualizationConfig.window]
    omega
  · intro start
    have width : ⌈(start + height : ℚ) / virtual.itemHeight⌉ ≤
        ⌊(start : ℚ) / virtual.itemHeight⌋ + 1 + ⌈(height : ℚ) / virtual.itemHeight⌉ := by
      rw [Int.ceil_le, add_div]
      push_cast
      exact add_le_add (Int.lt_floor_add_one _).le (Int.le_ceil _)
    have := low start
    have := high start
    have : 0 ≤ ⌈(height : ℚ) / virtual.itemHeight⌉ := Int.ceil_nonneg (by positivity)
    simp only [VirtualizationConfig.window]
    rw [slice_eq (by omega) (by omega), List.length_drop, List.length_take]
    omega
  · intro start later le
    have le' : (start : ℚ) ≤ later := Nat.cast_le.mpr le
    have h₁ := Int.floor_mono (div_le_div_of_nonneg_right le' hp.le)
    have h₂ := Int.ceil_mono (div_le_div_of_nonneg_right (add_le_add_left le' (height : ℚ)) hp.le)
    simp only [VirtualizationConfig.window]
    omega

theorem virtualizeData_shows (config : VirtualizationConfig) (given : GivenVirtualization)
    (enabled : config.enabled = true) (positive : 0 < (config.override given).itemHeight)
    (data : List α) (height : Nat) :
    Shows (config.override given) data height (virtualizeData config given data · height) := by
  simpa only [virtualizeData, enabled, if_true] using window_shows positive data height

def rowConfig : VirtualizationConfig := ⟨true, 20, 5, 2⟩

theorem rows_shown : Shows ⟨true, 50, 5, 2⟩ [1, 2, 3] 30
    (virtualizeData rowConfig ⟨some 50, none, none⟩ [1, 2, 3] · 30) :=
  virtualizeData_shows rowConfig ⟨some 50, none, none⟩ rfl (by decide) [1, 2, 3] 30

/-- A step of zero stands for `Infinity`: only the first index is a multiple. -/
def everyNth (step : Nat) (data : List α) : List α :=
  (data.zipIdx.filter fun entry => entry.2 % step = 0).map (·.1)

/-- No `maxPoints` is zero. -/
def applySampling (data : List α) (maxPoints : ℚ) : List α :=
  let maxPoints := if maxPoints = 0 then 10000 else maxPoints
  if data.length ≤ maxPoints then data else everyNth ⌈data.length / maxPoints⌉₊ data

/-- With a target of no points the quotient is `Infinity`. -/
def applyLevelOfDetail (data : List α) (levels : ℚ) : List α :=
  let targetSize := ⌊data.length / if levels = 0 then 3 else levels⌋₊
  if data.length ≤ targetSize then data else everyNth ⌈(data.length : ℚ) / targetSize⌉₊ data

inductive OptimizationStrategy where
  | dataSampling (maxPoints : ℚ)
  | levelOfDetail (levels : ℚ)
  | other

def applyStrategy (data : List α) : OptimizationStrategy → List α
  | .dataSampling maxPoints => applySampling data maxPoints
  | .levelOfDetail levels => applyLevelOfDetail data levels
  | .other => data

/-- A strategy comes with whether it is enabled. -/
def applyOptimizations (strategies : List (Bool × OptimizationStrategy)) (data : List α) : List α :=
  (strategies.filter (·.1)).foldl (fun data strategy => applyStrategy data strategy.2) data

/-- The elements at the multiples of the stride. -/
def Strided (stride : Nat) (data result : List α) : Prop :=
  0 < stride ∧ ∀ i, result[i]? = data[i * stride]?

/-- What is left of sampling to `M` points and then of `L` levels. A whole `M` is itself a bound. -/
structure Thinned (M L : ℚ) (data sampled result : List α) : Prop where
  strided : ∃ stride, Strided stride data result
  bound : ∀ k : Nat, M ≤ k → sampled.length ≤ k
  short : result.length ≤ max 1 ⌊sampled.length / L⌋₊
  nonempty : data ≠ [] → result ≠ []

section

variable {data result : List α} {step stride stride' : Nat}

/-- The first index that is kept is `n + d`. -/
lemma getElem?_filter_zipIdx (data : List α) {n d m : Nat} (i : Nat) (small : d < step)
    (first : n + d = m * step) :
    (((data.zipIdx n).filter fun e => e.2 % step = 0).map (·.1))[i]? = data[d + i * step]? := by
  induction data generalizing n d m i with
  | nil => simp
  | cons x xs ih =>
    rw [List.zipIdx_cons, List.filter_cons]
    cases d with
    | zero =>
      have next : n + 1 + (step - 1) = (m + 1) * step := by rw [Nat.succ_mul]; omega
      rw [if_pos (by simp [show n = m * step from first])]
      cases i with
      | zero => simp
      | succ i =>
        rw [List.map_cons, List.getElem?_cons_succ, ih i (by omega) next, Nat.succ_mul,
          show 0 + (i * step + step) = step - 1 + i * step + 1 by omega, List.getElem?_cons_succ]
    | succ d =>
      have skip : n % step ≠ 0 := by
        intro zero
        have dvd := (Nat.dvd_add_right (Nat.dvd_of_mod_eq_zero zero)).mp
          ⟨m, first.trans (m.mul_comm _)⟩
        exact absurd (Nat.le_of_dvd d.succ_pos dvd) small.not_ge
      have next : n + 1 + d = m * step := by omega
      rw [if_neg (by simpa using skip), ih i (by omega) next, Nat.add_right_comm,
        List.getElem?_cons_succ]

lemma strided_everyNth (positive : 0 < step) : Strided step data (everyNth step data) := by
  refine ⟨positive, fun i => ?_⟩
  rw [everyNth, getElem?_filter_zipIdx data i positive (Nat.zero_mul _).symm, Nat.zero_add]

lemma everyNth_zero : everyNth 0 data = everyNth (data.length + 1) data := by
  rw [everyNth, everyNth]
  congr 1
  refine List.filter_congr fun e mem => ?_
  rw [Nat.mod_zero, Nat.mod_eq_of_lt (Nat.lt_succ_of_lt (List.snd_lt_of_mem_zipIdx mem))]

lemma Strided.length_le (h : Strided stride data result) {k : Nat}
    (le : data.length ≤ k * stride) : result.length ≤ k := by
  rw [← List.getElem?_eq_none_iff, h.2, List.getElem?_eq_none_iff]
  exact le

lemma strided_self : Strided 1 data data := ⟨Nat.one_pos, fun i => by rw [Nat.mul_one]⟩

/-- A step that is rounded up leaves no more points than were asked for. -/
lemma everyNth_ceil {x : ℚ} (hx : 0 < x) (lt : x < data.length) :
    let kept := everyNth ⌈data.length / x⌉₊ data
    (∃ stride, Strided stride data kept) ∧ ∀ k : Nat, x ≤ k → kept.length ≤ k := by
  have strided : Strided _ data _ := strided_everyNth (Nat.ceil_pos.mpr (div_pos (hx.trans lt) hx))
  refine ⟨⟨_, strided⟩, fun k le => strided.length_le ?_⟩
  have up := (div_le_iff₀' hx).mp (Nat.le_ceil (data.length / x))
  exact_mod_cast up.trans (mul_le_mul_of_nonneg_right le (Nat.cast_nonneg _))

variable {M L : ℚ} (data)

lemma strided_applySampling (hM : 0 < M) : (∃ stride, Strided stride data (applySampling data M)) ∧
    ∀ k : Nat, M ≤ k → (applySampling data M).length ≤ k := by
  simp only [applySampling, if_neg hM.ne']
  split
  next le => exact ⟨⟨1, strided_self⟩, fun k hk => Nat.cast_le.mp (le.trans hk)⟩
  next lt => exact everyNth_ceil hM (not_le.mp lt)

lemma strided_applyLevelOfDetail (hL : 0 < L) :
    (∃ stride, Strided stride data (applyLevelOfDetail data L)) ∧
      (applyLevelOfDetail data L).length ≤ max 1 ⌊data.length / L⌋₊ := by
  simp only [applyLevelOfDetail, if_neg hL.ne']
  split
  next le => exact ⟨⟨1, strided_self⟩, le_max_of_le_right le⟩
  next lt =>
    rcases Nat.eq_zero_or_pos ⌊data.length / L⌋₊ with none | some
    · have first : Strided _ data _ := strided_everyNth data.length.succ_pos
      rw [none, Nat.cast_zero, div_zero, Nat.ceil_zero, everyNth_zero]
      exact ⟨⟨_, first⟩, first.length_le (by simp)⟩
    · have thin := everyNth_ceil (Nat.cast_pos.mpr some) (Nat.cast_lt.mpr (not_le.mp lt))
      exact ⟨thin.1, le_max_of_le_right (thin.2 _ le_rfl)⟩

end

theorem applyOptimizations_thinned {M L : ℚ} (hM : 0 < M) (hL : 0 < L) (data : List α) :
    Thinned M L data (applySampling data M)
      (applyOptimizations [(true, .dataSampling M), (true, .levelOfDetail L)] data) := by
  obtain ⟨⟨step, hs, first⟩, short⟩ := strided_applySampling data hM
  obtain ⟨⟨step', hs', second⟩, short'⟩ := strided_applyLevelOfDetail (applySampling data M) hL
  have both (i : Nat) : (applyLevelOfDetail (applySampling data M) L)[i]? =
      data[i * (step' * step)]? := by
    rw [second, first, Nat.mul_assoc]
  refine ⟨⟨_, Nat.mul_pos hs' hs, both⟩, short, short', fun ne nil => ne ?_⟩
  have head := both 0
  rw [show applyLevelOfDetail (applySampling data M) L = [] from nil, Nat.zero_mul] at head
  simpa using head.symm

theorem ten_points_thinned : (applySampling (List.range 10) 5).length ≤ 5 :=
  (applyOptimizations_thinned (L := 2) (by decide) (by decide) _).bound 5 le_rfl

/-- Half a point is rounded up to a whole one. -/
theorem five_points_exceed : (applySampling (List.range 5) (5 / 2)).length = 3 ∧
    ¬ ((applySampling (List.range 5) (5 / 2)).length : ℚ) ≤ 5 / 2 := by
  decide +kernel

end PerformanceEngine
