import Optimizely.Json

/-!
# Reading ISO texts

`new Date(text)` for the texts that `toISOString` writes: the calendar is inverted, and every date
is read back as it was.
-/

namespace IsoDate

open List Option

/-- The day, counted from 1 January 1970, of a date in the Gregorian calendar. -/
def dayNumber (year : Int) (month day : Nat) : Int :=
  -- as in `civilDate`, the years begin in March
  let shiftedYear := if month ≤ 2 then year - 1 else year
  let shiftedMonth := if month ≤ 2 then month + 9 else month - 3
  let dayOfYear := (153 * shiftedMonth + 2) / 5 + day - 1
  let yearOfEra := (shiftedYear % 400).toNat
  shiftedYear / 400 * 146097 +
    (365 * yearOfEra + yearOfEra / 4 - yearOfEra / 100 + dayOfYear : Nat) - 719468

/-- A day of an era, by centuries, leap cycles and years. Only the last year of a cycle has 366
days, and of the last cycles of a century only that of the fourth century has such a year. -/
structure EraDay (dayOfEra century cycle year day : Nat) : Prop where
  century_lt : century < 4
  cycle_lt : cycle < 25
  year_lt : year < 4
  day_le : day ≤ 365
  leap : day = 365 → year = 3
  last : day = 365 → cycle = 24 → century = 3
  eq : dayOfEra = 36524 * century + 1461 * cycle + 365 * year + day

lemma exists_eraDay {d : Nat} (bound : d < 146097) : ∃ c y yr day, EraDay d c y yr day := by
  obtain ⟨c, rest, hcentury, hrest, rfl⟩ : ∃ c rest, c < 4 ∧
      (rest < 36524 ∨ c = 3 ∧ rest = 36524) ∧ d = 36524 * c + rest := by
    by_cases hl : d = 146096
    · exact ⟨3, 36524, by omega, by omega, by omega⟩
    · exact ⟨d / 36524, d % 36524, by omega, by omega, by omega⟩
  obtain ⟨y, left, hcycle, hleft, rfl⟩ : ∃ y left, y < 25 ∧ left < 1461 ∧ rest = 1461 * y + left :=
    ⟨rest / 1461, rest % 1461, by omega, by omega, by omega⟩
  by_cases hl : left = 1460
  · refine ⟨c, y, 3, 365, ?_⟩
    constructor <;> omega
  · refine ⟨c, y, left / 365, left % 365, ?_⟩
    constructor <;> omega

lemma yearOfEra_eq {d c y year day : Nat} (split : EraDay d c y year day) :
    (d - d / 1460 + d / 36524 - d / 146096) / 365 = 100 * c + 4 * y + year := by
  obtain ⟨hcentury, hcycle, hyear, hday, leap, last, eq⟩ := split
  have cycles : d / 1460 = 25 * c + y ∧ 24 * c + y + 365 * year + day < 1460 ∨
      d / 1460 = 25 * c + y + 1 ∧ 1460 ≤ 24 * c + y + 365 * year + day := by
    omega
  have hc : d / 36524 = c ∧ d / 146096 = 0 ∨
      d / 36524 = 4 ∧ d / 146096 = 1 ∧ c = 3 ∧ y = 24 ∧ year = 3 ∧ day = 365 := by
    omega
  have whole : 365 * (100 * c + 4 * y + year) ≤ d - d / 1460 + d / 36524 - d / 146096 ∧
      d - d / 1460 + d / 36524 - d / 146096 < 365 * (100 * c + 4 * y + year) + 365 := by
    rcases hc with ⟨hc', era⟩ | ⟨hc', era, rfl, rfl, rfl, rfl⟩
    · rw [hc', era]
      omega
    · omega
  omega

lemma dayOfEra_eq {dayOfEra century cycle y day : Nat}
    (split : EraDay dayOfEra century cycle y day) :
    365 * (100 * century + 4 * cycle + y) + (100 * century + 4 * cycle + y) / 4 -
      (100 * century + 4 * cycle + y) / 100 + day = dayOfEra := by
  obtain ⟨hcentury, hcycle, hyear, -, -, -, eq⟩ := split
  have hcy : (100 * century + 4 * cycle + y) / 4 = 25 * century + cycle := by omega
  have hc : (100 * century + 4 * cycle + y) / 100 = century := by omega
  rw [hcy, hc, eq]
  omega

lemma civilDate_eq (day : Int) : ∃ (era : Int) (dayOfEra c y yr n : Nat),
    EraDay dayOfEra c y yr n ∧ day + 719468 = era * 146097 + dayOfEra ∧
      civilDate day = let month := (5 * n + 2) / 153
        let dayOfMonth := n - (153 * month + 2) / 5 + 1
        let first : Int := era * 400 + (100 * c + 4 * y + yr : Nat)
        if month < 10 then (first, month + 3, dayOfMonth)
        else (first + 1, month - 9, dayOfMonth) := by
  obtain ⟨dayOfEra, era⟩ : ∃ dayOfEra, ((day + 719468) % 146097).toNat = dayOfEra := ⟨_, rfl⟩
  have hb : dayOfEra < 146097 := by omega
  obtain ⟨c, y, yr, n, split⟩ := exists_eraDay hb
  refine ⟨(day + 719468) / 146097, dayOfEra, c, y, yr, n, split, by omega, ?_⟩
  have hdy := Nat.eq_sub_of_add_eq' (dayOfEra_eq split)
  unfold civilDate
  dsimp only
  rw [era, yearOfEra_eq split, ← hdy]

lemma dayNumber_civilDate (day : Int) :
    dayNumber (civilDate day).1 (civilDate day).2.1 (civilDate day).2.2 = day := by
  obtain ⟨era, dayOfEra, c, cy, y, dayOfYear, split, eq, d⟩ := civilDate_eq day
  have hds := dayOfEra_eq split
  obtain ⟨hcentury, hcycle, hyear, hday, -, -, -⟩ := split
  obtain ⟨yearOfEra, hs⟩ : ∃ n, 100 * c + 4 * cy + y = n := ⟨_, rfl⟩
  rw [hs] at hds d
  have hyr : (era * 400 + (yearOfEra : Int)) / 400 = era := by omega
  have hy : ((era * 400 + (yearOfEra : Int)) % 400).toNat = yearOfEra := by omega
  have month : (5 * dayOfYear + 2) / 153 < 12 := by omega
  have hdy : (153 * ((5 * dayOfYear + 2) / 153) + 2) / 5 +
      (dayOfYear - (153 * ((5 * dayOfYear + 2) / 153) + 2) / 5 + 1) - 1 = dayOfYear := by
    omega
  rw [d]
  dsimp only
  split
  · rename_i he
    have hl : ¬ (5 * dayOfYear + 2) / 153 + 3 ≤ 2 := by omega
    simp only [dayNumber, if_neg hl, Nat.add_sub_cancel]
    rw [hdy, hyr, hy, hds]
    omega
  · rename_i hl
    have he : (5 * dayOfYear + 2) / 153 - 9 ≤ 2 := by omega
    have hb : (5 * dayOfYear + 2) / 153 - 9 + 9 = (5 * dayOfYear + 2) / 153 := by omega
    simp only [dayNumber, if_pos he, hb, add_sub_cancel_right]
    rw [hdy, hyr, hy, hds]
    omega

/-- A number up to the separator, and what follows it. -/
def readField (separator : Char) (cs : List Char) : Option (Nat × List Char) :=
  match cs.dropWhile Char.isDigit with
  | [] => none
  | c :: rest =>
    if c = separator then some (Nat.ofDigitChars 10 (cs.takeWhile Char.isDigit) 0, rest) else none

lemma toList_padded (w n : Nat) : (padded w n).toList =
    replicate (w - (toString n).length) '0' ++ Nat.toDigits 10 n := by
  have ht : (toString n).toList = Nat.toDigits 10 n := by
    rw [Nat.toString_eq_ofList_toDigits, String.toList_ofList]
  rw [padded, String.toList_append, String.toList_ofList, ht]

lemma isDigit_of_mem_padded {w n : Nat} {c : Char} (mem : c ∈ (padded w n).toList) :
    c.isDigit = true := by
  rw [toList_padded] at mem
  rcases mem_append.mp mem with hz | hdg
  · rw [eq_of_mem_replicate hz]
    decide
  · exact Nat.isDigit_of_mem_toDigits (show 0 < 10 by omega) (show 10 ≤ 10 by omega) hdg

lemma ofDigitChars_padded (w n : Nat) : Nat.ofDigitChars 10 (padded w n).toList 0 = n := by
  rw [toList_padded, Nat.ofDigitChars_append, Nat.ofDigitChars_replicate_zero, Nat.mul_zero,
    Nat.ofDigitChars_ten_toDigits]

lemma readField_padded (w n : Nat) {sep : Char} (x : sep.isDigit = false) (r : List Char) :
    readField sep ((padded w n).toList ++ sep :: r) = some (n, r) := by
  have hdg : ∀ c ∈ (padded w n).toList, c.isDigit = true := fun c => isDigit_of_mem_padded
  have hs : ¬ sep.isDigit = true := by simp [x]
  rw [readField, dropWhile_append_of_pos hdg, takeWhile_append_of_pos hdg,
    dropWhile_cons_of_neg hs, takeWhile_cons_of_neg hs, append_nil, ofDigitChars_padded]
  exact if_pos rfl

/-- The year may have a sign. -/
def readYear : List Char → Option (Int × List Char)
  | [] => none
  | c :: cs =>
    if c = '-' then (readField '-' cs).map fun field => (-(field.1 : Int), field.2)
    else if c = '+' then (readField '-' cs).map fun field => ((field.1 : Int), field.2)
    else (readField '-' (c :: cs)).map fun field => ((field.1 : Int), field.2)

lemma readYear_yearText (y : Int) (r : List Char) :
    readYear ((yearText y).toList ++ '-' :: r) = some (y, r) := by
  have hds : '-'.isDigit = false := by decide
  rw [yearText]
  split
  · rename_i hc
    obtain ⟨c, cs, ds⟩ : ∃ c cs, (padded 4 y.toNat).toList = c :: cs := by
      refine exists_cons_of_ne_nil ?_
      rw [toList_padded]
      exact append_ne_nil_of_right_ne_nil _ Nat.toDigits_ne_nil
    have hr := readField_padded 4 y.toNat hds r
    have hdg : c.isDigit = true := isDigit_of_mem_padded (ds ▸ mem_cons_self)
    have hm : c ≠ '-' := by
      rintro rfl
      exact absurd hdg (by decide)
    have hp : c ≠ '+' := by
      rintro rfl
      exact absurd hdg (by decide)
    rw [ds, cons_append] at hr
    rw [ds, cons_append, readYear, if_neg hm, if_neg hp, hr]
    simp only [map_some]
    rw [Int.toNat_of_nonneg hc.1]
  · rename_i rare
    have hr := readField_padded 6 y.natAbs hds r
    rw [String.toList_append, append_assoc]
    split
    · rename_i negative
      rw [show "-".toList = ['-'] by simp, singleton_append, readYear, if_pos rfl, hr]
      simp only [map_some]
      rw [show -(y.natAbs : Int) = y by omega]
    · rename_i hpos
      rw [show "+".toList = ['+'] by simp, singleton_append, readYear,
        if_neg (by decide), if_pos rfl, hr]
      simp only [map_some]
      rw [show (y.natAbs : Int) = y by omega]

/-- What `new Date` makes of an ISO text with all its fields. -/
def parse (text : String) : Option Int := do
  let (year, cs) ← readYear text.toList
  let (month, cs) ← readField '-' cs
  let (day, cs) ← readField 'T' cs
  let (hour, cs) ← readField ':' cs
  let (minute, cs) ← readField ':' cs
  let (second, cs) ← readField '.' cs
  let (ms, _) ← readField 'Z' cs
  return dayNumber year month day * 86400000 +
    (hour * 3600000 + minute * 60000 + second * 1000 + ms : Nat)

lemma parse_toISOString (ms : Int) : parse (toISOString ms) = some ms := by
  have day := dayNumber_civilDate (ms / 86400000)
  obtain ⟨⟨y, m, dy⟩, date⟩ : ∃ date, civilDate (ms / 86400000) = date := ⟨_, rfl⟩
  obtain ⟨time, c⟩ : ∃ time, (ms % 86400000).toNat = time := ⟨_, rfl⟩
  rw [date] at day
  have ht : (toISOString ms).toList = (yearText y).toList ++ '-' ::
      ((padded 2 m).toList ++ '-' :: ((padded 2 dy).toList ++ 'T' ::
      ((padded 2 (time / 3600000)).toList ++ ':' :: ((padded 2 (time / 60000 % 60)).toList ++ ':' ::
      ((padded 2 (time / 1000 % 60)).toList ++ '.' ::
      ((padded 3 (time % 1000)).toList ++ 'Z' :: [])))))) := by
    rw [toISOString, date]
    simp only [c, String.toList_append, append_assoc]
    simp
  have hds : '-'.isDigit = false := by decide
  have hl : 'T'.isDigit = false := by decide
  have hc : ':'.isDigit = false := by decide
  have hp : '.'.isDigit = false := by decide
  have hz : 'Z'.isDigit = false := by decide
  rw [parse, ht, readYear_yearText]
  simp only [bind_eq_bind, bind_some, readField_padded _ _ hds,
    readField_padded _ _ hl, readField_padded _ _ hc, readField_padded _ _ hp,
    readField_padded _ _ hz]
  rw [day]
  refine congrArg some ?_
  omega

end IsoDate
