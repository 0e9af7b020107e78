import Mathlib.Algebra.Order.Field.Rat
import Optimizely.OrderedMap
import Optimizely.Utf16

/-!
# Similarity of field values

The comparison algorithms of the duplicate detection service, over exact rationals. The
scan that counts transpositions in `jaroSimilarity` loops for ever when it runs off the
matches of its second string; its model then returns nothing.
-/

namespace StringSimilarity

open Utf16 List

/-- A field value: a string, or anything else with the text `String()` gives it. -/
inductive Value where
  | string (s : Text)
  | other (text : Text)
  deriving DecidableEq

def Value.toText : Value → Text
  | .string s => s
  | .other text => text

inductive DataType where
  | string
  | email
  | phone
  | number
  | date
  | boolean
  deriving DecidableEq

structure FieldMatchingConfig where
  fieldName : String
  dataType : DataType
  weight : Rat
  algorithms : List String
  normalizeBeforeMatch : Bool
  caseSensitive : Bool
  ignoreSpecialChars : Bool
  minimumSimilarity : Rat
  deriving DecidableEq

/-- The cells of one row of the matrix after its first: `previous` is the row above,
`left` the cell just filled. -/
def matrixCells (unit2 : CodeUnit) : Text → List Nat → Nat → List Nat
  | unit1 :: str1, diagonal :: above :: previous, left =>
    let substitutionCost := if unit1 = unit2 then 0 else 1
    let cell := min (min (left + 1) (above + 1)) (diagonal + substitutionCost)
    cell :: matrixCells unit2 str1 (above :: previous) cell
  | _, _, _ => []

def matrixRow (str1 : Text) (unit2 : CodeUnit) (j : Nat) (previous : List Nat) : List Nat :=
  j :: matrixCells unit2 str1 previous j

/-- The last row, from row `j - 1` on. -/
def matrixRows (str1 : Text) : Text → Nat → List Nat → List Nat
  | [], _, previous => previous
  | unit2 :: str2, j, previous => matrixRows str1 str2 (j + 1) (matrixRow str1 unit2 j previous)

def levenshteinDistance (str1 str2 : Text) : Nat :=
  (matrixRows str1 str2 1 (List.range (str1.length + 1))).getD str1.length 0

def levenshteinSimilarity (str1 str2 : Text) : Rat :=
  let maxLength := max str1.length str2.length
  if maxLength = 0 then 1
  else ((maxLength : Rat) - levenshteinDistance str1 str2) / maxLength

/-- The flags of the two strings and the number of matches. -/
structure Matches where
  str1Matches : List Bool
  str2Matches : List Bool
  matched : Nat
  deriving DecidableEq

/-- The first free partner of `unit1` in the window of `str2`. -/
def findPartner (unit1 : CodeUnit) (str2 : Text) (str2Matches : List Bool) (start stop : Nat) :
    Option Nat :=
  (List.range' start (stop - start)).find? fun j =>
    str2Matches[j]? = some false ∧ str2[j]? = some unit1

def matchUnit (str2 : Text) (matchWindow : Int) (found : Matches) (entry : CodeUnit × Nat) :
    Matches :=
  let start := max 0 ((entry.2 : Int) - matchWindow)
  let stop := min ((entry.2 : Int) + matchWindow + 1) str2.length
  match findPartner entry.1 str2 found.str2Matches start.toNat stop.toNat with
  | none => found
  | some j =>
    { str1Matches := found.str1Matches.set entry.2 true
      str2Matches := found.str2Matches.set j true
      matched := found.matched + 1 }

def findMatches (str1 str2 : Text) : Matches :=
  let matchWindow : Int := ((max str1.length str2.length / 2 : Nat) : Int) - 1
  str1.zipIdx.foldl (matchUnit str2 matchWindow)
    ⟨List.replicate str1.length false, List.replicate str2.length false, 0⟩

/-- `while (!str2Matches[k]) k++`, over the part of the second string from `k` on. -/
def nextMatched : List (CodeUnit × Bool) → Option (CodeUnit × List (CodeUnit × Bool))
  | [] => none
  | (unit2, true) :: rest => some (unit2, rest)
  | (_, false) :: rest => nextMatched rest

def countTranspositions : List (CodeUnit × Bool) → List (CodeUnit × Bool) → Option Nat
  | [], _ => some 0
  | (_, false) :: rest1, rest2 => countTranspositions rest1 rest2
  | (unit1, true) :: rest1, rest2 => do
    let (unit2, rest2) ← nextMatched rest2
    let transpositions ← countTranspositions rest1 rest2
    return (if unit1 = unit2 then 0 else 1) + transpositions

def jaroSimilarity (str1 str2 : Text) : Option Rat :=
  if str1 = str2 then some 1
  else if str1.length = 0 ∨ str2.length = 0 then some 0
  else
    let found := findMatches str1 str2
    if found.matched = 0 then some 0
    else do
      let transpositions ← countTranspositions (str1.zip found.str1Matches)
        (str2.zip found.str2Matches)
      let matched : Rat := found.matched
      return (matched / str1.length + matched / str2.length +
        (matched - (transpositions : Rat) / 2) / matched) / 3

structure Matches.Paired (found : Matches) (length1 length2 : Nat) : Prop where
  length1_eq : found.str1Matches.length = length1
  length2_eq : found.str2Matches.length = length2
  le : found.str1Matches.count true ≤ found.str2Matches.count true

lemma findPartner_free {unit1 : CodeUnit} {s2 : Text} {str2Matches : List Bool}
    {s st j : Nat} (hf : findPartner unit1 s2 str2Matches s st = some j) :
    str2Matches[j]? = some false ∧ s2[j]? = some unit1 := by
  have hcc := find?_some hf
  simpa using hcc

lemma count_set_true_le (fs : List Bool) (i : Nat) :
    (fs.set i true).count true ≤ fs.count true + 1 := by
  by_cases hin : i < fs.length
  · rw [count_set hin]
    simp only [beq_self_eq_true, if_true]
    omega
  · rw [set_eq_of_length_le (by omega)]
    omega

lemma count_set_free {fs : List Bool} {j : Nat} (hf : fs[j]? = some false) :
    (fs.set j true).count true = fs.count true + 1 := by
  obtain ⟨hin, v⟩ := List.getElem?_eq_some_iff.mp hf
  rw [count_set hin, v]
  simp

lemma matchUnit_paired {m : Matches} {l : Nat} {s : Text}
    (hpr : m.Paired l s.length) (mw : Int) (e : CodeUnit × Nat) :
    (matchUnit s mw m e).Paired l s.length := by
  obtain ⟨hhl, hh, hle⟩ := hpr
  rw [matchUnit]
  split
  · exact ⟨hhl, hh, hle⟩
  · rename_i j hp
    have hf := (findPartner_free hp).1
    refine ⟨by simpa using hhl, by simpa using hh, ?_⟩
    have left := count_set_true_le m.str1Matches e.2
    have right := count_set_free hf
    dsimp only
    omega

lemma findMatches_paired (s st : Text) : (findMatches s st).Paired s.length st.length := by
  refine List.foldlRecOn (motive := fun m : Matches => m.Paired s.length st.length) _ _ ?_
    fun m hp e _ => matchUnit_paired hp _ e
  constructor <;> simp [count_replicate]

def flaggedUnits (str : List (CodeUnit × Bool)) : Text := (str.filter (·.2)).map Prod.fst

lemma nextMatched_of_flaggedUnits {r : List (CodeUnit × Bool)} {u : CodeUnit} {us : Text}
    (h : flaggedUnits r = u :: us) : ∃ l, nextMatched r = some (u, l) ∧ flaggedUnits l = us := by
  induction r with
  | nil => cases h
  | cons e r ih =>
    obtain ⟨v, f⟩ := e
    cases f with
    | false => exact ih h
    | true =>
      cases h
      exact ⟨r, rfl, rfl⟩

lemma countTranspositions_eq {rest1 r : List (CodeUnit × Bool)}
    (h : (flaggedUnits rest1).length ≤ (flaggedUnits r).length) : countTranspositions rest1 r =
      some (((flaggedUnits rest1).zip (flaggedUnits r)).countP fun p => p.1 != p.2) := by
  induction rest1 generalizing r with
  | nil => rfl
  | cons e rest1 ih =>
    obtain ⟨v, f⟩ := e
    cases f with
    | false => exact ih h
    | true =>
      have hv : flaggedUnits ((v, true) :: rest1) = v :: flaggedUnits rest1 := rfl
      rw [hv] at h ⊢
      cases hr : flaggedUnits r with
      | nil => simp [hr] at h
      | cons u us =>
        obtain ⟨later, hn, rfl⟩ := nextMatched_of_flaggedUnits hr
        rw [hr] at h
        have hle := Nat.le_of_succ_le_succ h
        by_cases heq : v = u <;> simp [countTranspositions, hn, ih hle, heq, Nat.add_comm]

lemma countP_zip_flags {str : Text} {flags : List Bool} (h : flags.length = str.length) :
    (str.zip flags).countP (·.2) = flags.count true := by
  have snd : (str.zip flags).map Prod.snd = flags := map_snd_zip (by omega)
  conv_rhs => rw [← snd]
  rw [count, countP_map]
  congr 1
  funext e
  simp

lemma length_flaggedUnits {s : Text} {fs : List Bool} (h : fs.length = s.length) :
    (flaggedUnits (s.zip fs)).length = fs.count true := by
  rw [flaggedUnits, length_map, ← countP_eq_length_filter, countP_zip_flags h]

lemma jaroSimilarity_terminates (s st : Text) :
    ∃ similarity, jaroSimilarity s st = some similarity := by
  have hp := findMatches_paired s st
  have he : (flaggedUnits (s.zip (findMatches s st).str1Matches)).length ≤
      (flaggedUnits (st.zip (findMatches s st).str2Matches)).length := by
    rw [length_flaggedUnits hp.length1_eq, length_flaggedUnits hp.length2_eq]
    exact hp.le
  rw [jaroSimilarity]
  by_cases hs : s = st
  · exact ⟨1, if_pos hs⟩
  · rw [if_neg hs]
    by_cases hem : s.length = 0 ∨ st.length = 0
    · exact ⟨0, if_pos hem⟩
    · rw [if_neg hem]
      by_cases hu : (findMatches s st).matched = 0
      · exact ⟨0, if_pos hu⟩
      · rw [if_neg hu, countTranspositions_eq he]
        exact ⟨_, rfl⟩

/-- The length of the common start, counted up to `bound` units. -/
def commonStart : Nat → Text → Text → Nat
  | bound + 1, unit1 :: str1, unit2 :: str2 =>
    if unit1 = unit2 then commonStart bound str1 str2 + 1 else 0
  | _, _, _ => 0

def jaroWinklerSimilarity (str1 str2 : Text) : Option Rat := do
  let jaro ← jaroSimilarity str1 str2
  if jaro < 7 / 10 then return jaro
  let commonLength := commonStart 4 str1 str2
  return jaro + 1 / 10 * commonLength * (1 - jaro)

lemma jaroWinklerSimilarity_terminates (s st : Text) :
    ∃ similarity, jaroWinklerSimilarity s st = some similarity := by
  obtain ⟨jr, hj⟩ := jaroSimilarity_terminates s st
  by_cases low : jr < 7 / 10
  · exact ⟨_, by simp only [jaroWinklerSimilarity, hj, bind, Option.bind, if_pos low]; rfl⟩
  · exact ⟨_, by simp only [jaroWinklerSimilarity, hj, bind, Option.bind, if_neg low]; rfl⟩

def soundexMapping : List (Text × CodeUnit) :=
  [(ofString "BFPV", unit '1'), (ofString "CGJKQSXZ", unit '2'), (ofString "DT", unit '3'),
    (ofString "L", unit '4'), (ofString "MN", unit '5'), (ofString "R", unit '6')]

def soundexDigit (u : CodeUnit) : CodeUnit :=
  match soundexMapping.find? fun entry => u ∈ entry.1 with
  | some entry => entry.2
  | none => unit '0'

def soundexLoop : Text → Text → Text
  | [], result => result
  | u :: code, result =>
    let digit := soundexDigit u
    let result :=
      if digit ≠ unit '0' ∧ some digit ≠ result.getLast? then result ++ [digit] else result
    if result.length = 4 then result else soundexLoop code result

def soundex (casing : CaseMapping) (str : Text) : Text :=
  match (casing.toUpperCase str).filter isUpperLetter with
  | [] => ofString "0000"
  | first :: code => padEnd (soundexLoop code [first]) 4 (unit '0')

def soundexMatch (casing : CaseMapping) (str1 str2 : Text) : Bool :=
  soundex casing str1 = soundex casing str2

def getCharFrequency (str : Text) : OrderedMap Text Nat :=
  (codePoints str).foldl (fun freq char => freq.addTo char 1) .empty

def fuzzyMatch (str1 str2 : Text) : Rat :=
  let freq1 := getCharFrequency str1
  let freq2 := getCharFrequency str2
  let allChars := (freq1.keys ++ freq2.keys).dedup
  let similarity :=
    (allChars.map fun char => min ((freq1.get? char).getD 0) ((freq2.get? char).getD 0)).sum
  let maxLength := max str1.length str2.length
  if 0 < maxLength then (similarity : Rat) / maxLength else 0

/-- The parts before and after the first separator, up to the second one. -/
def splitEmail (email : Text) : Text × Text :=
  match email.splitOn (unit '@') with
  | localPart :: domain :: _ => (localPart, domain)
  | [localPart] => (localPart, [])
  | [] => ([], [])

def emailSimilarity (casing : CaseMapping) (email1 email2 : Text) : Rat :=
  let (local1, domain1) := splitEmail email1
  let (local2, domain2) := splitEmail email2
  if domain1 = [] ∨ domain2 = [] then 0
  else if casing.toLowerCase domain1 ≠ casing.toLowerCase domain2 then 0
  else levenshteinSimilarity (casing.toLowerCase local1) (casing.toLowerCase local2)

def phoneSimilarity (phone1 phone2 : Text) : Rat :=
  let normalized1 := phone1.filter isDigit
  let normalized2 := phone2.filter isDigit
  if normalized1 = normalized2 then 1
  else
    let shorter := if normalized1.length < normalized2.length then normalized1 else normalized2
    let longer := if normalized1.length < normalized2.length then normalized2 else normalized1
    if normalized1.length ≠ normalized2.length ∧ shorter.isSuffixOf longer then 9 / 10
    else levenshteinSimilarity normalized1 normalized2

def normalizeValue (casing : CaseMapping) (config : FieldMatchingConfig) : Value → Value
  | .other text => .other text
  | .string value =>
    let kept :=
      if config.ignoreSpecialChars then value.filter (fun u => isWord u || isSpace u) else value
    let trimmed := trim kept
    .string (if config.caseSensitive then trimmed else casing.toLowerCase trimmed)

def comparedText (casing : CaseMapping) (config : FieldMatchingConfig) (value : Value) : Text :=
  let normalized :=
    if config.normalizeBeforeMatch then normalizeValue casing config value else value
  if config.caseSensitive then normalized.toText else casing.toLowerCase normalized.toText

def applyAlgorithm (casing : CaseMapping) (algorithm : String) (str1 str2 : Text) : Option Rat :=
  match algorithm with
  | "exact" => some (if str1 = str2 then 1 else 0)
  | "levenshtein" => some (levenshteinSimilarity str1 str2)
  | "jaro_winkler" => jaroWinklerSimilarity str1 str2
  | "soundex" => some (if soundexMatch casing str1 str2 then 1 else 0)
  | "fuzzy" => some (fuzzyMatch str1 str2)
  | "email" => some (emailSimilarity casing str1 str2)
  | "phone" => some (phoneSimilarity str1 str2)
  | _ => some (levenshteinSimilarity str1 str2)

def calculateFieldSimilarity (casing : CaseMapping) (value1 value2 : Value) (algorithm : String)
    (config : FieldMatchingConfig) : Option Rat :=
  applyAlgorithm casing algorithm (comparedText casing config value1)
    (comparedText casing config value2)

lemma calculateFieldSimilarity_terminates (cs : CaseMapping) (vl v : Value)
    (a : String) (c : FieldMatchingConfig) :
    ∃ similarity, calculateFieldSimilarity cs vl v a c = some similarity := by
  unfold calculateFieldSimilarity applyAlgorithm
  split
  case h_3 => exact jaroWinklerSimilarity_terminates _ _
  all_goals exact ⟨_, rfl⟩

end StringSimilarity
