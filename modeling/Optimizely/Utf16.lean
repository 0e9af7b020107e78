import Mathlib.Data.List.Basic

/-!
# JavaScript strings

A string is the list of its UTF-16 code units. The full case mappings of Unicode are a
parameter, fixed on ASCII.
-/

namespace Utf16

abbrev CodeUnit := UInt16

abbrev Text := List CodeUnit

def unit (c : Char) : CodeUnit := c.toNat.toUInt16

def encode (c : Char) : Text :=
  if c.toNat < 0x10000 then [unit c]
  else
    let offset := c.toNat - 0x10000
    [(0xD800 + offset / 0x400).toUInt16, (0xDC00 + offset % 0x400).toUInt16]

def ofString (s : String) : Text := s.toList.flatMap encode

def isHighSurrogate (u : CodeUnit) : Bool := 0xD800 ≤ u && u ≤ 0xDBFF

def isLowSurrogate (u : CodeUnit) : Bool := 0xDC00 ≤ u && u ≤ 0xDFFF

/-- The iteration order of a string: by code points, a lone surrogate for itself. -/
def codePoints : Text → List Text
  | [] => []
  | [u] => [[u]]
  | u :: v :: rest =>
    if isHighSurrogate u && isLowSurrogate v then [u, v] :: codePoints rest
    else [u] :: codePoints (v :: rest)

def isDigit (u : CodeUnit) : Bool := unit '0' ≤ u && u ≤ unit '9'

def isUpperLetter (u : CodeUnit) : Bool := unit 'A' ≤ u && u ≤ unit 'Z'

def isLowerLetter (u : CodeUnit) : Bool := unit 'a' ≤ u && u ≤ unit 'z'

/-- The class `\w` of regular expressions. -/
def isWord (u : CodeUnit) : Bool :=
  isUpperLetter u || isLowerLetter u || isDigit u || u == unit '_'

/-- The class `\s` of regular expressions, which is also what `trim` removes. -/
def isSpace (u : CodeUnit) : Bool :=
  (0x0009 ≤ u && u ≤ 0x000D) || u == 0x0020 || u == 0x00A0 || u == 0x1680 ||
  (0x2000 ≤ u && u ≤ 0x200A) || u == 0x2028 || u == 0x2029 || u == 0x202F ||
  u == 0x205F || u == 0x3000 || u == 0xFEFF

def trim (s : Text) : Text :=
  ((s.dropWhile isSpace).reverse.dropWhile isSpace).reverse

def padEnd (s : Text) (length : Nat) (fill : CodeUnit) : Text :=
  s ++ List.replicate (length - s.length) fill

def asciiLower (u : CodeUnit) : CodeUnit := if isUpperLetter u then u + 32 else u

def asciiUpper (u : CodeUnit) : CodeUnit := if isLowerLetter u then u - 32 else u

structure CaseMapping where
  toLowerCase : Text → Text
  toUpperCase : Text → Text
  lower_ascii : ∀ s : Text, (∀ u ∈ s, u < 128) → toLowerCase s = s.map asciiLower
  upper_ascii : ∀ s : Text, (∀ u ∈ s, u < 128) → toUpperCase s = s.map asciiUpper

/-- The case mappings of ASCII alone. -/
def asciiCaseMapping : CaseMapping where
  toLowerCase := List.map asciiLower
  toUpperCase := List.map asciiUpper
  lower_ascii := fun _ _ => rfl
  upper_ascii := fun _ _ => rfl

end Utf16
