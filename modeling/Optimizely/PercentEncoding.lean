import Mathlib.Data.List.Basic
import Mathlib.Data.List.TakeWhile

/-!
# Percent-encoding

A text is encoded by the bytes of its UTF-8 form: a plain byte as itself, any other as `%` with two
hexadecimal digits. Names and values of a query have their own plain bytes, with `+` for a space.
-/

namespace PercentEncoding

open List

def bytes (s : String) : List UInt8 := s.toByteArray.data.toList

/-- The text with these bytes, if they are UTF-8. -/
def text (bytes : List UInt8) : Option String := String.fromUTF8? bytes.toByteArray

lemma text_bytes (s : String) : text (bytes s) = some s := by
  have hs : (bytes s).toByteArray = s.toByteArray :=
    ByteArray.ext (data_toByteArray.trans Array.toArray_toList)
  rw [text, hs, String.fromUTF8?, dif_pos s.isValidUTF8]
  rfl

def hexDigit (n : Nat) : Char := Char.ofNat (if n < 10 then 48 + n else 55 + n)

def hexValue (c : Char) : Option Nat :=
  if '0' ≤ c ∧ c ≤ '9' then some (c.toNat - 48)
  else if 'A' ≤ c ∧ c ≤ 'F' then some (c.toNat - 55)
  else if 'a' ≤ c ∧ c ≤ 'f' then some (c.toNat - 87)
  else none

lemma hexValue_hexDigit : ∀ n < 16, hexValue (hexDigit n) = some n := by decide

def encodeByte (plain : UInt8 → Bool) (byte : UInt8) : List Char :=
  if plain byte then [Char.ofNat byte.toNat]
  else ['%', hexDigit (byte.toNat / 16), hexDigit (byte.toNat % 16)]

def encode (plain : UInt8 → Bool) (bytes : List UInt8) : List Char :=
  bytes.flatMap (encodeByte plain)

/-- None where a `%` is not followed by two hexadecimal digits. -/
def decode : List Char → Option (List UInt8)
  | [] => some []
  | c :: rest =>
    if c = '%' then
      match rest with
      | high :: low :: rest => do
        let n ← hexValue high
        let l ← hexValue low
        let bytes ← decode rest
        return (16 * n + l).toUInt8 :: bytes
      | _ => none
    else (decode rest).map (String.utf8EncodeChar c ++ ·)

/-- Plain bytes are ASCII, and `%` is not plain. -/
def IsPlainSet (plain : UInt8 → Bool) : Prop := ∀ byte, plain byte → byte < 0x80 ∧ byte ≠ 0x25

lemma utf8EncodeChar_ascii {b : UInt8} (ha : b < 0x80) :
    String.utf8EncodeChar (Char.ofNat b.toNat) = [b] := by
  have he : ∀ n < 128, String.utf8EncodeChar (Char.ofNat n) = [UInt8.ofNat n] := by decide +kernel
  rw [he b.toNat ha, UInt8.ofNat_toNat]

variable {c : Char} {p : UInt8 → Bool}

lemma decode_cons_of_ne (x : c ≠ '%') (r : List Char) :
    decode (c :: r) = (decode r).map (String.utf8EncodeChar c ++ ·) := by
  rcases r with _ | ⟨_, _ | ⟨_, _⟩⟩ <;> simp [decode, x]

lemma decode_percent {n low : Nat} (hh : n < 16) (hl : low < 16) (r : List Char) :
    decode ('%' :: hexDigit n :: hexDigit low :: r) =
      (decode r).map ((16 * n + low).toUInt8 :: ·) := by
  simp only [decode, if_true, hexValue_hexDigit n hh, hexValue_hexDigit low hl]
  cases decode r <;> rfl

lemma decode_encode (set : IsPlainSet p) (bytes : List UInt8) :
    decode (encode p bytes) = some bytes := by
  induction bytes with
  | nil => rfl
  | cons b bytes ih =>
    rw [encode, flatMap_cons, encodeByte]
    rw [encode] at ih
    split
    · rename_i hs
      obtain ⟨ha, x⟩ := set b hs
      have hne : Char.ofNat b.toNat ≠ '%' := by
        intro hsm
        have hc := utf8EncodeChar_ascii ha
        rw [hsm] at hc
        exact x (singleton_inj.mp hc).symm
      rw [singleton_append, decode_cons_of_ne hne, ih, utf8EncodeChar_ascii ha]
      rfl
    · have bound := b.toNat_lt
      have hw : 16 * (b.toNat / 16) + b.toNat % 16 = b.toNat := by omega
      simp only [cons_append, nil_append]
      rw [decode_percent (by omega) (by omega), ih, hw]
      simp [Nat.toUInt8]

lemma mem_encode {bs : List UInt8} (mem : c ∈ encode p bs) :
    c = '%' ∨ (hexValue c).isSome ∨ ∃ b, p b ∧ c = Char.ofNat b.toNat := by
  obtain ⟨b, -, hc⟩ := mem_flatMap.mp mem
  have bound := b.toNat_lt
  rw [encodeByte] at hc
  split at hc
  · rename_i hs
    exact .inr (.inr ⟨b, hs, mem_singleton.mp hc⟩)
  · have hi := hexValue_hexDigit (b.toNat / 16) (by omega)
    have low := hexValue_hexDigit (b.toNat % 16) (by omega)
    simp only [mem_cons, not_mem_nil, or_false] at hc
    rcases hc with rfl | rfl | rfl
    · exact .inl rfl
    · exact .inr (.inl (by simp [hi]))
    · exact .inr (.inl (by simp [low]))

end PercentEncoding

namespace FormUrlEncoding

open PercentEncoding List

/-- Letters, digits, `*`, `-`, `.` and `_`, and the space, which is then written as `+`. -/
def isPlain (byte : UInt8) : Bool :=
  let c := Char.ofNat byte.toNat
  byte < 0x80 && (c.isAlphanum || c ∈ ['*', '-', '.', '_', ' '])

def plus (c : Char) : Char := if c = ' ' then '+' else c

def space (c : Char) : Char := if c = '+' then ' ' else c

def component (s : String) : List Char := (encode isPlain (bytes s)).map plus

def readComponent (cs : List Char) : Option String := (decode (cs.map space)).bind text

/-- The characters that separate the parts of a URL, and `+`. -/
def reserved : List Char := ['&', '=', '#', '+']

lemma isPlain_isPlainSet : IsPlainSet isPlain := by
  have he : ∀ n < 256, isPlain (UInt8.ofNat n) → UInt8.ofNat n < 0x80 ∧ UInt8.ofNat n ≠ 0x25 := by
    decide +kernel
  intro b
  have hh := he b.toNat b.toNat_lt
  rwa [UInt8.ofNat_toNat] at hh

lemma not_reserved_of_isPlain {b : UInt8} (self : isPlain b) : Char.ofNat b.toNat ∉ reserved := by
  have he : ∀ n < 256, isPlain (UInt8.ofNat n) → Char.ofNat n ∉ reserved := by decide +kernel
  exact he b.toNat b.toNat_lt (by rwa [UInt8.ofNat_toNat])

variable {c separator : Char}

lemma not_reserved_of_mem_encode {bs : List UInt8}
    (mem : c ∈ encode isPlain bs) : c ∉ reserved := by
  rcases mem_encode mem with rfl | hdg | ⟨byte, hs, rfl⟩
  · decide
  · intro ha
    have none : ∀ c ∈ reserved, hexValue c = none := by simp [reserved, hexValue]
    rw [none c ha] at hdg
    cases hdg
  · exact not_reserved_of_isPlain hs

lemma readComponent_component (s : String) : readComponent (component s) = some s := by
  have hbc : (component s).map space = encode isPlain (bytes s) := by
    rw [component, map_map]
    refine (map_congr_left fun c mem => ?_).trans (map_id _)
    by_cases hb : c = ' '
    · simp [hb, plus, space]
    · have x : c ≠ '+' := by
        rintro rfl
        exact not_reserved_of_mem_encode mem (by decide)
      simp [plus, space, hb, x]
  rw [readComponent, hbc, decode_encode isPlain_isPlainSet]
  exact text_bytes s

lemma ne_of_mem_component {s : String} (mem : c ∈ component s)
    (hs : separator ∈ ['&', '=', '#']) : c ≠ separator := by
  obtain ⟨old, hc, rfl⟩ := mem_map.mp mem
  rintro rfl
  rw [plus] at hs
  split at hs
  · simp at hs
  · exact not_reserved_of_mem_encode hc (mem_append_left ['+'] hs)

def pair (param : String × String) : List Char := component param.1 ++ '=' :: component param.2

def readPair (piece : List Char) : Option (String × String) := do
  let name ← readComponent (piece.takeWhile (· ≠ '='))
  let value ← readComponent ((piece.dropWhile (· ≠ '=')).drop 1)
  return (name, value)

lemma readPair_pair (param : String × String) : readPair (pair param) = some param := by
  have s : ∀ c ∈ component param.1, decide (c ≠ '=') = true := by
    intro c mem
    simpa using ne_of_mem_component mem (by simp)
  rw [readPair, pair, takeWhile_append_of_pos s, dropWhile_append_of_pos s,
    takeWhile_cons_of_neg (by simp), dropWhile_cons_of_neg (by simp), append_nil,
    drop_one, tail_cons, readComponent_component, readComponent_component]
  rfl

lemma ne_of_mem_pair {p : String × String} (mem : c ∈ pair p)
    (hs : separator ∈ ['&', '#']) : c ≠ separator := by
  have ha : separator ∈ ['&', '=', '#'] := by
    simp only [mem_cons, not_mem_nil, or_false] at hs ⊢
    tauto
  rcases mem_append.mp mem with n | r
  · exact ne_of_mem_component n ha
  · rcases mem_cons.mp r with rfl | v
    · rintro rfl
      simp at hs
    · exact ne_of_mem_component v ha

/-- `URLSearchParams.prototype.toString`. -/
def serialize (params : List (String × String)) : String :=
  String.ofList (['&'].intercalate (params.map pair))

lemma ne_of_mem_serialize {ps : List (String × String)}
    (mem : c ∈ (serialize ps).toList) : c ≠ '#' := by
  rw [serialize, String.toList_ofList] at mem
  induction ps with
  | nil => cases mem
  | cons param ps ih =>
    cases ps with
    | nil => exact ne_of_mem_pair (by simpa using mem) (by simp)
    | cons next ps =>
      rw [map_cons, map_cons, intercalate_cons_cons] at mem
      simp only [mem_append, mem_singleton] at mem
      rcases mem with (first | rfl) | r
      · exact ne_of_mem_pair first (by simp)
      · decide
      · exact ih r

def parse (query : List Char) : Option (List (String × String)) :=
  ((query.splitOn '&').filter (· ≠ [])).mapM readPair

lemma parse_serialize (params : List (String × String)) :
    parse (serialize params).toList = some params := by
  rw [serialize, String.toList_ofList]
  by_cases none : params = []
  · subst none
    rfl
  · have split : (['&'].intercalate (params.map pair)).splitOn '&' = params.map pair := by
      refine splitOn_intercalate '&' ?_ (by simpa using none)
      intro p mem hin
      obtain ⟨param, -, rfl⟩ := mem_map.mp mem
      exact ne_of_mem_pair hin (by simp) rfl
    have hn : (params.map pair).filter (· ≠ []) = params.map pair := by
      rw [filter_eq_self]
      intro p mem
      obtain ⟨param, -, rfl⟩ := mem_map.mp mem
      simp [pair]
    have hr : readPair ∘ pair = fun param => pure param := funext readPair_pair
    rw [parse, split, hn, mapM_map, hr, mapM_pure, map_id']
    rfl

/-- The query of a URL, between the first `?` and the fragment. -/
def search (url : String) : List Char :=
  ((url.toList.takeWhile (· ≠ '#')).dropWhile (· ≠ '?')).drop 1

def searchParams (url : String) : Option (List (String × String)) := parse (search url)

lemma searchParams_serialize {b : String} (hnq : '?' ∉ b.toList)
    (hn : '#' ∉ b.toList) (params : List (String × String)) :
    searchParams (b ++ "?" ++ serialize params) = some params := by
  have hw : ∀ c ∈ (b ++ "?" ++ serialize params).toList, decide (c ≠ '#') = true := by
    intro c mem
    simp only [String.toList_append, mem_append] at mem
    simp only [decide_eq_true_eq]
    rcases mem with (hin | hm) | hin
    · rintro rfl
      exact hn hin
    · rintro rfl
      simp at hm
    · exact ne_of_mem_serialize hin
  have s : ∀ c ∈ b.toList, decide (c ≠ '?') = true := by
    intro c mem
    simp only [decide_eq_true_eq]
    rintro rfl
    exact hnq mem
  have hq : search (b ++ "?" ++ serialize params) = (serialize params).toList := by
    rw [search, takeWhile_eq_self_iff.mpr hw, String.toList_append, String.toList_append,
      append_assoc, dropWhile_append_of_pos s]
    rfl
  rw [searchParams, hq, parse_serialize]

end FormUrlEncoding

namespace UriComponent

open PercentEncoding List

/-- Letters, digits and the marks that `encodeURIComponent` leaves alone. -/
def isPlain (byte : UInt8) : Bool :=
  let c := Char.ofNat byte.toNat
  byte < 0x80 && (c.isAlphanum || c ∈ ['-', '_', '.', '!', '~', '*', '\'', '(', ')'])

/-- `encodeURIComponent`. -/
def component (s : String) : List Char := encode isPlain (bytes s)

/-- `decodeURIComponent`, which throws where this is none. -/
def readComponent (cs : List Char) : Option String := (decode cs).bind text

lemma isPlain_isPlainSet : IsPlainSet isPlain := by
  have he : ∀ n < 256, isPlain (UInt8.ofNat n) = true →
      UInt8.ofNat n < 0x80 ∧ UInt8.ofNat n ≠ 0x25 := by decide +kernel
  intro b hs
  have hck := he b.toNat b.toNat_lt
  rw [UInt8.ofNat_toNat] at hck
  exact hck hs

lemma readComponent_component (s : String) : readComponent (component s) = some s := by
  rw [readComponent, component, decode_encode isPlain_isPlainSet, Option.bind_some, text_bytes]

/-- What is left has no blanks, no control characters and no separators. -/
def isVisible (c : Char) : Bool := 32 < c.toNat && c.toNat < 127 && c ≠ ';' && c ≠ '='

variable {c : Char} {s : String}

lemma isVisible_of_hexValue (hdg : (hexValue c).isSome) : isVisible c = true := by
  have he : ∀ n < 128, (hexValue (Char.ofNat n)).isSome → isVisible (Char.ofNat n) = true := by
    decide
  have hs : c.toNat < 128 := by
    simp only [hexValue, Char.le_def] at hdg
    split at hdg
    · rename_i r
      have hb : c.val.toNat ≤ 57 := r.2
      simp only [Char.toNat]
      omega
    · split at hdg
      · rename_i r
        have hb : c.val.toNat ≤ 70 := r.2
        simp only [Char.toNat]
        omega
      · split at hdg
        · rename_i r
          have hb : c.val.toNat ≤ 102 := r.2
          simp only [Char.toNat]
          omega
        · cases hdg
  have hh := he c.toNat hs
  rw [Char.ofNat_toNat] at hh
  exact hh hdg

lemma isVisible_of_mem_component (mem : c ∈ component s) : isVisible c = true := by
  rcases mem_encode mem with rfl | hdg | ⟨b, self, rfl⟩
  · decide
  · exact isVisible_of_hexValue hdg
  · have he : ∀ n < 256, isPlain (UInt8.ofNat n) = true → isVisible (Char.ofNat n) = true := by
      decide +kernel
    exact he b.toNat b.toNat_lt (by rwa [UInt8.ofNat_toNat])

lemma component_eq_nil (none : component s = []) : s = "" := by
  have hr := readComponent_component s
  rw [none] at hr
  exact (Option.some.inj hr).symm

end UriComponent
