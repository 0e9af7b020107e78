import Mathlib.Algebra.Order.Field.Rat
import Mathlib.Data.List.Infix

/-!
# JavaScript numbers and values

Numbers are exact rationals with infinities and NaN; zero has no sign. Arrays and
objects are compared by reference. The conversions of `Number()` and `String()` are a
parameter, fixed where they change nothing.
-/

inductive JsNumber where
  | finite (q : Rat)
  | infinity (negative : Bool)
  | nan
  deriving DecidableEq

namespace JsNumber

def isNegative : JsNumber → Bool
  | finite q => q < 0
  | infinity negative => negative
  | nan => false

def neg : JsNumber → JsNumber
  | finite q => finite (-q)
  | infinity negative => infinity !negative
  | nan => nan

def add : JsNumber → JsNumber → JsNumber
  | finite p, finite q => finite (p + q)
  | infinity m, infinity n => if m = n then infinity m else nan
  | infinity m, finite _ => infinity m
  | finite _, infinity n => infinity n
  | _, _ => nan

def sub (x y : JsNumber) : JsNumber := add x (neg y)

def mul : JsNumber → JsNumber → JsNumber
  | finite p, finite q => finite (p * q)
  | nan, _ => nan
  | _, nan => nan
  | x, y => if x = finite 0 ∨ y = finite 0 then nan else infinity (x.isNegative != y.isNegative)

def div : JsNumber → JsNumber → JsNumber
  | finite p, finite q =>
    if q ≠ 0 then finite (p / q) else if p = 0 then nan else infinity (p < 0)
  | finite _, infinity _ => finite 0
  | infinity m, finite q => infinity (m != (finite q).isNegative)
  | _, _ => nan

def abs (x : JsNumber) : JsNumber := if x.isNegative then x.neg else x

def lt : JsNumber → JsNumber → Bool
  | finite p, finite q => p < q
  | infinity m, infinity n => m && !n
  | infinity m, finite _ => m
  | finite _, infinity n => !n
  | _, _ => false

lemma div_finite (p : Rat) {q : Rat} (hnz : q ≠ 0) : div (finite p) (finite q) = finite (p / q) :=
  if_pos hnz

end JsNumber

inductive JsValue where
  | undefined
  | null
  | boolean (b : Bool)
  | number (x : JsNumber)
  | string (s : String)
  | array (ref : Nat) (items : List JsValue)
  | object (ref : Nat)

/-- `text || undefined`, where the empty text counts as false. -/
def truthyText (text : Option String) : Option String := text.filter (· ≠ "")

namespace JsValue

def truthy : JsValue → Bool
  | undefined => false
  | null => false
  | boolean b => b
  | number x => x ≠ .finite 0 ∧ x ≠ .nan
  | string s => s ≠ ""
  | array _ _ => true
  | object _ => true

def strictEquals : JsValue → JsValue → Bool
  | undefined, undefined => true
  | null, null => true
  | boolean a, boolean b => a = b
  | number x, number y => x = y ∧ x ≠ .nan
  | string s, string t => s = t
  | array r _, array r' _ => r = r'
  | object r, object r' => r = r'
  | _, _ => false

/-- The comparison of `Array.prototype.includes`, for which NaN equals itself. -/
def sameValueZero : JsValue → JsValue → Bool
  | number .nan, number .nan => true
  | x, y => strictEquals x y

end JsValue

structure JsConversions where
  toNumber : JsValue → JsNumber
  toText : JsValue → String
  toNumber_number : ∀ x, toNumber (.number x) = x
  toText_string : ∀ s, toText (.string s) = s

namespace JsConversions

/-- Conversions that know numbers and texts only. -/
def plain : JsConversions where
  toNumber := fun
    | .number x => x
    | _ => .nan
  toText := fun
    | .string s => s
    | _ => ""
  toNumber_number := fun _ => rfl
  toText_string := fun _ => rfl

def numberLess (conversions : JsConversions) (x y : JsValue) : Bool :=
  (conversions.toNumber x).lt (conversions.toNumber y)

def textIncludes (conversions : JsConversions) (x y : JsValue) : Bool :=
  (conversions.toText y).toList <:+: (conversions.toText x).toList

end JsConversions
