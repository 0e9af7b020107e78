import Optimizely.JsValue
import Optimizely.OrderedMap

/-!
# JSON

Plain data of the language, and what `JSON.stringify` makes of it. `undefined` has no
text: a field that holds it is left out, an item that is it becomes `null`. A `Date` is
written as its ISO text, and `JSON.parse` reads a text. What is parsed was written by
`JSON.stringify`.
-/

inductive JsData where
  | undefined
  | null
  | boolean (b : Bool)
  | number (x : JsNumber)
  | string (s : String)
  | date (ms : Int)
  | array (items : List JsData)
  | object (fields : List (String × JsData))

inductive Json where
  | null
  | boolean (b : Bool)
  | number (q : Rat)
  | string (s : String)
  | array (items : List Json)
  | object (fields : List (String × Json))

/-- A number with at least `width` digits. -/
def padded (width n : Nat) : String :=
  let digits := toString n
  String.ofList (List.replicate (width - digits.length) '0') ++ digits

/-- Year, month and day of a day counted from 1 January 1970, in the Gregorian calendar. -/
def civilDate (day : Int) : Int × Nat × Nat :=
  -- the years begin in March, and an era is 400 of them
  let shifted := day + 719468
  let era := shifted / 146097
  let dayOfEra := (shifted % 146097).toNat
  let yearOfEra :=
    (dayOfEra - dayOfEra / 1460 + dayOfEra / 36524 - dayOfEra / 146096) / 365
  let dayOfYear := dayOfEra - (365 * yearOfEra + yearOfEra / 4 - yearOfEra / 100)
  let month := (5 * dayOfYear + 2) / 153
  let dayOfMonth := dayOfYear - (153 * month + 2) / 5 + 1
  if month < 10 then (era * 400 + yearOfEra, month + 3, dayOfMonth)
  else (era * 400 + yearOfEra + 1, month - 9, dayOfMonth)

/-- The year with four digits, or with a sign and six. -/
def yearText (year : Int) : String :=
  if 0 ≤ year ∧ year ≤ 9999 then padded 4 year.toNat
  else (if year < 0 then "-" else "+") ++ padded 6 year.natAbs

/-- `Date.prototype.toISOString`. -/
def toISOString (ms : Int) : String :=
  let (year, month, day) := civilDate (ms / 86400000)
  let time := (ms % 86400000).toNat
  yearText year ++ "-" ++ padded 2 month ++ "-" ++ padded 2 day ++ "T" ++
    padded 2 (time / 3600000) ++ ":" ++ padded 2 (time / 60000 % 60) ++ ":" ++
    padded 2 (time / 1000 % 60) ++ "." ++ padded 3 (time % 1000) ++ "Z"

example : toISOString 951827696789 = "2000-02-29T12:34:56.789Z" := by decide +kernel

namespace Json

/-- Infinities and NaN are written as `null`. -/
def ofNumber : JsNumber → Json
  | .finite q => number q
  | .infinity _ => null
  | .nan => null

mutual

/-- `JSON.stringify`. -/
def stringify : JsData → Option Json
  | .undefined => none
  | .null => some null
  | .boolean b => some (boolean b)
  | .number x => some (ofNumber x)
  | .string s => some (string s)
  | .date ms => some (string (toISOString ms))
  | .array items => some (array (stringifyItems items))
  | .object fields => some (object (stringifyFields fields))

def stringifyItems : List JsData → List Json
  | [] => []
  | item :: items => (stringify item).getD null :: stringifyItems items

def stringifyFields : List (String × JsData) → List (String × Json)
  | [] => []
  | (key, value) :: fields =>
    match stringify value with
    | none => stringifyFields fields
    | some json => (key, json) :: stringifyFields fields

end

mutual

/-- `JSON.parse`. -/
def parse : Json → JsData
  | null => .null
  | boolean b => .boolean b
  | number q => .number (.finite q)
  | string s => .string s
  | array items => .array (parseItems items)
  | object fields => .object (parseFields fields)

def parseItems : List Json → List JsData
  | [] => []
  | item :: items => parse item :: parseItems items

def parseFields : List (String × Json) → List (String × JsData)
  | [] => []
  | (key, json) :: fields => (key, parse json) :: parseFields fields

end

mutual

lemma stringify_parse : ∀ j : Json, stringify j.parse = some j
  | null => rfl
  | boolean _ => rfl
  | number _ => rfl
  | string _ => rfl
  | array it => by rw [parse, stringify, stringifyItems_parse it]
  | object fs => by rw [parse, stringify, stringifyFields_parse fs]

lemma stringifyItems_parse : ∀ it : List Json, stringifyItems (parseItems it) = it
  | [] => rfl
  | item :: it => by
    rw [parseItems, stringifyItems, stringify_parse item, stringifyItems_parse it]
    rfl

lemma stringifyFields_parse : ∀ fs : List (String × Json),
    stringifyFields (parseFields fs) = fs
  | [] => rfl
  | (key, json) :: fs => by
    rw [parseFields, stringifyFields, stringify_parse json, stringifyFields_parse fs]

end

end Json

namespace JsonRecord

/-- The fields of an object that is kept under a key of its own. -/
abbrev Fields := OrderedMap String JsData

/-- Its text. -/
abbrev Record := OrderedMap String Json

/-- `JSON.stringify(object)`. -/
def stringify (fields : Fields) : Record := fields.filterMapValues Json.stringify

/-- `JSON.parse(text)`. -/
def parse (record : Record) : Fields := record.filterMapValues fun json => some json.parse

lemma get?_parse (r : Record) (k : String) : (parse r).get? k = (r.get? k).map Json.parse := by
  rw [parse, OrderedMap.get?_filterMapValues]
  cases r.get? k <;> rfl

lemma get?_stringify (fs : Fields) (k : String) :
    (stringify fs).get? k = (fs.get? k).bind Json.stringify :=
  OrderedMap.get?_filterMapValues _ _ _

end JsonRecord
