import CareerInsight.Binary64.Basic
import CareerInsight.Keyed

/-!
# JSON values

A JSON value as the service holds it.  Numbers keep the kind the document
gave them, because the kind shows in every answer: an integer that fits an
unsigned 64-bit word, a negative integer that fits a signed one, and
otherwise a finite binary64 float.  Objects are lists of entries kept in
ascending key order with each key once; writing an entry replaces the old
value of its key, so of two entries with one key the later one wins.

* `Json.Fields.put` writes an entry and keeps the order; `Json.Fields.ofList`
  builds an object from entries in document order.
* `Json.asFloat?` reads any number as a float, rounding a large integer to
  the nearest float.
* `Json.ofFloat` turns a float into a number and NaN or an infinity into
  `null`, since a JSON document has no such numbers.
-/

namespace CareerInsight

/-- A JSON number of one of three kinds. -/
inductive JsonNumber where
  /-- An integer from `0` to `2 ^ 64 - 1`. -/
  | natural (n : Nat)
  /-- An integer from `-2 ^ 63` to `-1`. -/
  | negative (n : Int)
  /-- A finite float that is not read as an integer. -/
  | float (x : Float)
  deriving Repr, BEq, Inhabited

/-- A JSON value; the entries of an object are in ascending key order. -/
inductive Json where
  | null
  | bool (b : Bool)
  | number (n : JsonNumber)
  | string (s : String)
  | array (items : List Json)
  | object (fields : List (String × Json))
  deriving Repr, BEq, Inhabited

namespace JsonNumber

/-- The number as a float: an integer goes to its nearest float. -/
def toFloat : JsonNumber → Float
  | natural n => Float.ofNat n
  | negative n => Float.ofInt n
  | float x => x

/-- An integer as a number of the integer kind that holds it. -/
def ofInt (i : Int) : JsonNumber := if 0 ≤ i then natural i.toNat else negative i

end JsonNumber

namespace Json

/-- The entries of a JSON object. -/
abbrev Fields := List (String × Json)

namespace Fields

/-- The value of a key, if the object has one. -/
def lookup (fields : Fields) (key : String) : Option Json := Keyed.lookup fields key

/-- Writes an entry: replaces the value of an existing key, and otherwise
inserts the entry before the first greater key. -/
def put (fields : Fields) (key : String) (value : Json) : Fields := Keyed.put fields key value

/-- Removes the entry of a key. -/
def erase (fields : Fields) (key : String) : Fields := Keyed.erase fields key

/-- An object from entries in document order; a repeated key keeps its
last value. -/
def ofList (entries : List (String × Json)) : Fields := Keyed.ofList entries

/-- The keys in ascending order. -/
def keys (fields : Fields) : List String := fields.map (·.1)

end Fields

/-- The value of a number as a float; none for any other value. -/
def asFloat? : Json → Option Float
  | number n => some n.toFloat
  | _ => none

/-- The text of a string value. -/
def asString? : Json → Option String
  | string s => some s
  | _ => none

/-- The items of an array value. -/
def asArray? : Json → Option (List Json)
  | array items => some items
  | _ => none

/-- The entries of an object value. -/
def asObject? : Json → Option Fields
  | object fields => some fields
  | _ => none

/-- A key of an object value; none for a missing key and for a value that
is not an object. -/
def field? (v : Json) (key : String) : Option Json :=
  match v with
  | object fields => fields.lookup key
  | _ => none

/-- A float as a JSON number, and `null` for NaN and the infinities. -/
def ofFloat (x : Float) : Json := if x.isFinite then number (.float x) else null

/-- An integer as a JSON number. -/
def ofInt (i : Int) : Json := number (JsonNumber.ofInt i)

/-- A list of strings as a JSON array. -/
def ofStrings (items : List String) : Json := array (items.map string)

/-- An object from entries in document order. -/
def objectOf (entries : List (String × Json)) : Json := object (Fields.ofList entries)

end Json

end CareerInsight
