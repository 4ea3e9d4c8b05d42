import CareerInsight.Json.Value
import CareerInsight.Domain

/-!
# Field values and records

A record is what validation makes of an untrusted payload: a domain tag
and a value for every declared field, the fields in ascending name order.
A value has one of six kinds: a float, an integer, a label from an allowed
list, a text, a list of texts, or a nested JSON object.

* `Record.number?` reads both numeric kinds as a float, so an integer field
  can feed a score.
* `Record.label?` and `Record.text?` read one kind only and refuse the others.
* `FieldValue.toJson` writes a value as JSON: a float as a float, an integer
  as an integer, a nested object as itself.
-/

namespace CareerInsight

/-- The value of one record field. -/
inductive FieldValue where
  | number (x : Float)
  | integer (i : Int)
  | label (s : String)
  | text (s : String)
  | list (items : List String)
  | nested (fields : Json.Fields)
  deriving Repr, BEq, Inhabited

namespace FieldValue

/-- The value as a float, for the two numeric kinds. -/
def asFloat? : FieldValue → Option Float
  | number x => some x
  | integer i => some (Float.ofInt i)
  | _ => none

/-- The value as JSON; a NaN or infinite float becomes `null`. -/
def toJson : FieldValue → Json
  | number x => Json.ofFloat x
  | integer i => Json.ofInt i
  | label s => .string s
  | text s => .string s
  | list items => Json.ofStrings items
  | nested fields => .object fields

/-- The name of the value's kind. -/
def kindName : FieldValue → String
  | number _ => "number"
  | integer _ => "integer"
  | label _ => "label"
  | text _ => "text"
  | list _ => "list"
  | nested _ => "nested"

end FieldValue

/-- A domain tag with a value for each field, the fields in ascending name order. -/
structure Record where
  domain : Domain
  fields : List (String × FieldValue)
  deriving Repr, BEq, Inhabited

namespace Record

/-- The record of a domain with no fields. -/
def empty (domain : Domain) : Record := ⟨domain, []⟩

/-- The value of a field. -/
def get? (r : Record) (field : String) : Option FieldValue := Keyed.lookup r.fields field

/-- A numeric field as a float; none for a missing field or another kind. -/
def number? (r : Record) (field : String) : Option Float := (r.get? field).bind FieldValue.asFloat?

/-- A label field; none for a missing field or another kind. -/
def label? (r : Record) (field : String) : Option String :=
  match r.get? field with
  | some (.label s) => some s
  | _ => none

/-- A text field; none for a missing field or another kind. -/
def text? (r : Record) (field : String) : Option String :=
  match r.get? field with
  | some (.text s) => some s
  | _ => none

/-- Writes a field, replacing its old value. -/
def set (r : Record) (field : String) (value : FieldValue) : Record :=
  { r with fields := Keyed.put r.fields field value }

/-- Removes a field. -/
def erase (r : Record) (field : String) : Record :=
  { r with fields := Keyed.erase r.fields field }

end Record

end CareerInsight
