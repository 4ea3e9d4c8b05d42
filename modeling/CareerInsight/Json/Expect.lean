import CareerInsight.Json.Value
import CareerInsight.Binary64.Text
import CareerInsight.Text.Escaped

/-!
# Reading typed data out of JSON

A typed reader takes a JSON value apart into the data it expects and
otherwise names the first mismatch (`DecodeError`), in the words of a
schema-driven reader: what was found, and what was expected.

Found values are described by their kind: `null`, ``boolean `true` ``,
``integer `7` ``, ``floating point `1.5` `` (a float written as in a JSON
document, so always with a point or an exponent),
`string "x"` (quoted as in diagnostics), `sequence` or `map`.

A record can be given as an object or, field by field in declaration
order, as an array.  Object keys are read in ascending order, unknown keys
are skipped, and only then are absent fields reported, in declaration order.
-/

namespace CareerInsight

/-- The first mismatch between a JSON value and the data a reader expects. -/
inductive DecodeError where
  | invalidType (found expected : String)
  | invalidValue (found expected : String)
  | invalidLength (length : Nat) (expected : String)
  | missingField (name : String)
  | duplicateField (name : String)
  | custom (message : String)
  deriving Repr, BEq

/-- The words for a mismatch. -/
def DecodeError.message : DecodeError → String
  | .invalidType found expected => "invalid type: " ++ found ++ ", expected " ++ expected
  | .invalidValue found expected => "invalid value: " ++ found ++ ", expected " ++ expected
  | .invalidLength n expected => "invalid length " ++ toString n ++ ", expected " ++ expected
  | .missingField name => "missing field `" ++ name ++ "`"
  | .duplicateField name => "duplicate field `" ++ name ++ "`"
  | .custom message => message

/-- A float as shown in a mismatch: its text in a JSON document. -/
def foundFloatText (x : Float) : String := x.jsonText

/-- The description of a number found where something else was expected. -/
def JsonNumber.found : JsonNumber → String
  | .natural n => "integer `" ++ toString n ++ "`"
  | .negative n => "integer `" ++ toString n ++ "`"
  | .float x => "floating point `" ++ foundFloatText x ++ "`"

/-- The description of a value found where something else was expected. -/
def Json.found : Json → String
  | .null => "null"
  | .bool b => "boolean `" ++ (if b then "true" else "false") ++ "`"
  | .number n => n.found
  | .string s => "string " ++ s.diagnosticQuote
  | .array _ => "sequence"
  | .object _ => "map"

namespace Decode

/-- A text. -/
def string : Json → Except DecodeError String
  | .string s => .ok s
  | v => .error (.invalidType v.found "a string")

/-- A text or nothing, for `null`. -/
def optionalString : Json → Except DecodeError (Option String)
  | .null => .ok none
  | v => some <$> string v

/-- An unsigned 32-bit integer. -/
def word32 : Json → Except DecodeError Nat
  | .number (.natural n) =>
    if n < Nat.pow 2 32 then .ok n else .error (.invalidValue ("integer `" ++ toString n ++ "`") "u32")
  | .number (.negative n) => .error (.invalidValue ("integer `" ++ toString n ++ "`") "u32")
  | v => .error (.invalidType v.found "u32")

/-- A list whose items are read by `item`. -/
def list {α : Type} (item : Json → Except DecodeError α) : Json → Except DecodeError (List α)
  | .array items => items.mapM item
  | v => .error (.invalidType v.found "a sequence")

/-- The value of a field read by `read`, if the object has the field. -/
def field? {α : Type} (fields : Json.Fields) (name : String) (read : Json → Except DecodeError α) :
    Except DecodeError (Option α) :=
  match fields.lookup name with
  | some v => some <$> read v
  | none => .ok none

/-- A field that must be present. -/
def required {α : Type} (name : String) : Option α → Except DecodeError α
  | some a => .ok a
  | none => .error (.missingField name)

/-- Refuses array items beyond the fields of a record. -/
def noMoreItems (items : List Json) (count : Nat) : Except DecodeError Unit :=
  if items.length > count then .error (.invalidLength items.length "fewer elements in array")
  else .ok ()

end Decode

end CareerInsight
