import CareerInsight.Json.Value
import CareerInsight.Binary64.Text

/-!
# Writing JSON

`Json.compact` writes a value with no blank between tokens, entries in the
object's key order.  Integers are written in decimal and floats with the
shortest digits in the JSON layout of `Binary64.Text`.

A string is written between double quotes with a backslash before a quote
and before a backslash, the short escapes `\b`, `\t`, `\n`, `\f` and `\r`,
and `\u00XX` with lowercase hex digits for the other characters below
U+0020.  Every other character, U+007F and all non-ASCII ones included, is
written as it is.
-/

namespace CareerInsight

namespace Json

/-- A lowercase hex digit. -/
def hexDigit (n : Nat) : Char :=
  if n < 10 then Char.ofNat (48 + n) else Char.ofNat (87 + n)

/-- The escaped form of one character inside a string. -/
def escapeChar (c : Char) : String :=
  if c = '"' then "\\\""
  else if c = '\\' then "\\\\"
  else if c = '\x08' then "\\b"
  else if c = '\t' then "\\t"
  else if c = '\n' then "\\n"
  else if c = '\x0c' then "\\f"
  else if c = '\r' then "\\r"
  else if c.toNat < 32 then
    "\\u00" ++ String.singleton (hexDigit (c.toNat / 16)) ++ String.singleton (hexDigit (c.toNat % 16))
  else String.singleton c

/-- A string as a JSON string literal. -/
def quote (s : String) : String :=
  "\"" ++ String.join (s.toList.map escapeChar) ++ "\""

end Json

/-- The text of a number: decimal for integers, shortest digits for floats. -/
def JsonNumber.text : JsonNumber → String
  | .natural n => toString n
  | .negative n => toString n
  | .float x => x.jsonText

namespace Json

mutual

/-- The compact text of a value. -/
def compact : Json → String
  | null => "null"
  | bool b => if b then "true" else "false"
  | number n => n.text
  | string s => quote s
  | array items => "[" ++ compactItems items ++ "]"
  | object fields => "\x7b" ++ compactEntries fields ++ "\x7d"

/-- The compact text of array items, separated by commas. -/
def compactItems : List Json → String
  | [] => ""
  | [v] => compact v
  | v :: rest => compact v ++ "," ++ compactItems rest

/-- The compact text of object entries, separated by commas. -/
def compactEntries : List (String × Json) → String
  | [] => ""
  | [(k, v)] => quote k ++ ":" ++ compact v
  | (k, v) :: rest => quote k ++ ":" ++ compact v ++ "," ++ compactEntries rest

end

end Json

end CareerInsight
