import CareerInsight.Json.Read

/-!
# Skipping a JSON value

`Cursor.skipValue` passes over one value without building it, the way a
reader drops the value of a key it does not know.  It checks less than
`Json.read`, and where it checks it may name a different fault:

* numbers are checked for their form only, never for their range, so
  `1e400` passes; a sign with no digit after it is an invalid number;
* `\u` escapes need four hex digits, but a lone surrogate passes, and a raw
  control character is placed at the character, not after it;
* arrays and objects may nest without limit; a comma before a closing
  bracket is a missing value, and one before a closing brace a key that is
  not a string.

Arrays and objects are skipped with an explicit stack of the brackets that
are open, innermost first.
-/

namespace CareerInsight

/-- An array or object that the skipper is inside. -/
inductive OpenBracket where
  | list
  | object
  deriving DecidableEq, Repr

namespace OpenBracket

/-- The fault for a character that neither continues nor closes it. -/
def commaOrEnd : OpenBracket → ReadFault
  | list => .expectedListCommaOrEnd
  | object => .expectedObjectCommaOrEnd

/-- The fault for the end of the text inside it. -/
def unfinished : OpenBracket → ReadFault
  | list => .eofWhileParsingList
  | object => .eofWhileParsingObject

/-- Whether a character closes it. -/
def closedBy : OpenBracket → Char → Bool
  | list, ch => ch = ']'
  | object, ch => ch = '}'

end OpenBracket

namespace SkipReading

/-- Skips string characters up to and including the closing quote. -/
def string (c : Cursor) : Nat → Except ReadError Cursor
  | 0 => .error (c.fail .eofWhileParsingString)
  | fuel + 1 =>
    match c.peek? with
    | none => .error (c.fail .eofWhileParsingString)
    | some '"' => .ok c.advance
    | some '\\' =>
      let c := c.advance
      match c.peek? with
      | none => .error (c.fail .eofWhileParsingString)
      | some ch =>
        if ch = 'u' then
          match StringReading.hexQuad c.advance with
          | .ok (_, c) => string c fuel
          | .error e => .error e
        else if ch ∈ ['"', '\\', '/', 'b', 'f', 'n', 'r', 't'] then string c.advance fuel
        else .error (c.failAhead .invalidEscape)
    | some ch =>
      if ch.toNat < 0x20 then .error (c.fail .controlCharacterWhileParsingString)
      else string c.advance fuel

/-- Skips the digits of an exponent after its `e`. -/
def exponent (c : Cursor) : Except ReadError Cursor :=
  let c := match c.peek? with
    | some '+' | some '-' => c.advance
    | _ => c
  match c.peek? with
  | some ch => if ch.isDigit then .ok c.advance.skipDigits else .error (c.failAhead .invalidNumber)
  | none => .error (c.fail .invalidNumber)

/-- Skips a fraction after its point, and an exponent after it. -/
def fraction (c : Cursor) : Except ReadError Cursor :=
  match c.peek? with
  | some ch =>
    if ch.isDigit then
      let c := c.skipDigits
      match c.peek? with
      | some 'e' | some 'E' => exponent c.advance
      | _ => .ok c
    else .error (c.failAhead .invalidNumber)
  | none => .error (c.failAhead .invalidNumber)

/-- Skips what may follow the integer part of a number. -/
def afterInteger (c : Cursor) : Except ReadError Cursor :=
  match c.peek? with
  | some '.' => fraction c.advance
  | some 'e' | some 'E' => exponent c.advance
  | _ => .ok c

/-- Skips a number after its optional minus sign. -/
def number (c : Cursor) : Except ReadError Cursor :=
  match c.peek? with
  | some '0' =>
    let c := c.advance
    match c.peek? with
    | some ch => if ch.isDigit then .error (c.failAhead .invalidNumber) else afterInteger c
    | none => .ok c
  | some ch =>
    if ch.isDigit then afterInteger c.advance.skipDigits
    else .error (c.failAhead .invalidNumber)
  | none => .error (c.fail .invalidNumber)

/-- Skips a value that is not an array or object, starting with `ch`. -/
def scalar (ch : Char) (c : Cursor) : Except ReadError Cursor :=
  match ch with
  | 'n' => c.advance.readKeyword ['u', 'l', 'l']
  | 't' => c.advance.readKeyword ['r', 'u', 'e']
  | 'f' => c.advance.readKeyword ['a', 'l', 's', 'e']
  | '-' => number c.advance
  | '"' => string c.advance (c.rest.length + 1)
  | _ => if ch.isDigit then number c else .error (c.failAhead .expectedSomeValue)

mutual

/-- Skips a value, blanks first, inside the brackets `stack`, and then every
bracket that closes right after it. -/
def value (stack : List OpenBracket) (c : Cursor) : Nat → Except ReadError Cursor
  | 0 => .error (c.fail .recursionLimitExceeded)
  | fuel + 1 =>
    let c := c.skipBlank
    match c.peek? with
    | none => .error (c.failAhead .eofWhileParsingValue)
    | some '[' => opened .list stack c.advance fuel
    | some '{' => opened .object stack c.advance fuel
    | some ch =>
      match scalar ch c with
      | .error e => .error e
      | .ok c => close stack c fuel

/-- Goes on right after an opening bracket `b`, which may close at once. -/
def opened (b : OpenBracket) (stack : List OpenBracket) (c : Cursor) : Nat → Except ReadError Cursor
  | 0 => .error (c.fail .recursionLimitExceeded)
  | fuel + 1 =>
    let c := c.skipBlank
    match c.peek? with
    | none => .error (c.failAhead b.unfinished)
    | some ch =>
      if b.closedBy ch then close stack c.advance fuel
      else member b stack c fuel

/-- Skips the next member inside `b`: a key and its colon first in an object. -/
def member (b : OpenBracket) (stack : List OpenBracket) (c : Cursor) : Nat → Except ReadError Cursor
  | 0 => .error (c.fail .recursionLimitExceeded)
  | fuel + 1 =>
    match b with
    | .list => value (b :: stack) c fuel
    | .object =>
      let c := c.skipBlank
      match c.peek? with
      | some '"' =>
        match string c.advance (c.rest.length + 1) with
        | .error e => .error e
        | .ok c =>
          let c := c.skipBlank
          match c.peek? with
          | some ':' => value (b :: stack) c.advance fuel
          | some _ => .error (c.failAhead .expectedColon)
          | none => .error (c.failAhead .eofWhileParsingObject)
      | some _ => .error (c.failAhead .keyMustBeAString)
      | none => .error (c.failAhead .eofWhileParsingObject)

/-- After a member: a comma leads to the next one, and a closing bracket
closes the innermost open bracket. -/
def close (stack : List OpenBracket) (c : Cursor) : Nat → Except ReadError Cursor
  | 0 => .error (c.fail .recursionLimitExceeded)
  | fuel + 1 =>
    match stack with
    | [] => .ok c
    | b :: rest =>
      let c := c.skipBlank
      match c.peek? with
      | none => .error (c.failAhead b.unfinished)
      | some ',' => member b rest c.advance fuel
      | some ch =>
        if b.closedBy ch then close rest c.advance fuel
        else .error (c.failAhead b.commaOrEnd)

end

end SkipReading

/-- Skips one value at the cursor, blanks first. -/
def Cursor.skipValue (c : Cursor) : Except ReadError Cursor :=
  SkipReading.value [] c (4 * c.rest.length + 4)

end CareerInsight
