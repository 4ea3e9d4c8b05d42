import CareerInsight.Json.Value
import CareerInsight.Json.Expect

/-!
# Reading JSON

`Json.read` reads a whole JSON document: one value, blanks around it, and
nothing else.  It is the reader every JSON text of the service goes
through, so its answers on malformed text are part of the contract: the
kind of fault and the line and byte column where it was seen.

* Blanks are space, tab, line feed and carriage return.
* An integer is kept as an integer while it fits: up to `2 ^ 64 - 1`, and
  down to `-2 ^ 63`.  `-0` is the float `-0.0`, and an integer too large for
  64 bits becomes a float.
* A number with a fraction or an exponent becomes a float from its decimal
  significand `s` (at most 64 bits; later digits only raise the exponent)
  and its exponent `e`: the nearest float to `s`, then one multiplication
  or division by the nearest float to `10 ^ |e|`, with steps of `10 ^ 308`
  for exponents below `-308`.  A result too large for a float is refused as
  out of range; one too small becomes zero.
* Strings decode the escapes `\" \\ \/ \b \f \n \r \t \uXXXX`, with a
  surrogate pair giving one character; a raw character below U+0020 is
  refused.
* Objects keep the last value of a repeated key (see `Json.Fields.put`).
* An object whose first key is `ValueReading.embeddedTextKey` stands for
  the JSON document in that entry's string: the object reads as that
  document's value, and nothing may follow the entry.
* At most 127 arrays and objects may be open at once.

Positions count lines from one and columns in bytes from the start of the
line.  A fault is placed either at the current position or one byte past
it (at the character that shows the fault), as `Cursor.fail` and
`Cursor.failAhead` say.

The cursor primitives are public: `Service.Request` reads a request body
with them, interleaving shape checks with reading.
-/

namespace CareerInsight

/-- What is wrong with a JSON text, or with the value read from it. -/
inductive ReadFault where
  | eofWhileParsingList
  | eofWhileParsingObject
  | eofWhileParsingString
  | eofWhileParsingValue
  | expectedColon
  | expectedListCommaOrEnd
  | expectedObjectCommaOrEnd
  | expectedSomeIdent
  | expectedSomeValue
  | invalidEscape
  | invalidNumber
  | numberOutOfRange
  | controlCharacterWhileParsingString
  | keyMustBeAString
  | loneLeadingSurrogateInHexEscape
  | trailingComma
  | trailingCharacters
  | unexpectedEndOfHexEscape
  | recursionLimitExceeded
  /-- A well-formed value of the wrong shape, with the reason in words. -/
  | shape (message : String)
  deriving Repr, BEq, Inhabited

namespace ReadFault

/-- The words for a fault. -/
def text : ReadFault → String
  | eofWhileParsingList => "EOF while parsing a list"
  | eofWhileParsingObject => "EOF while parsing an object"
  | eofWhileParsingString => "EOF while parsing a string"
  | eofWhileParsingValue => "EOF while parsing a value"
  | expectedColon => "expected `:`"
  | expectedListCommaOrEnd => "expected `,` or `]`"
  | expectedObjectCommaOrEnd => "expected `,` or `\x7d`"
  | expectedSomeIdent => "expected ident"
  | expectedSomeValue => "expected value"
  | invalidEscape => "invalid escape"
  | invalidNumber => "invalid number"
  | numberOutOfRange => "number out of range"
  | controlCharacterWhileParsingString => "control character (\\u0000-\\u001F) found while parsing a string"
  | keyMustBeAString => "key must be a string"
  | loneLeadingSurrogateInHexEscape => "lone leading surrogate in hex escape"
  | trailingComma => "trailing comma"
  | trailingCharacters => "trailing characters"
  | unexpectedEndOfHexEscape => "unexpected end of hex escape"
  | recursionLimitExceeded => "recursion limit exceeded"
  | shape m => m

/-- Whether the fault is about the shape of a well-formed value rather
than about the text. -/
def isShape : ReadFault → Bool
  | shape _ => true
  | _ => false

end ReadFault

/-- A fault and where it was seen. -/
structure ReadError where
  fault : ReadFault
  line : Nat
  column : Nat
  deriving Repr, BEq, Inhabited

/-- The fault followed by its position. -/
def ReadError.message (e : ReadError) : String :=
  e.fault.text ++ " at line " ++ toString e.line ++ " column " ++ toString e.column

/-- The unread rest of a text and the position of its first character. -/
structure Cursor where
  rest : List Char
  line : Nat
  column : Nat
  deriving Repr, Inhabited

namespace Cursor

/-- A cursor at the start of a text. -/
def start (s : String) : Cursor := ⟨s.toList, 1, 0⟩

/-- The next character, if any. -/
def peek? (c : Cursor) : Option Char := c.rest.head?

/-- The cursor past one character. -/
def advance (c : Cursor) : Cursor :=
  match c.rest with
  | [] => c
  | ch :: rest => if ch = '\n' then ⟨rest, c.line + 1, 0⟩ else ⟨rest, c.line, c.column + ch.utf8Size⟩

/-- A fault at the current position. -/
def fail (c : Cursor) (f : ReadFault) : ReadError := ⟨f, c.line, c.column⟩

/-- A fault one byte past the current position, where the character that
shows it is; at the end of the text, the end itself. -/
def failAhead (c : Cursor) (f : ReadFault) : ReadError :=
  match c.rest with
  | [] => ⟨f, c.line, c.column⟩
  | '\n' :: _ => ⟨f, c.line + 1, 0⟩
  | _ :: _ => ⟨f, c.line, c.column + 1⟩

/-- Whether a character is a blank between tokens. -/
def isBlank (ch : Char) : Bool := ch = ' ' || ch = '\n' || ch = '\t' || ch = '\r'

/-- Skips blanks from a list, tracking the position. -/
def skipBlankFrom : List Char → Nat → Nat → Cursor
  | ch :: rest, line, column =>
    if ch = '\n' then skipBlankFrom rest (line + 1) 0
    else if isBlank ch then skipBlankFrom rest line (column + 1)
    else ⟨ch :: rest, line, column⟩
  | [], line, column => ⟨[], line, column⟩

/-- The cursor past the blanks at its position. -/
def skipBlank (c : Cursor) : Cursor := skipBlankFrom c.rest c.line c.column

/-- The line and column `n` bytes past a position, over the characters
`rest`; a character cut by the end of the bytes counts only its bytes
before the end. -/
def bytePosition : List Char → Nat → Nat → Nat → Nat × Nat
  | [], _, line, column => (line, column)
  | ch :: rest, n, line, column =>
    if n = 0 then (line, column)
    else if ch = '\n' then bytePosition rest (n - 1) (line + 1) 0
    else if ch.utf8Size ≤ n then bytePosition rest (n - ch.utf8Size) line (column + ch.utf8Size)
    else (line, column + n)

/-- A fault `n` bytes past the cursor. -/
def failBytesAhead (c : Cursor) (n : Nat) (f : ReadFault) : ReadError :=
  let (line, column) := bytePosition c.rest n c.line c.column
  ⟨f, line, column⟩

/-- Skips the ASCII digits at the cursor. -/
def skipDigitsFrom : List Char → Nat → Nat → Cursor
  | ch :: rest, line, column =>
    if ch.isDigit then skipDigitsFrom rest line (column + 1) else ⟨ch :: rest, line, column⟩
  | [], line, column => ⟨[], line, column⟩

/-- The cursor past the digits at its position. -/
def skipDigits (c : Cursor) : Cursor := skipDigitsFrom c.rest c.line c.column

end Cursor

/-- A reading step: a value and the cursor after it, or a fault. -/
abbrev Reading (α : Type) := Except ReadError (α × Cursor)

/-! ## Numbers -/

namespace NumberReading

/-- The value of an ASCII digit. -/
def digitValue (ch : Char) : Nat := ch.toNat - 48

/-- `2 ^ 64`, the first integer that no unsigned 64-bit word holds. -/
def wordLimit : Nat := Nat.pow 2 64

/-- The floats nearest to `10 ^ 0` up to `10 ^ 308`. -/
def powersOfTen : Array Float := (List.range 309).toArray.map (Float.ofScientific 1 false)

/-- The nearest float to `10 ^ k` for `k ≤ 308`. -/
def powerOfTen (k : Nat) : Float := powersOfTen.getD k 1.0

/-- Clamps an exponent into the signed 32-bit range. -/
def saturate32 (e : Int) : Int := max (-(Nat.pow 2 31 : Nat)) (min (Nat.pow 2 31 - 1 : Nat) e)

/-- The float of a decimal significand and exponent: the nearest float to
the significand, scaled by one power of ten, in steps of `10 ^ 308` below
`-308`.  `none` when the value is too large for a float.  Eight steps
reach every exponent of the signed 32-bit range that leaves a nonzero float. -/
def scale (significand : Nat) (exponent : Int) : Option Float :=
  go (Float.ofNat significand) exponent 8
where
  /-- One scaling step. -/
  go (f : Float) (e : Int) : Nat → Option Float
    | 0 => some f
    | fuel + 1 =>
      if e.natAbs ≤ 308 then
        if 0 ≤ e then
          let g := f * powerOfTen e.toNat
          if g.isInf then none else some g
        else some (f / powerOfTen e.natAbs)
      else if f == 0.0 then some f
      else if 0 ≤ e then none
      else go (f / powerOfTen 308) (e + 308) fuel

/-- A float number from its sign, significand and exponent; out of range
is a fault at `here`. -/
def finish (positive : Bool) (significand : Nat) (exponent : Int) (here : Cursor) :
    Reading JsonNumber :=
  match scale significand exponent with
  | some f => .ok (.float (if positive then f else -f), here)
  | none => .error (here.fail .numberOutOfRange)

/-- Reads the exponent after `e` or `E`, with the cursor on that letter. -/
def exponentPart (positive : Bool) (significand : Nat) (startExponent : Int) (c : Cursor) :
    Reading JsonNumber :=
  let c := c.advance
  let (positiveExp, c) := match c.peek? with
    | some '+' => (true, c.advance)
    | some '-' => (false, c.advance)
    | _ => (true, c)
  match c.peek? with
  | none => .error (c.fail .eofWhileParsingValue)
  | some ch =>
    if !ch.isDigit then .error (c.failAhead .invalidNumber)
    else
      let rec digits (exp : Nat) (c : Cursor) (fuel : Nat) : Reading JsonNumber :=
        match fuel with
        | 0 => .error (c.fail .invalidNumber)
        | fuel + 1 =>
          match c.peek? with
          | some d =>
            if d.isDigit then
              let c := c.advance
              let next := exp * 10 + digitValue d
              if Nat.pow 2 31 - 1 < next then
                -- the exponent does not fit 32 bits
                if significand ≠ 0 ∧ positiveExp then .error (c.fail .numberOutOfRange)
                else .ok (.float (if positive then 0.0 else -0.0), c.skipDigits)
              else digits next c fuel
            else
              let e := if positiveExp then saturate32 (startExponent + exp)
                else saturate32 (startExponent - exp)
              finish positive significand e c
          | none =>
            let e := if positiveExp then saturate32 (startExponent + exp)
              else saturate32 (startExponent - exp)
            finish positive significand e c
      digits (digitValue ch) c.advance (c.rest.length + 1)

/-- After the significand stopped growing: skips further digits, then reads
an exponent if one follows. -/
def afterOverflow (positive : Bool) (significand : Nat) (exponent : Int) (c : Cursor) :
    Reading JsonNumber :=
  let c := c.skipDigits
  match c.peek? with
  | some 'e' | some 'E' => exponentPart positive significand exponent c
  | _ => finish positive significand exponent c

/-- Reads the fraction after `.`, with the cursor on the point. -/
def fractionPart (positive : Bool) (significand : Nat) (startExponent : Int) (c : Cursor) :
    Reading JsonNumber :=
  let rec digits (s : Nat) (count : Nat) (c : Cursor) (fuel : Nat) : Reading JsonNumber :=
    match fuel with
    | 0 => .error (c.fail .invalidNumber)
    | fuel + 1 =>
      match c.peek? with
      | some d =>
        if d.isDigit then
          if wordLimit ≤ s * 10 + digitValue d then
            afterOverflow positive s (startExponent - count) c
          else digits (s * 10 + digitValue d) (count + 1) c.advance fuel
        else if count = 0 then .error (c.failAhead .invalidNumber)
        else if d = 'e' ∨ d = 'E' then exponentPart positive s (startExponent - count) c
        else finish positive s (startExponent - count) c
      | none =>
        if count = 0 then .error (c.failAhead .eofWhileParsingValue)
        else finish positive s (startExponent - count) c
  digits significand 0 c.advance (c.rest.length + 1)

/-- An integer too long for 64 bits: the later digits raise the exponent. -/
def longInteger (positive : Bool) (significand : Nat) (c : Cursor) : Reading JsonNumber :=
  let rec more (exponent : Nat) (c : Cursor) (fuel : Nat) : Reading JsonNumber :=
    match fuel with
    | 0 => .error (c.fail .invalidNumber)
    | fuel + 1 =>
      match c.peek? with
      | some d =>
        if d.isDigit then more (exponent + 1) c.advance fuel
        else if d = '.' then fractionPart positive significand exponent c
        else if d = 'e' ∨ d = 'E' then exponentPart positive significand exponent c
        else finish positive significand exponent c
      | none => finish positive significand exponent c
  more 0 c (c.rest.length + 1)

/-- The number after its integer digits: a fraction, an exponent, or an
integer of the kind that holds it. -/
def afterInteger (positive : Bool) (significand : Nat) (c : Cursor) : Reading JsonNumber :=
  match c.peek? with
  | some '.' => fractionPart positive significand 0 c
  | some 'e' | some 'E' => exponentPart positive significand 0 c
  | _ =>
    if positive then .ok (.natural significand, c)
    else if significand = 0 ∨ Nat.pow 2 63 < significand then
      .ok (.float (-(Float.ofNat significand)), c)
    else .ok (.negative (-(significand : Int)), c)

/-- Reads a number's digits after its optional minus sign. -/
def unsignedPart (positive : Bool) (c : Cursor) : Reading JsonNumber :=
  match c.peek? with
  | none => .error (c.fail .eofWhileParsingValue)
  | some '0' =>
    let c := c.advance
    match c.peek? with
    | some d => if d.isDigit then .error (c.failAhead .invalidNumber) else afterInteger positive 0 c
    | none => afterInteger positive 0 c
  | some ch =>
    if ch.isDigit then
      let rec digits (s : Nat) (c : Cursor) (fuel : Nat) : Reading JsonNumber :=
        match fuel with
        | 0 => .error (c.fail .invalidNumber)
        | fuel + 1 =>
          match c.peek? with
          | some d =>
            if d.isDigit then
              if wordLimit ≤ s * 10 + digitValue d then longInteger positive s c
              else digits (s * 10 + digitValue d) c.advance fuel
            else afterInteger positive s c
          | none => afterInteger positive s c
      digits (digitValue ch) c.advance (c.rest.length + 1)
    else .error (c.failAhead .invalidNumber)

end NumberReading

/-- Reads a number at the cursor: an optional minus sign, then digits. -/
def Cursor.readNumber (c : Cursor) : Reading JsonNumber :=
  match c.peek? with
  | some '-' => NumberReading.unsignedPart false c.advance
  | _ => NumberReading.unsignedPart true c

/-! ## Strings -/

namespace StringReading

/-- The value of a hex digit. -/
def hexValue? (ch : Char) : Option Nat :=
  if '0' ≤ ch ∧ ch ≤ '9' then some (ch.toNat - 48)
  else if 'a' ≤ ch ∧ ch ≤ 'f' then some (ch.toNat - 87)
  else if 'A' ≤ ch ∧ ch ≤ 'F' then some (ch.toNat - 55)
  else none

/-- Reads the four hex digits of a `\u` escape.  The next four bytes are
taken as the digits: fewer than four bytes left is an unfinished string, and
four bytes that are not all hex digits a bad escape placed after them. -/
def hexQuad (c : Cursor) : Reading Nat :=
  let bad : Reading Nat :=
    if 4 ≤ (c.rest.map Char.utf8Size).foldl (· + ·) 0 then .error (c.failBytesAhead 4 .invalidEscape)
    else .error (c.failBytesAhead 4 .eofWhileParsingString)
  match c.rest with
  | a :: b :: d :: e :: _ =>
    match hexValue? a, hexValue? b, hexValue? d, hexValue? e with
    | some w, some x, some y, some z => .ok (((w * 16 + x) * 16 + y) * 16 + z, c.advance.advance.advance.advance)
    | _, _, _, _ => bad
  | _ => bad

/-- Reads the rest of a `\u` escape whose first four digits gave `n`: a
leading surrogate must be followed by an escaped trailing one. -/
def unicodeEscape (n : Nat) (c : Cursor) : Reading Char :=
  if 0xDC00 ≤ n ∧ n ≤ 0xDFFF then .error (c.fail .loneLeadingSurrogateInHexEscape)
  else if n < 0xD800 ∨ 0xDBFF < n then .ok (Char.ofNat n, c)
  else
    match c.peek? with
    | none => .error (c.fail .eofWhileParsingString)
    | some '\\' =>
      let c := c.advance
      match c.peek? with
      | none => .error (c.fail .eofWhileParsingString)
      | some 'u' =>
        match hexQuad c.advance with
        | .error e => .error e
        | .ok (m, c) =>
          if m < 0xDC00 ∨ 0xDFFF < m then .error (c.fail .loneLeadingSurrogateInHexEscape)
          else .ok (Char.ofNat (((n - 0xD800) * 1024 + (m - 0xDC00)) + 0x10000), c)
      | some _ => .error (c.failAhead .unexpectedEndOfHexEscape)
    | some _ => .error (c.failAhead .unexpectedEndOfHexEscape)

/-- Reads one escape after its backslash. -/
def escape (c : Cursor) : Reading Char :=
  match c.peek? with
  | none => .error (c.fail .eofWhileParsingString)
  | some ch =>
    let next := c.advance
    match ch with
    | '"' => .ok ('"', next)
    | '\\' => .ok ('\\', next)
    | '/' => .ok ('/', next)
    | 'b' => .ok ('\x08', next)
    | 'f' => .ok ('\x0c', next)
    | 'n' => .ok ('\n', next)
    | 'r' => .ok ('\r', next)
    | 't' => .ok ('\t', next)
    | 'u' =>
      match hexQuad next with
      | .error e => .error e
      | .ok (n, c) => unicodeEscape n c
    | _ => .error (c.failAhead .invalidEscape)

/-- Reads string characters up to the closing quote. -/
def body (acc : List Char) (c : Cursor) : Nat → Reading String
  | 0 => .error (c.fail .eofWhileParsingString)
  | fuel + 1 =>
    match c.peek? with
    | none => .error (c.fail .eofWhileParsingString)
    | some '"' => .ok (String.ofList acc.reverse, c.advance)
    | some '\\' =>
      match escape c.advance with
      | .error e => .error e
      | .ok (ch, c) => body (ch :: acc) c fuel
    | some ch =>
      if ch.toNat < 0x20 then .error (c.failAhead .controlCharacterWhileParsingString)
      else body (ch :: acc) c.advance fuel

end StringReading

/-- Reads a string whose opening quote the cursor has passed. -/
def Cursor.readStringBody (c : Cursor) : Reading String :=
  StringReading.body [] c (c.rest.length + 1)

/-- Reads the letters of a keyword after its first letter. -/
def Cursor.readKeyword (c : Cursor) (rest : List Char) : Except ReadError Cursor :=
  match rest with
  | [] => .ok c
  | ch :: more =>
    match c.peek? with
    | none => .error (c.fail .eofWhileParsingValue)
    | some d => if d = ch then c.advance.readKeyword more else .error (c.failAhead .expectedSomeIdent)

/-- A shape fault at the cursor. -/
def Cursor.mismatch (c : Cursor) (message : String) : ReadError := c.fail (.shape message)

/-- The fault for a value of the wrong kind at the cursor: the value is read
first, and a fault in reading it wins; the mismatch is then placed after it.
An array or object is not read, and the mismatch is placed at its bracket. -/
def Cursor.wrongKind (c : Cursor) (expected : String) : ReadError :=
  let after (found : String) (d : Cursor) : ReadError :=
    d.mismatch ((DecodeError.invalidType found expected).message)
  match c.peek? with
  | some 'n' =>
    match c.advance.readKeyword ['u', 'l', 'l'] with
    | .ok d => after "null" d
    | .error e => e
  | some 't' =>
    match c.advance.readKeyword ['r', 'u', 'e'] with
    | .ok d => after "boolean `true`" d
    | .error e => e
  | some 'f' =>
    match c.advance.readKeyword ['a', 'l', 's', 'e'] with
    | .ok d => after "boolean `false`" d
    | .error e => e
  | some '"' =>
    match c.advance.readStringBody with
    | .ok (s, d) => after ("string " ++ s.diagnosticQuote) d
    | .error e => e
  | some '[' => after "sequence" c
  | some '{' => after "map" c
  | some ch =>
    if ch = '-' ∨ ch.isDigit then
      match c.readNumber with
      | .ok (n, d) => after n.found d
      | .error e => e
    else c.failAhead .expectedSomeValue
  | none => c.failAhead .expectedSomeValue

/-- Refuses anything but blanks after a value. -/
def Cursor.expectEnd (c : Cursor) : Except ReadError Unit :=
  let c := c.skipBlank
  match c.peek? with
  | none => .ok ()
  | some _ => .error (c.failAhead .trailingCharacters)

/-! ## Values -/

namespace ValueReading

/-- How many arrays and objects may be open at once, plus one. -/
def depthLimit : Nat := 128

/-- The key that marks an object standing for a JSON text: when it is the
object's first key, the object is read as the value that its string holds. -/
def embeddedTextKey : String := "$serde_json::private::RawValue"

mutual

/-- Reads a value at the cursor, blanks first; `depth` counts how many more
arrays and objects may be opened. -/
def value (depth : Nat) (c : Cursor) : Nat → Reading Json
  | 0 => .error (c.fail .recursionLimitExceeded)
  | fuel + 1 =>
    let c := c.skipBlank
    match c.peek? with
    | none => .error (c.failAhead .eofWhileParsingValue)
    | some 'n' => (c.advance.readKeyword ['u', 'l', 'l']).map (Json.null, ·)
    | some 't' => (c.advance.readKeyword ['r', 'u', 'e']).map (Json.bool true, ·)
    | some 'f' => (c.advance.readKeyword ['a', 'l', 's', 'e']).map (Json.bool false, ·)
    | some '"' => c.advance.readStringBody.map fun (s, c) => (Json.string s, c)
    | some '[' =>
      if depth ≤ 1 then .error (c.failAhead .recursionLimitExceeded)
      else
        match items (depth - 1) [] true c.advance fuel with
        | .error e => .error e
        | .ok (xs, c) => .ok (Json.array xs, c)
    | some '{' =>
      if depth ≤ 1 then .error (c.failAhead .recursionLimitExceeded)
      else
        entries (depth - 1) [] true c.advance fuel
    | some ch =>
      if ch = '-' ∨ ch.isDigit then c.readNumber.map fun (n, c) => (Json.number n, c)
      else .error (c.failAhead .expectedSomeValue)

/-- Reads the items of an array up to and including `]`. -/
def items (depth : Nat) (acc : List Json) (first : Bool) (c : Cursor) : Nat → Reading (List Json)
  | 0 => .error (c.fail .recursionLimitExceeded)
  | fuel + 1 =>
    let c := c.skipBlank
    match c.peek? with
    | none => .error (c.failAhead .eofWhileParsingList)
    | some ']' => .ok (acc.reverse, c.advance)
    | some ch =>
      let start : Except ReadError Cursor :=
        if ch = ',' ∧ !first then .ok c.advance.skipBlank
        else if first then .ok c
        else .error (c.failAhead .expectedListCommaOrEnd)
      match start with
      | .error e => .error e
      | .ok c =>
        match c.peek? with
        | some ']' => .error (c.failAhead .trailingComma)
        | none => .error (c.failAhead .eofWhileParsingValue)
        | some _ =>
          match value depth c fuel with
          | .error e => .error e
          | .ok (v, c) => items depth (v :: acc) false c fuel

/-- Reads the entries of an object up to and including `}`, giving the
object; an object whose first key is `embeddedTextKey` gives the value of
its embedded text instead (`embedded`). -/
def entries (depth : Nat) (acc : Json.Fields) (first : Bool) (c : Cursor) : Nat → Reading Json
  | 0 => .error (c.fail .recursionLimitExceeded)
  | fuel + 1 =>
    let c := c.skipBlank
    match c.peek? with
    | none => .error (c.failAhead .eofWhileParsingObject)
    | some '}' => .ok (Json.object acc, c.advance)
    | some ch =>
      let start : Except ReadError Cursor :=
        if ch = ',' ∧ !first then .ok c.advance.skipBlank
        else if first then .ok c
        else .error (c.failAhead .expectedObjectCommaOrEnd)
      match start with
      | .error e => .error e
      | .ok c =>
        match c.peek? with
        | some '"' =>
          match c.advance.readStringBody with
          | .error e => .error e
          | .ok (key, c) =>
            let c := c.skipBlank
            match c.peek? with
            | some ':' =>
              if first && key == embeddedTextKey then embedded c.advance fuel
              else
                match value depth c.advance fuel with
                | .error e => .error e
                | .ok (v, c) => entries depth (acc.put key v) false c fuel
            | some _ => .error (c.failAhead .expectedColon)
            | none => .error (c.failAhead .eofWhileParsingObject)
        | some '}' => .error (c.failAhead .trailingComma)
        | some _ => .error (c.failAhead .keyMustBeAString)
        | none => .error (c.failAhead .eofWhileParsingValue)

/-- Reads the value of an object's embedded text, with the cursor after the
colon of its first key, up to and including the object's `}`.  The value
must be a string; the string is read as a whole JSON document of its own,
with a fresh limit on nesting, whose faults keep their own positions; and
the object must close right after it. -/
def embedded (c : Cursor) : Nat → Reading Json
  | 0 => .error (c.fail .recursionLimitExceeded)
  | fuel + 1 =>
    let c := c.skipBlank
    match c.peek? with
    | none => .error (c.failAhead .eofWhileParsingValue)
    | some '"' =>
      match c.advance.readStringBody with
      | .error e => .error e
      | .ok (text, after) =>
        match value depthLimit (Cursor.start text) fuel with
        | .error e => .error e
        | .ok (v, inner) =>
          match inner.expectEnd with
          | .error e => .error e
          | .ok () =>
            let d := after.skipBlank
            match d.peek? with
            | some '}' => .ok (v, d.advance)
            | some ',' => .error (d.failAhead .trailingComma)
            | some _ => .error (d.failAhead .trailingCharacters)
            | none => .error (d.failAhead .eofWhileParsingObject)
    | some _ => .error (c.wrongKind "raw value")

end

end ValueReading

/-- Reads one value at the cursor; the cursor after it may have more text. -/
def Cursor.readValue (c : Cursor) : Reading Json :=
  ValueReading.value ValueReading.depthLimit c (2 * c.rest.length + 2)

/-- Reads a whole JSON document. -/
def Json.read (s : String) : Except ReadError Json :=
  match (Cursor.start s).readValue with
  | .error e => .error e
  | .ok (v, c) =>
    match c.expectEnd with
    | .error e => .error e
    | .ok () => .ok v

end CareerInsight
