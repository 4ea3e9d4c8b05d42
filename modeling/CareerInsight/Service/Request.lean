import CareerInsight.Json.Skip
import CareerInsight.Json.Expect
import CareerInsight.Text.Uuid
import CareerInsight.Keyed

/-!
# The request body of an insight

An insight request names a profile by UUID and carries the free-text
context about it: `{"profile_id": "<uuid>", "context": {"key": "value"}}`,
or the same two fields as a two-item array.

`InsightRequest.readBody` reads the body text in one pass, checking the
shape as it reads, so the first fault it meets is the one reported; the
checks run in this order:

* Object keys are handled as they come.  `profile_id` and `context` are
  read at once; a second `profile_id` or `context` is a duplicate; any
  other key's value is read and dropped.  Absent fields are reported after
  the closing brace, `profile_id` first.
* In array form the first item is the UUID and the second the context; a
  shorter array is reported after its closing bracket.
* A value of the wrong kind is read in full before the mismatch is
  reported, so a malformed literal is a syntax fault, not a mismatch.
* A repeated key inside `context` keeps its last value.

A `BodyError` carries the path to the value at fault, written before the
message as `context.key` or `[1]`, with `?` for a key not yet known.
Faults of the text itself (`BodyError.isSyntax`) and mismatches of shape
are answered differently by the service.

`InsightRequest.ofJson?` reads the same request from a JSON value that is
already parsed.
-/

namespace CareerInsight

/-- A request for an insight about one profile. -/
structure InsightRequest where
  profileId : Uuid
  context : List (String × String)

/-- One step on the path to a value in a document. -/
inductive PathStep where
  /-- An item of an array, counted from zero. -/
  | index (i : Nat)
  /-- The value of a key in an object. -/
  | key (name : String)
  /-- A key that was not read yet. -/
  | unknown
  deriving Repr, BEq

/-- The text of one step. -/
def PathStep.text : PathStep → String
  | .index i => "[" ++ toString i ++ "]"
  | .key name => name
  | .unknown => "?"

/-- The path as written before a message: steps joined by `.`, with an
index as `[i]` and no dot before it. -/
def PathStep.render : List PathStep → String
  | [] => ""
  | [s] => s.text
  | s :: (PathStep.index i) :: rest => s.text ++ PathStep.render (PathStep.index i :: rest)
  | s :: rest => s.text ++ "." ++ PathStep.render rest

/-- A fault in a request body and where in the document it was met. -/
structure BodyError where
  error : ReadError
  path : List PathStep
  deriving Repr

namespace BodyError

/-- Whether the text itself is at fault, rather than the shape of its data. -/
def isSyntax (e : BodyError) : Bool := !e.error.fault.isShape

/-- The path, a colon and the fault; a path of unknown steps only is left out. -/
def message (e : BodyError) : String :=
  if e.path.all (· == .unknown) then e.error.message
  else PathStep.render e.path ++ ": " ++ e.error.message

end BodyError

namespace BodyReading

/-- A read at a path: its faults are placed there. -/
def at_ {α : Type} (path : List PathStep) : Except ReadError α → Except BodyError α
  | .ok a => .ok a
  | .error e => .error ⟨e, path⟩

/-- A string, blanks first. -/
def text (c : Cursor) : Reading String :=
  let c := c.skipBlank
  match c.peek? with
  | none => .error (c.failAhead .eofWhileParsingValue)
  | some '"' => c.advance.readStringBody
  | some _ => .error (c.wrongKind "a string")

/-- A UUID string, blanks first; a string that is no UUID is a mismatch
placed after its closing quote. -/
def uuid (c : Cursor) : Reading Uuid :=
  let c := c.skipBlank
  match c.peek? with
  | none => .error (c.failAhead .eofWhileParsingValue)
  | some '"' =>
    match c.advance.readStringBody with
    | .error e => .error e
    | .ok (s, d) =>
      match Uuid.parse s with
      | .ok u => .ok (u, d)
      | .error f => .error (Cursor.mismatch d ("UUID parsing failed: " ++ f.message))
  | some _ => .error (c.wrongKind "a formatted UUID string")

/-- The colon after a key, blanks first.  A fault here belongs to the
object, not to the key: the value the key names is not being read yet. -/
def colon (c : Cursor) : Except ReadError Cursor :=
  let c := c.skipBlank
  match c.peek? with
  | some ':' => .ok c.advance
  | some _ => .error (c.failAhead .expectedColon)
  | none => .error (c.failAhead .eofWhileParsingObject)

/-- What comes where an object's next key may start: the cursor at the key's
opening quote, or none at the closing brace, which is left unread. -/
def nextKey (first : Bool) (c : Cursor) : Except ReadError (Option Cursor) :=
  let c := c.skipBlank
  match c.peek? with
  | none => .error (c.failAhead .eofWhileParsingObject)
  | some '}' => .ok none
  | some ch =>
    let start : Except ReadError Cursor :=
      if ch = ',' ∧ !first then .ok c.advance.skipBlank
      else if first then .ok c
      else .error (c.failAhead .expectedObjectCommaOrEnd)
    match start with
    | .error e => .error e
    | .ok c =>
      match c.peek? with
      | some '"' => .ok (some c)
      | some '}' => .error (c.failAhead .trailingComma)
      | some _ => .error (c.failAhead .keyMustBeAString)
      | none => .error (c.failAhead .eofWhileParsingValue)

/-- A key: the cursor is at its opening quote. -/
def key (path : List PathStep) (c : Cursor) : Except BodyError (String × Cursor) :=
  at_ (path ++ [.unknown]) c.advance.readStringBody

/-- The entries of the context map after its opening brace, up to the
closing brace, which is left unread. -/
def contextEntries (path : List PathStep) (acc : List (String × String)) (first : Bool)
    (c : Cursor) : Nat → Except BodyError (List (String × String) × Cursor)
  | 0 => .error ⟨c.fail .recursionLimitExceeded, path⟩
  | fuel + 1 => do
    match ← at_ (path ++ [.unknown]) (nextKey first c) with
    | none => pure (acc, c.skipBlank)
    | some c =>
      let (k, c) ← key path c
      let c ← at_ path (colon c)
      let (v, c) ← at_ (path ++ [.key k]) (text c)
      contextEntries path (Keyed.put acc k v) false c fuel

/-- The context map, blanks first. -/
def context (path : List PathStep) (c : Cursor) : Except BodyError (List (String × String) × Cursor) :=
  let c := c.skipBlank
  match c.peek? with
  | none => .error ⟨c.failAhead .eofWhileParsingValue, path⟩
  | some '{' => do
    let (entries, c) ← contextEntries path [] true c.advance (c.rest.length + 1)
    pure (entries, c.advance)
  | some _ => .error ⟨c.wrongKind "a map", path⟩

/-- Where a fault met inside the request object is placed: past the blanks
that follow, and past a closing brace there. -/
def closeFrom (c : Cursor) : Cursor :=
  let c := c.skipBlank
  if c.peek? = some '}' then c.advance else c

/-- The two fields read so far. -/
structure Partial where
  profileId : Option Uuid
  context : Option (List (String × String))

/-- The fields of the request object after its opening brace, up to and
including the closing brace. -/
def fields (got : Partial) (first : Bool) (c : Cursor) : Nat → Except BodyError (InsightRequest × Cursor)
  | 0 => .error ⟨c.fail .recursionLimitExceeded, []⟩
  | fuel + 1 => do
    match ← at_ [.unknown] (nextKey first c) with
    | none =>
      let after := closeFrom c
      match got.profileId, got.context with
      | none, _ => .error ⟨Cursor.mismatch after (DecodeError.missingField "profile_id").message, []⟩
      | _, none => .error ⟨Cursor.mismatch after (DecodeError.missingField "context").message, []⟩
      | some p, some ctx => pure (⟨p, ctx⟩, after)
    | some c =>
      let (k, c) ← key [] c
      if k = "profile_id" then
        if got.profileId.isSome then
          .error ⟨Cursor.mismatch (closeFrom c) (DecodeError.duplicateField k).message, []⟩
        else
          let c ← at_ [] (colon c)
          let (u, c) ← at_ [.key k] (uuid c)
          fields { got with profileId := some u } false c fuel
      else if k = "context" then
        if got.context.isSome then
          .error ⟨Cursor.mismatch (closeFrom c) (DecodeError.duplicateField k).message, []⟩
        else
          let c ← at_ [] (colon c)
          let (ctx, c) ← context [.key k] c
          fields { got with context := some ctx } false c fuel
      else
        let c ← at_ [] (colon c)
        let c ← at_ [.key k] c.skipValue
        fields got false c fuel

/-- The end of the request array: only its closing bracket may follow. -/
def closeArray (c : Cursor) : Except ReadError Cursor :=
  let c := c.skipBlank
  match c.peek? with
  | some ']' => .ok c.advance
  | some ',' =>
    let d := c.advance.skipBlank
    if d.peek? = some ']' then .error (d.failAhead .trailingComma)
    else .error (d.failAhead .trailingCharacters)
  | some _ => .error (c.failAhead .trailingCharacters)
  | none => .error (c.failAhead .eofWhileParsingList)

/-- The fault for an array of `n` items, placed after its closing bracket. -/
def tooShort (n : Nat) (c : Cursor) : BodyError :=
  ⟨Cursor.mismatch c.advance (DecodeError.invalidLength n "struct InsightRequest with 2 elements").message, []⟩

/-- The items of the request array after its opening bracket, up to and
including the closing bracket. -/
def items (c : Cursor) : Except BodyError (InsightRequest × Cursor) := do
  let c := c.skipBlank
  match c.peek? with
  | some ']' => .error (tooShort 0 c)
  | none => .error ⟨c.failAhead .eofWhileParsingList, []⟩
  | some _ =>
    let (u, c) ← at_ [.index 0] (uuid c)
    let c := c.skipBlank
    match c.peek? with
    | some ']' => .error (tooShort 1 c)
    | none => .error ⟨c.failAhead .eofWhileParsingList, []⟩
    | some ',' =>
      let c := c.advance.skipBlank
      match c.peek? with
      | some ']' => .error ⟨c.failAhead .trailingComma, []⟩
      | none => .error ⟨c.failAhead .eofWhileParsingValue, []⟩
      | some _ =>
        let (ctx, c) ← context [.index 1] c
        let c ← at_ [] (closeArray c)
        pure (⟨u, ctx⟩, c)
    | some _ => .error ⟨c.failAhead .expectedListCommaOrEnd, []⟩

end BodyReading

namespace InsightRequest

open BodyReading in
/-- Reads a request from the start of a body text; what follows the request
is not looked at. -/
def readBody (body : String) : Except BodyError InsightRequest :=
  let c := (Cursor.start body).skipBlank
  match c.peek? with
  | none => .error ⟨c.failAhead .eofWhileParsingValue, []⟩
  | some '{' => (·.1) <$> fields ⟨none, none⟩ true c.advance (c.rest.length + 1)
  | some '[' => (·.1) <$> items c.advance
  | some _ => .error ⟨c.wrongKind "struct InsightRequest", []⟩

/-- The context map of a JSON value. -/
def contextOfJson? : Json → Option (List (String × String))
  | .object fields => fields.mapM fun (k, v) => (k, ·) <$> v.asString?
  | _ => none

/-- A profile id of a JSON value. -/
def profileOfJson? (v : Json) : Option Uuid := v.asString? >>= fun s => (Uuid.parse s).toOption

/-- Reads a request from a parsed JSON value: an object with both fields
(other keys are ignored) or an array of exactly the two fields. -/
def ofJson? : Json → Option InsightRequest
  | .object fields => do
    let p ← profileOfJson? (← fields.lookup "profile_id")
    let ctx ← contextOfJson? (← fields.lookup "context")
    pure ⟨p, ctx⟩
  | .array [p, ctx] => do pure ⟨← profileOfJson? p, ← contextOfJson? ctx⟩
  | _ => none

end InsightRequest

end CareerInsight
