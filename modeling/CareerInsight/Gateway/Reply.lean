import CareerInsight.Json.Read
import CareerInsight.Json.Expect
import CareerInsight.Text.Blank

/-!
# Model replies

What can go wrong when asking the model (`GatewayError`), and how its
reply becomes a payload.

* `ModelResponse` is the reply envelope: content blocks and token usage.
  Its text is the text of the first block of type `text`; that is nothing
  when the block has no text, even if a later block has one.
* `parseObject` reads the reply text as a JSON object.  A text wrapped in a
  code fence is unwrapped first: after trimming, a leading three backticks
  with an optional `json` tag are removed, then blanks, then a trailing
  three backticks and blanks.  An empty text is `emptyContent`, JSON that is
  not an object `notAnObject`, and a text that is no JSON a parse error
  with its position in the unwrapped text.
-/

namespace CareerInsight

/-- Why a completion failed. -/
inductive GatewayError where
  | http (detail : String)
  | api (status : Nat) (message : String)
  | parse (error : ReadError)
  | rateLimited (retries : Nat)
  | emptyContent
  | notAnObject
  | timeout (afterSecs : Nat)
  deriving Repr

namespace GatewayError

/-- The name of the kind of failure. -/
def kind : GatewayError → String
  | http .. => "Http"
  | api .. => "Api"
  | parse .. => "Parse"
  | rateLimited .. => "RateLimited"
  | emptyContent => "EmptyContent"
  | notAnObject => "NotAnObject"
  | timeout .. => "Timeout"

/-- The words for a failure. -/
def message : GatewayError → String
  | http detail => "HTTP error: " ++ detail
  | api status m => "API error (status " ++ toString status ++ "): " ++ m
  | parse e => "JSON parse error: " ++ e.message
  | rateLimited n => "Rate limited after " ++ toString n ++ " retries"
  | emptyContent => "LLM returned empty content"
  | notAnObject => "LLM returned JSON that is not an object"
  | timeout n => "LLM call timed out after " ++ toString n ++ "s"

end GatewayError

/-- The rest of `cs` after `pre`, if `cs` starts with it. -/
def afterPrefix? (pre cs : List Char) : Option (List Char) :=
  if pre.isPrefixOf cs then some (cs.drop pre.length) else none

/-- The text inside a code fence, or the trimmed text if it has none. -/
def stripFences (text : String) : String :=
  let t := text.toList.trimUnicode
  let fence := "```".toList
  match (afterPrefix? "```json".toList t).orElse fun _ => afterPrefix? fence t with
  | none => String.ofList t
  | some rest =>
    let r := rest.dropWhile Char.isUnicodeSpace
    match afterPrefix? fence.reverse r.reverse with
    | some core => String.ofList core.reverse.trimUnicode
    | none => String.ofList r

/-- The JSON object a reply text holds. -/
def parseObject (text : String) : Except GatewayError Json.Fields :=
  let t := stripFences text
  if t.isEmpty then .error .emptyContent
  else
    match Json.read t with
    | .error e => .error (.parse e)
    | .ok (.object fields) => .ok fields
    | .ok _ => .error .notAnObject

/-- One block of a reply's content. -/
structure ContentBlock where
  kind : String
  text : Option String
  deriving Repr, BEq

/-- The tokens a call used. -/
structure TokenUsage where
  inputTokens : Nat
  outputTokens : Nat
  deriving Repr, BEq

/-- The envelope of a reply. -/
structure ModelResponse where
  content : List ContentBlock
  usage : TokenUsage
  deriving Repr, BEq

/-- The text of the first block of type `text`. -/
def ModelResponse.text? (r : ModelResponse) : Option String :=
  (r.content.find? (·.kind == "text")).bind (·.text)

open Decode in
/-- Reads a content block: `type` a text, `text` a text or `null`. -/
def ContentBlock.decode : Json → Except DecodeError ContentBlock
  | .object fields => do
    let text ← field? fields "text" optionalString
    let kind ← field? fields "type" string >>= required "type"
    return ⟨kind, text.getD none⟩
  | .array items => do
    let expected := "struct ContentBlock with 2 elements"
    let kind ← match items with
      | a :: _ => string a
      | [] => throw (.invalidLength 0 expected)
    let text ← match items with
      | _ :: b :: _ => optionalString b
      | _ => throw (.invalidLength 1 expected)
    noMoreItems items 2
    return ⟨kind, text⟩
  | v => .error (.invalidType v.found "struct ContentBlock")

open Decode in
/-- Reads token usage: two unsigned 32-bit counts. -/
def TokenUsage.decode : Json → Except DecodeError TokenUsage
  | .object fields => do
    let input ← field? fields "input_tokens" word32
    let output ← field? fields "output_tokens" word32
    return ⟨← required "input_tokens" input, ← required "output_tokens" output⟩
  | .array items => do
    let expected := "struct Usage with 2 elements"
    let input ← match items with
      | a :: _ => word32 a
      | [] => throw (.invalidLength 0 expected)
    let output ← match items with
      | _ :: b :: _ => word32 b
      | _ => throw (.invalidLength 1 expected)
    noMoreItems items 2
    return ⟨input, output⟩
  | v => .error (.invalidType v.found "struct Usage")

open Decode in
/-- Reads a reply envelope: `content` a list of blocks, `usage` the token counts. -/
def ModelResponse.decode : Json → Except DecodeError ModelResponse
  | .object fields => do
    let content ← field? fields "content" (list ContentBlock.decode)
    let usage ← field? fields "usage" TokenUsage.decode
    return ⟨← required "content" content, ← required "usage" usage⟩
  | .array items => do
    let expected := "struct LlmResponse with 2 elements"
    let content ← match items with
      | a :: _ => list ContentBlock.decode a
      | [] => throw (.invalidLength 0 expected)
    let usage ← match items with
      | _ :: b :: _ => TokenUsage.decode b
      | _ => throw (.invalidLength 1 expected)
    noMoreItems items 2
    return ⟨content, usage⟩
  | v => .error (.invalidType v.found "struct LlmResponse")

end CareerInsight
