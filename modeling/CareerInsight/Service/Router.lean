import CareerInsight.Service.Handler
import CareerInsight.Service.Target
import CareerInsight.Text.Header
import CareerInsight.Json.Print

/-!
# Routing requests

The service answers three routes:

* `GET /health`: the service's name, status and version;
* `GET /api/v1/insights`: the summary of every domain;
* `POST /api/v1/insights/<domain>`: an insight, from a JSON body.

A `HEAD` request to a `GET` route gets the headers of the `GET` answer and
no body.  Another method on a known path is refused with 405, an unknown
path with 404, both with no body.  Only the path of the target is read
(`RequestTarget.path`); a path matches only as written, so a trailing slash
is another path.

The insight route checks its request in this order: the domain segment,
percent-decoded, must be UTF-8; the `Content-Type` must be JSON
(`application/json` or `application/<name>+json`, parameters allowed); the
body must be JSON text (400) of the request's shape (422).  Only then does
`handleGenerate` see the request.  These refusals are plain text.
-/

namespace CareerInsight

/-- A request as it reaches the router. -/
structure HttpRequest where
  /-- The method, as sent. -/
  method : String
  /-- The request target, as `RequestTarget.parse` reads it. -/
  target : String
  /-- The headers in the order they were added. -/
  headers : List (String × String)
  /-- The body text. -/
  body : String

/-- The body of a response. -/
inductive ResponseBody where
  | empty
  | json (value : Json)
  | text (s : String)
  deriving Repr

/-- A response: status, content type if any, and body. -/
structure HttpResponse where
  status : Nat
  contentType : Option String
  body : ResponseBody
  deriving Repr

namespace HttpResponse

/-- A JSON response. -/
def ofJson (status : Nat) (value : Json) : HttpResponse := ⟨status, some "application/json", .json value⟩

/-- A plain-text response. -/
def plain (status : Nat) (s : String) : HttpResponse := ⟨status, some "text/plain; charset=utf-8", .text s⟩

/-- A response with no body and no content type. -/
def bare (status : Nat) : HttpResponse := ⟨status, none, .empty⟩

/-- The same response without its body, as a `HEAD` request gets it. -/
def headOnly (r : HttpResponse) : HttpResponse := { r with body := .empty }

/-- The response for a failed request. -/
def ofError (e : AppError) : HttpResponse := ofJson e.status e.body

end HttpResponse

/-! ## Well-formed requests -/

namespace HttpText

/-- The bytes of `%XX`-escaped text; a `%` without two hex digits stays. -/
def unescapeBytes : List Char → List UInt8
  | [] => []
  | '%' :: a :: b :: rest =>
    match StringReading.hexValue? a, StringReading.hexValue? b with
    | some x, some y => (x * 16 + y).toUInt8 :: unescapeBytes rest
    | _, _ => 37 :: unescapeBytes (a :: b :: rest)
  | c :: rest => (String.singleton c).toUTF8.toList ++ unescapeBytes rest
termination_by cs => cs.length

/-- Percent-decoded text, if its bytes are UTF-8. -/
def percentDecode? (s : String) : Option String :=
  String.fromUTF8? ⟨(unescapeBytes s.toList).toArray⟩

end HttpText

/-- Why a request could not be formed at all, if it could not: its method,
then its target, then its headers in order. -/
def HttpRequest.fault? (r : HttpRequest) : Option String :=
  if r.method.isEmpty || !r.method.toList.all HttpText.isTokenChar then some "invalid HTTP method"
  else if let .error e := RequestTarget.parse r.target then some e.message
  else (HttpText.headerFault? r.headers).map HttpText.HeaderFault.message

/-! ## Media types -/

namespace MediaType

/-- Where the reader of media-type parameters is. -/
inductive ParamState where
  /-- Where a parameter name may start; a blank may come first. -/
  | nameStart
  /-- Inside a name. -/
  | inName
  /-- Right after `=`. -/
  | valueStart
  /-- Inside a token value. -/
  | inValue
  /-- Right after the opening quote of a value. -/
  | quotedStart
  /-- Inside a quoted value with at least one character. -/
  | inQuoted
  /-- After the closing quote: blanks, then `;` or the end. -/
  | afterQuoted

/-- Whether a character may appear inside a quoted value. -/
def isQuotable (c : Char) : Bool := 31 < c.toNat && c.toNat ≠ 127

/-- Whether the rest of a media type is well-formed parameters: each a
token name, `=`, and a token or quoted value, separated by `;`.  A quote
right after the opening one is part of the value, since a quoted value is
not empty. -/
def paramsOk : ParamState → List Char → Bool
  | .nameStart, [] => true
  | .nameStart, c :: rest => if c = ' ' then paramsOk .nameStart rest else HttpText.isTokenChar c && paramsOk .inName rest
  | .inName, [] => false
  | .inName, c :: rest => if c = '=' then paramsOk .valueStart rest else HttpText.isTokenChar c && paramsOk .inName rest
  | .valueStart, [] => true
  | .valueStart, c :: rest => if c = '"' then paramsOk .quotedStart rest else HttpText.isTokenChar c && paramsOk .inValue rest
  | .inValue, [] => true
  | .inValue, c :: rest => if c = ';' then paramsOk .nameStart rest else HttpText.isTokenChar c && paramsOk .inValue rest
  | .quotedStart, [] => false
  | .quotedStart, c :: rest => isQuotable c && paramsOk .inQuoted rest
  | .inQuoted, [] => false
  | .inQuoted, c :: rest => if c = '"' then paramsOk .afterQuoted rest else isQuotable c && paramsOk .inQuoted rest
  | .afterQuoted, [] => true
  | .afterQuoted, c :: rest =>
    if c = ' ' then paramsOk .afterQuoted rest else if c = ';' then paramsOk .nameStart rest else false

/-- The type, subtype and suffix of a media type, lowercased. -/
structure Essence where
  type : String
  subtype : String
  suffix : Option String

/-- Splits a subtype at its last `+` that is not its first character. -/
def splitSuffix (sub : List Char) : List Char × Option (List Char) :=
  match (List.range sub.length).reverse.find? (fun i => 0 < i && sub[i]? = some '+') with
  | some i => (sub.take i, some (sub.drop (i + 1)))
  | none => (sub, none)

/-- Lowercases ASCII letters. -/
def lower (cs : List Char) : String := String.ofList (cs.map Char.toLower)

/-- Reads a media type `type/subtype` with optional parameters; none for a
malformed one.  Type and subtype are tokens; no blank may stand around the
slash or before the first `;`. -/
def essence? (s : String) : Option Essence :=
  let cs := s.toList
  let ty := cs.takeWhile HttpText.isTokenChar
  match cs.drop ty.length with
  | '/' :: rest =>
    let sub := rest.takeWhile HttpText.isTokenChar
    let ok := match rest.drop sub.length with
      | [] => true
      | ';' :: ps => !sub.isEmpty && paramsOk .nameStart ps
      | _ => false
    if ty.isEmpty || !ok then none
    else
      let (main, suffix) := splitSuffix sub
      some ⟨lower ty, lower main, suffix.map lower⟩
  | _ => none

/-- Whether a content type names JSON: `application/json`, or an
`application` subtype with the suffix `+json`. -/
def isJson (contentType : String) : Bool :=
  contentType.toList.all HttpText.isVisibleAscii &&
  match essence? contentType with
  | some e => e.type == "application" && (e.subtype == "json" || e.suffix == some "json")
  | none => false

end MediaType

/-! ## Routes -/

/-- The answer of the health route. -/
def healthJson : Json :=
  Json.objectOf [("service", .string "insight-api"), ("status", .string "ok"), ("version", .string "0.1.0")]

/-- The text of the refusal of a body that is not JSON. -/
def unsupportedMediaText : String := "Expected request with `Content-Type: application/json`"

/-- The refusal of a body that could not be read as a request. -/
def bodyRefusal (e : BodyError) : HttpResponse :=
  if e.isSyntax then .plain 400 ("Failed to parse the request body as JSON: " ++ e.message)
  else .plain 422 ("Failed to deserialize the JSON body into the target type: " ++ e.message)

/-- The first value of a header, its name compared without case. -/
def HttpRequest.header? (r : HttpRequest) (name : String) : Option String :=
  (r.headers.find? (fun (n, _) => n.toLower == name)).map (·.2)

/-- The insight route for a domain segment as it stands in the path. -/
def insightRoute (r : HttpRequest) (segment : String) (settings : PipelineSettings)
    (gateway : CompletionRequest → GatewayOutcome) : HttpResponse :=
  match HttpText.percentDecode? segment with
  | none => .plain 400 "Invalid URL: Invalid UTF-8 in `domain`"
  | some domain =>
    if !((r.header? "content-type").map MediaType.isJson).getD false then .plain 415 unsupportedMediaText
    else
      match InsightRequest.readBody r.body with
      | .error e => bodyRefusal e
      | .ok req =>
        match handleGenerate domain req settings gateway with
        | .ok insight => .ofJson 200 insight.toJson
        | .error e => .ofError e

/-- A `GET` route: `HEAD` gets its headers, other methods are refused. -/
def getRoute (method : String) (answer : HttpResponse) : HttpResponse :=
  if method = "GET" then answer
  else if method = "HEAD" then answer.headOnly
  else .bare 405

/-- The prefix of the insight routes. -/
def insightsPath : String := "/api/v1/insights"

/-- The domain segment of an insight path: the one non-empty segment after
the prefix. -/
def insightSegment? (path : String) : Option String :=
  match afterPrefix? (insightsPath ++ "/").toList path.toList with
  | some segment@(_ :: _) => if segment.contains '/' then none else some (String.ofList segment)
  | _ => none

/-- The answer to a request whose path is `path`. -/
def routePath (r : HttpRequest) (path : String) (settings : PipelineSettings)
    (gateway : CompletionRequest → GatewayOutcome) : HttpResponse :=
  if path = "/health" then getRoute r.method (.ofJson 200 healthJson)
  else if path = insightsPath then getRoute r.method (.ofJson 200 listDomains)
  else
    match insightSegment? path with
    | some segment => if r.method = "POST" then insightRoute r segment settings gateway else .bare 405
    | none => .bare 404

/-- The answer to a request, routed by the path of its target; a target
that cannot be read is not found. -/
def route (r : HttpRequest) (settings : PipelineSettings) (gateway : CompletionRequest → GatewayOutcome) :
    HttpResponse :=
  match RequestTarget.parse r.target with
  | .ok target => routePath r target.path settings gateway
  | .error _ => .bare 404

end CareerInsight
