import CareerInsight.Gateway.Reply
import CareerInsight.Text.Header

/-!
# Calling the model service

A call to the model service makes at most three attempts.  Before attempt
`i ≥ 1` it pauses `1000 * 2 ^ (i - 1)` milliseconds, and none before the
first.  An attempt that cannot be sent, or that meets status 429 or a
server error, is tried again; any other answer ends the call: another
failure status as an API error, a success with its reply.  When all three
attempts fail, the call fails with the third attempt's error.

The outcomes of the attempts are an argument, so the loop is a function of
what the service does; `Attempt.withoutTls` is the attempt of a client
whose transport has no TLS and so cannot open the service's `https` URL,
unless its API key or its time limit stops the request first.
-/

namespace CareerInsight

/-- What one attempt to send a request came to. -/
inductive Attempt where
  /-- The request could not be sent. -/
  | sendFailed (detail : String)
  /-- Status 429 or a server error, with the response body. -/
  | retryable (status : Nat) (body : String)
  /-- Another status that is not a success, with the service's message. -/
  | refused (status : Nat) (message : String)
  /-- A success, with the reply, or why the reply could not be read. -/
  | answered (reply : Except String ModelResponse)
  deriving Repr

/-- The service's messages endpoint. -/
def messagesUrl : String := "https://api.anthropic.com/v1/messages"

/-- The settings of a client that shape each of its attempts. -/
structure ClientSettings where
  /-- The key sent in the `x-api-key` header of every request. -/
  apiKey : String
  /-- The limit on one whole request, in seconds. -/
  timeoutSecs : Nat
  deriving Repr

/-- The attempt of a transport without TLS: the `https` URL is refused
before any connection is made. -/
def Attempt.refusedWithoutTls : Attempt :=
  .sendFailed ("error sending request for url (" ++ messagesUrl ++
    "): error trying to connect: invalid URL, scheme is not http")

/-- The attempt of a client without TLS with settings `s`.  A key that
cannot be a header value fails the building of the request, before the
time limit starts; a limit of zero seconds has run out before the
connection is tried; otherwise the `https` URL is refused. -/
def Attempt.withoutTls (s : ClientSettings) : Attempt :=
  if !HttpText.isHeaderValue s.apiKey then .sendFailed "builder error: failed to parse header value"
  else if s.timeoutSecs = 0 then
    .sendFailed ("error sending request for url (" ++ messagesUrl ++ "): operation timed out")
  else refusedWithoutTls

/-- The most attempts one call makes. -/
def maxAttempts : Nat := 3

/-- The pause in milliseconds before attempt `i`, counted from zero. -/
def backoffMillis (i : Nat) : Nat := if i = 0 then 0 else 1000 * Nat.pow 2 (i - 1)

/-- The pauses a call made and how it ended. -/
structure CallTrace where
  pauses : List Nat
  result : Except GatewayError ModelResponse
  deriving Repr

/-- The attempts from `i` on, `left` of them at most, after the error of the
last failed attempt. -/
def callFrom (attempt : Nat → Attempt) (i : Nat) (last : Option GatewayError) :
    Nat → CallTrace
  | 0 => ⟨[], .error (last.getD (.rateLimited maxAttempts))⟩
  | left + 1 =>
    let pause := if i = 0 then [] else [backoffMillis i]
    let rest (e : GatewayError) : CallTrace :=
      let t := callFrom attempt (i + 1) (some e) left
      ⟨pause ++ t.pauses, t.result⟩
    match attempt i with
    | .sendFailed detail => rest (.http detail)
    | .retryable status body => rest (.api status body)
    | .refused status message => ⟨pause, .error (.api status message)⟩
    | .answered (.ok r) => ⟨pause, .ok r⟩
    | .answered (.error detail) => ⟨pause, .error (.http detail)⟩

/-- One call: attempt `i` comes to `attempt i`. -/
def callService (attempt : Nat → Attempt) : CallTrace := callFrom attempt 0 none maxAttempts

/-- The payload of one call: the text of the reply read as a JSON object. -/
def completeWith (attempt : Nat → Attempt) : Except GatewayError Json.Fields :=
  match (callService attempt).result with
  | .error e => .error e
  | .ok r =>
    match r.text? with
    | some t => parseObject t
    | none => .error .emptyContent

end CareerInsight
