/-!
# Configuration

The service is configured from five environment variables, read in this
order: the model API key (required), the port, the log filter, the gateway
timeout in seconds and the per-value context limit.  Each absent optional
variable takes its default.  Numbers are unsigned decimal integers, with an
optional leading `+`, of at most 16, 64 and 64 bits.  After reading, the
timeout and the context limit must be positive.

A failure names the variable and the reason, as `context: reason`.
-/

namespace CareerInsight

/-- Why a decimal text is not an unsigned integer of a given width. -/
inductive IntegerFault where
  | empty
  | invalidDigit
  | tooLarge
  deriving Repr, DecidableEq, BEq

/-- The words for an integer fault. -/
def IntegerFault.message : IntegerFault → String
  | .empty => "cannot parse integer from empty string"
  | .invalidDigit => "invalid digit found in string"
  | .tooLarge => "number too large to fit in target type"

/-- Reads decimal digits into a number below `bound`, left to right: a
character that is not a digit is refused before the value is checked
against the bound. -/
def readDigits (bound : Nat) (acc : Nat) : List Char → Except IntegerFault Nat
  | [] => .ok acc
  | c :: rest =>
    if !c.isDigit then .error .invalidDigit
    else
      let next := acc * 10 + (c.toNat - 48)
      if bound ≤ acc * 10 then .error .tooLarge
      else if bound ≤ next then .error .tooLarge
      else readDigits bound next rest

/-- Reads an unsigned integer below `bound` from decimal text with an
optional leading `+`. -/
def parseUnsigned (bound : Nat) (s : String) : Except IntegerFault Nat :=
  match s.toList with
  | [] => .error .empty
  | ['+'] => .error .invalidDigit
  | ['-'] => .error .invalidDigit
  | '+' :: rest => readDigits bound 0 rest
  | cs => readDigits bound 0 cs

/-- The service configuration. -/
structure Config where
  apiKey : String
  port : Nat
  logFilter : String
  gatewayTimeoutSecs : Nat
  contextMaxChars : Nat
  deriving Repr, BEq

/-- Why the configuration could not be read. -/
inductive ConfigError where
  | missing (name : String)
  | malformed (context : String) (fault : IntegerFault)
  | notPositive (name : String)
  deriving Repr, BEq

/-- The words for a configuration failure. -/
def ConfigError.message : ConfigError → String
  | .missing v => "Required environment variable '" ++ v ++ "' is not set: environment variable not found"
  | .malformed context f => context ++ ": " ++ f.message
  | .notPositive v => v ++ " must be greater than 0"

namespace Config

/-- The names of the variables the configuration reads. -/
def variableNames : List String :=
  ["ANTHROPIC_API_KEY", "PORT", "RUST_LOG", "GATEWAY_TIMEOUT_SECS", "CONTEXT_MAX_CHARS"]

/-- Reads a numeric variable, or its default when it is absent. -/
def number (lookup : String → Option String) (name default context : String) (bound : Nat) :
    Except ConfigError Nat :=
  (parseUnsigned bound ((lookup name).getD default)).mapError (.malformed context)

/-- The configuration from an environment. -/
def fromEnv (lookup : String → Option String) : Except ConfigError Config := do
  let apiKey ← match lookup "ANTHROPIC_API_KEY" with
    | some k => pure k
    | none => throw (.missing "ANTHROPIC_API_KEY")
  let port ← number lookup "PORT" "8080" "PORT must be a valid port number" (Nat.pow 2 16)
  let logFilter := (lookup "RUST_LOG").getD "info"
  let timeout ← number lookup "GATEWAY_TIMEOUT_SECS" "60"
    "GATEWAY_TIMEOUT_SECS must be a whole number of seconds" (Nat.pow 2 64)
  let contextMax ← number lookup "CONTEXT_MAX_CHARS" "4000"
    "CONTEXT_MAX_CHARS must be a positive integer" (Nat.pow 2 64)
  if timeout = 0 then throw (.notPositive "GATEWAY_TIMEOUT_SECS")
  if contextMax = 0 then throw (.notPositive "CONTEXT_MAX_CHARS")
  return ⟨apiKey, port, logFilter, timeout, contextMax⟩

end Config

end CareerInsight
