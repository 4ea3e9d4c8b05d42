/-!
# Completion requests

What the service asks of a language model: a request text, a system text,
a model tier, a sampling temperature and a limit on the answer's length.
The tier decides the model; model names are fixed here and nowhere else.

A temperature is kept in tenths, the only precision the policies use, and
written as the shortest decimal: `0.3`, `1`, `0`.
-/

namespace CareerInsight

/-- How capable, and how costly, a model a request needs. -/
inductive ModelTier where
  | fast
  | primary
  deriving Repr, DecidableEq, BEq

namespace ModelTier

/-- The model that serves a tier. -/
def model : ModelTier → String
  | fast => "claude-haiku-4-5"
  | primary => "claude-sonnet-4-5"

/-- The name of a tier. -/
def name : ModelTier → String
  | fast => "fast"
  | primary => "primary"

/-- The tier of a name. -/
def ofName? : String → Option ModelTier
  | "fast" => some fast
  | "primary" => some primary
  | _ => none

end ModelTier

/-- A sampling temperature in tenths. -/
structure Temperature where
  tenths : Nat
  deriving Repr, DecidableEq, BEq

/-- The shortest decimal text of a temperature. -/
def Temperature.text (t : Temperature) : String :=
  toString (t.tenths / 10) ++ (if t.tenths % 10 = 0 then "" else "." ++ toString (t.tenths % 10))

/-- One request for a JSON object. -/
structure CompletionRequest where
  prompt : String
  system : String
  tier : ModelTier
  temperature : Temperature
  maxOutputTokens : Nat
  deriving Repr, BEq

end CareerInsight
