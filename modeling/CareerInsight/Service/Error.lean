import CareerInsight.Insight.Invariant

/-!
# Service errors

The three ways a request to the service can fail, each with its status:
an unknown resource (404), a request that is not acceptable (400), and a
record that broke an invariant on its way out (500).  The response body is
`{"error": {"code", "message"}}`; an invariant failure shows a fixed
message, never the violation itself.
-/

namespace CareerInsight

/-- A failed request. -/
inductive AppError where
  | notFound (message : String)
  | validation (message : String)
  | invariant (violation : Violation)
  deriving Repr

namespace AppError

/-- The name of the kind of failure. -/
def kind : AppError → String
  | notFound _ => "NotFound"
  | validation _ => "Validation"
  | invariant _ => "Invariant"

/-- The full description of the failure. -/
def display : AppError → String
  | notFound m => "Not found: " ++ m
  | validation m => "Validation error: " ++ m
  | invariant v => "Invariant violation: " ++ v.message

/-- The status of the response. -/
def status : AppError → Nat
  | notFound _ => 404
  | validation _ => 400
  | invariant _ => 500

/-- The machine-readable code in the response body. -/
def code : AppError → String
  | notFound _ => "NOT_FOUND"
  | validation _ => "VALIDATION_ERROR"
  | invariant _ => "INVARIANT_VIOLATION"

/-- The message in the response body. -/
def publicMessage : AppError → String
  | notFound m => m
  | validation m => m
  | invariant _ => "The insight failed its final consistency check"

/-- The response body. -/
def body (e : AppError) : Json :=
  Json.objectOf [("error", Json.objectOf [("code", .string e.code), ("message", .string e.publicMessage)])]

end AppError

end CareerInsight
