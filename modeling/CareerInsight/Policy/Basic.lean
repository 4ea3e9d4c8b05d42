import CareerInsight.Field.Spec
import CareerInsight.Composite.Formula
import CareerInsight.Gateway.Request
import CareerInsight.Policy.Prompt

/-!
# Domain policies

A policy holds everything the service knows about one domain: the prompt
texts, how the model is asked, how long a context value may be, the field
constraints, the composites, which text field carries the explanation, the
message shown when no model answer could be used, and the payload from
which that fallback record is built.
-/

namespace CareerInsight

/-- How the model is asked for a domain. -/
structure GenerationSettings where
  tier : ModelTier
  temperature : Temperature
  maxOutputTokens : Nat
  deriving Repr, BEq

/-- The policy of one domain. -/
structure Policy where
  domain : Domain
  /-- The analyst role in the system prompt. -/
  role : String
  /-- The request template with a slot for the context. -/
  template : PromptTemplate
  generation : GenerationSettings
  /-- The most characters of one context value. -/
  contextMaxChars : Nat
  /-- The field constraints, in declaration order. -/
  fields : List FieldSpec
  composites : List CompositeFormula
  /-- The text field that carries the user-facing explanation. -/
  explanationField : String
  /-- The explanation of a fallback record. -/
  unavailableMessage : String
  /-- The payload a fallback record is validated from. -/
  fallbackSeed : List (String × StaticValue)
  deriving Repr, BEq

namespace Policy

/-- The system prompt: JSON only, the role, then the warning about untrusted
context and the confidence instruction. -/
def systemPrompt (p : Policy) : String :=
  Prompt.jsonOnly ++ "\n\n" ++ p.role ++ "\n\n" ++ Prompt.untrustedContext ++ "\n" ++ Prompt.confidence

/-- The first constraint that owns a field. -/
def specFor? (p : Policy) (field : String) : Option FieldSpec :=
  p.fields.find? (·.owner? == some field)

end Policy

end CareerInsight
