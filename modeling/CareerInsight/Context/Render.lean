import CareerInsight.Context.Sanitize
import CareerInsight.Policy.Basic

/-!
# Rendering the context block

The user context is a map from names to texts.  It reaches the prompt as
`name: value` lines, one per entry in ascending name order, joined by line
feeds.  Both sides are cleaned first: the name with a limit of 64
characters, the value with the smaller of the caller's limit and the
policy's.  An entry whose clean name or clean value is empty is left out.
-/

namespace CareerInsight

/-- The most characters of a clean context name. -/
def contextKeyChars : Nat := 64

/-- The line of one context entry, if both its sides survive cleaning. -/
def contextLine (limit : Nat) (entry : String × String) : Option String :=
  let key := (sanitize entry.1 contextKeyChars).1
  let value := (sanitize entry.2 limit).1
  if key.isEmpty || value.isEmpty then none else some (key ++ ": " ++ value)

/-- The context block of a policy for a context in ascending name order. -/
def Policy.renderContext (p : Policy) (context : List (String × String)) (maxChars : Nat) : String :=
  "\n".intercalate (context.filterMap (contextLine (min maxChars p.contextMaxChars)))

end CareerInsight
