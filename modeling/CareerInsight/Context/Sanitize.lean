import CareerInsight.Text.Pattern

/-!
# Cleaning user context

Every text the user supplies is cleaned before it goes into a prompt:

1. control characters (general category `Cc`) other than line feed and tab
   are dropped;
2. the seven injection markers are removed, marker by marker in their
   listed order, every non-overlapping occurrence at once; removing one
   occurrence can join its neighbours into a new one, so passes repeat
   until a whole pass finds no marker;
3. the text is trimmed and cut to the length limit in characters.

The report lists the names of the markers found, each once, in the order
they were first found; whether the cut removed anything; and how many
characters fewer the clean text has than the raw one.

Each removal deletes at least one character, so a text of `n` characters
is clean after at most `n + 1` passes; `stripMarkers` is given that many.
-/

namespace CareerInsight

/-- A named pattern that marks an attempt to steer the model. -/
structure Marker where
  name : String
  pattern : Pattern
  deriving Repr

namespace Marker

open Pattern

/-- One or more `White_Space` characters. -/
def spaces : Pattern := run .space 1

/-- A word in any case. -/
def anyCase (s : String) : Pattern := word s true

/-- A word in exactly this case. -/
def exactly (s : String) : Pattern := word s false

/-- "ignore all previous instructions" and its variants. -/
def ignoreInstructions : Marker :=
  ⟨"ignore_instructions", chain [wordBoundary,
    anyOf [anyCase "ignore", anyCase "disregard", anyCase "forget"], spaces,
    opt (anyOf [seq (anyCase "all") spaces, seq (anyCase "any") spaces]),
    opt (seq (anyCase "the") spaces),
    anyOf [anyCase "previous", anyCase "prior", anyCase "above", anyCase "earlier"], spaces,
    anyOf [anyCase "instructions", anyCase "prompts", anyCase "rules", anyCase "messages"]]⟩

/-- "you are now", as whole words. -/
def roleOverride : Marker :=
  ⟨"role_override", chain [wordBoundary, anyCase "you", spaces, anyCase "are", spaces,
    anyCase "now", wordBoundary]⟩

/-- A request to reveal the system prompt or hidden instructions. -/
def systemPromptRequest : Marker :=
  ⟨"system_prompt_request", chain [wordBoundary,
    anyOf [anyCase "reveal", anyCase "print", anyCase "show", anyCase "repeat"], spaces,
    opt (anyOf [seq (anyCase "your") spaces, seq (anyCase "the") spaces]),
    anyOf [chain [anyCase "system", spaces, anyCase "prompt"],
      chain [anyCase "hidden", spaces, anyCase "instructions"]]]⟩

/-- Chat markup tokens such as `<|im_start|>`. -/
def chatMarkup : Marker :=
  ⟨"chat_markup", chain [exactly "<|",
    anyOf [exactly "im_start", exactly "im_end", exactly "system", exactly "user",
      exactly "assistant"],
    exactly "|>"]⟩

/-- Instruction and system markers such as `[INST]` and `<</SYS>>`. -/
def instMarkers : Marker :=
  ⟨"inst_markers", alt (chain [exactly "[", opt (exactly "/"), exactly "INST]"])
    (chain [exactly "<<", opt (exactly "/"), exactly "SYS>>"])⟩

/-- A code fence that opens a system or assistant block. -/
def fencedRole : Marker :=
  ⟨"fenced_role", seq (exactly "```") (anyOf [exactly "system", exactly "assistant"])⟩

/-- A line that starts with "system:" or "assistant:", blanks allowed. -/
def rolePrefix : Marker :=
  ⟨"role_prefix", chain [lineStart, run .space 0, anyOf [anyCase "system", anyCase "assistant"],
    run .space 0, exactly ":"]⟩

/-- The injection markers in the order they are removed. -/
def all : List Marker :=
  [ignoreInstructions, roleOverride, systemPromptRequest, chatMarkup, instMarkers, fencedRole,
    rolePrefix]

end Marker

/-- What cleaning changed. -/
structure SanitizeReport where
  /-- The names of the markers found, in order of first finding. -/
  patternsFound : List String
  /-- Whether the length limit cut the text. -/
  wasTruncated : Bool
  /-- How many characters fewer the clean text has. -/
  charsRemoved : Nat
  deriving Repr, BEq

/-- One pass over the markers: each one found is removed everywhere and its
name noted; the flag says whether any was found. -/
def markerPass (text : List Char) (found : List String) : List Char × List String × Bool :=
  Marker.all.foldl (fun (acc : List Char × List String × Bool) m =>
    let (t, names, _) := acc
    if m.pattern.occursIn t then
      (m.pattern.deleteAll t, if names.contains m.name then names else names ++ [m.name], true)
    else acc) (text, found, false)

/-- Passes until one finds no marker, at most `fuel` of them. -/
def stripMarkers (fuel : Nat) (text : List Char) (found : List String) : List Char × List String :=
  match fuel with
  | 0 => (text, found)
  | fuel + 1 =>
    let (t, names, changed) := markerPass text found
    if changed then stripMarkers fuel t names else (t, names)

/-- Whether a character survives the first step: not a control character,
or a line feed or tab. -/
def keepsChar (c : Char) : Bool := !c.isControl || c = '\n' || c = '\t'

/-- The clean text and the report for a raw text and a length limit. -/
def sanitize (raw : String) (maxLength : Nat) : String × SanitizeReport :=
  let filtered := raw.toList.filter keepsChar
  let (text, found) := stripMarkers (filtered.length + 1) filtered []
  let trimmed := text.trimUnicode
  let clean := trimmed.take maxLength
  (String.ofList clean, ⟨found, maxLength < trimmed.length, raw.length - clean.length⟩)

end CareerInsight
