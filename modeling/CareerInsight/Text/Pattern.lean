import CareerInsight.Text.Blank
import CareerInsight.Text.Word

/-!
# Text patterns

A small language of text patterns, enough for the injection markers of
`Context.Sanitize`: characters compared exactly or without case, the
`White_Space` class, runs of one class, word boundaries, line starts,
sequence, alternation and an optional part.

A pattern is matched at a spot of a text: the character before the spot
(none at the start) and the characters from the spot on.  `Pattern.ends`
lists every spot where a match from there can end, in order of
preference: the left branch of an alternation before the right one, an
optional part taken before it is skipped, a longer run before a shorter
one.  The preferred match is the first of them, so that a match found
here is the match of a backtracking matcher that tries the earliest start
first.

* `Pattern.matchAt` is the length of the preferred match at a spot.
* `Pattern.deleteAll` removes, from left to right, every match that does
  not overlap an earlier one; a spot right after a removed match still
  sees the removed character before it.
-/

/-- The lowercase form of a character under simple case folding, for the
characters that fold to an ASCII letter: the ASCII letters themselves, the
long s (U+017F) and the Kelvin sign (U+212A). -/
def Char.foldCase (c : Char) : Char :=
  if c = '\u017F' then 's' else if c = '\u212A' then 'k' else c.toLower

namespace CareerInsight

/-- A class of single characters. -/
inductive CharClass where
  /-- Exactly this character. -/
  | exact (c : Char)
  /-- Any character that folds to the same letter as this lowercase one. -/
  | folded (c : Char)
  /-- A `White_Space` character. -/
  | space
  deriving Repr, DecidableEq

/-- Whether a character belongs to a class. -/
def CharClass.test : CharClass → Char → Bool
  | .exact c, x => x == c
  | .folded c, x => x.foldCase == c
  | .space, x => x.isUnicodeSpace

/-- A text pattern. -/
inductive Pattern where
  /-- One character of a class. -/
  | one (cls : CharClass)
  /-- At least `least` characters of a class, as many as possible first. -/
  | run (cls : CharClass) (least : Nat)
  /-- A word character on exactly one side of the spot. -/
  | wordBoundary
  /-- The start of the text or of a line. -/
  | lineStart
  | seq (first second : Pattern)
  /-- The left pattern, and failing that the right one. -/
  | alt (left right : Pattern)
  /-- The pattern, or else nothing. -/
  | opt (p : Pattern)
  deriving Repr

/-- A spot in a text: the character before it, the characters after it,
and how many characters were consumed to reach it. -/
structure Spot where
  before : Option Char
  after : List Char
  consumed : Nat
  deriving Repr, DecidableEq

/-- The spot after `n` more characters. -/
def Spot.skip (s : Spot) : Nat → Spot
  | 0 => s
  | n + 1 =>
    match s.after with
    | [] => s
    | c :: rest => Spot.skip ⟨some c, rest, s.consumed + 1⟩ n

/-- Whether a character is a word character; none, the edge of the text, is not. -/
def isWordAt : Option Char → Bool
  | some c => c.isWordChar
  | none => false

namespace Pattern

/-- A word: its characters in sequence, compared exactly or without case. -/
def word (s : String) (caseless : Bool) : Pattern :=
  match s.toList.map (fun c => one (if caseless then .folded c else .exact c)) with
  | [] => opt (one (.exact ' ')) -- unreachable for the words used here
  | p :: ps => ps.foldl seq p

/-- The first of a list of alternatives that matches. -/
def anyOf : List Pattern → Pattern
  | [] => opt (one (.exact ' '))
  | [p] => p
  | p :: ps => alt p (anyOf ps)

/-- Patterns in sequence. -/
def chain : List Pattern → Pattern
  | [] => opt (one (.exact ' '))
  | [p] => p
  | p :: ps => seq p (chain ps)

/-- Every spot where a match from `s` can end, in order of preference. -/
def ends : Pattern → Spot → List Spot
  | one cls, s =>
    match s.after with
    | c :: rest => if cls.test c then [⟨some c, rest, s.consumed + 1⟩] else []
    | [] => []
  | run cls least, s =>
    let n := (s.after.takeWhile cls.test).length
    ((List.range (n + 1)).reverse.filter (least ≤ ·)).map s.skip
  | wordBoundary, s =>
    if isWordAt s.before != isWordAt s.after.head? then [s] else []
  | lineStart, s => if s.before = none ∨ s.before = some '\n' then [s] else []
  | seq p q, s => (p.ends s).flatMap q.ends
  | alt p q, s => p.ends s ++ q.ends s
  | opt p, s => p.ends s ++ [s]

/-- The length of the preferred match at a spot, if the pattern matches there. -/
def matchAt (p : Pattern) (before : Option Char) (after : List Char) : Option Nat :=
  (p.ends ⟨before, after, 0⟩).head?.map (·.consumed)

/-- The characters kept when every non-overlapping match, leftmost first,
is removed from `after`; `before` is the character before it. -/
def keptAfter (p : Pattern) (before : Option Char) : List Char → List Char
  | [] => []
  | c :: rest =>
    match p.matchAt before (c :: rest) with
    | some (n + 1) =>
      -- a match of `n + 1` characters: skip them, and go on after the last one
      let dropped := (c :: rest).take (n + 1)
      keptAfter p (dropped.getLast?.getD c) ((c :: rest).drop (n + 1))
    | _ => c :: keptAfter p (some c) rest
termination_by after => after.length
decreasing_by all_goals (simp_wf; try omega)

/-- Whether the pattern has a nonempty match at some spot of `after`, where
`before` is the character before it. -/
def occursAfter (p : Pattern) (before : Option Char) : List Char → Bool
  | [] => false
  | c :: rest =>
    (match p.matchAt before (c :: rest) with
      | some (_ + 1) => true
      | _ => false) || occursAfter p (some c) rest

/-- Whether the pattern has a nonempty match somewhere in a text. -/
def occursIn (p : Pattern) (cs : List Char) : Bool := p.occursAfter none cs

/-- The text with every non-overlapping match removed, leftmost first. -/
def deleteAll (p : Pattern) (cs : List Char) : List Char := p.keptAfter none cs

end Pattern

end CareerInsight
