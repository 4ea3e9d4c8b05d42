/-!
# UUID text

A UUID is a 128-bit number written as 32 hex digits.  `Uuid.parse` accepts
four forms, the digits in either case:

* simple: the 32 digits (`67e5504410b1426f9247bb680e5fe0c8`);
* hyphenated: groups of 8, 4, 4, 4 and 12 digits joined by hyphens;
* braced: the hyphenated form between `{` and `}`;
* URN: the hyphenated form after `urn:uuid:`, its letters in either case.

Which form is meant is decided by the length in bytes: 32, 36, 38 or 45.
`Uuid.text` always writes the hyphenated form in lowercase.

A text that is none of these is refused.  A text longer than 45 bytes, the
longest form, is refused for its length alone.  Otherwise the fault is
sought in the part the length chose to read.  When the length chose the
hyphenated form (36 bytes, or 38 with braces, or 45 after `urn:uuid:`) that
part is the hyphenated text itself, scanned as it stands: a character
that is neither a hex digit nor a hyphen (its position counts bytes from
0), then the number of groups, then the first group of the wrong length.
Any other text is scanned without its braces or `urn:uuid:` prefix, if it
has them, the positions then including the stripped wrapper, and a text
with no wrapper and no hyphen is refused for its length.  The last group's
length is counted from the start of the part, wrapper included.
-/

namespace CareerInsight

/-- A 128-bit universally unique identifier. -/
structure Uuid where
  value : Nat
  deriving Repr, DecidableEq, BEq

/-- Why a text is not a UUID. -/
inductive UuidFault where
  | invalidChar (c : Char) (position : Nat)
  | length (length : Nat)
  | groupCount (count : Nat)
  | groupLength (group length : Nat)
  deriving Repr, DecidableEq, BEq

/-- The digits each group of the hyphenated form must have. -/
def Uuid.groupSizes : List Nat := [8, 4, 4, 4, 12]

/-- The byte offsets at which the groups of the hyphenated form start. -/
def Uuid.groupStarts : List Nat := [0, 9, 14, 19, 24]

/-- The words for a text that is not a UUID. -/
def UuidFault.message : UuidFault → String
  | .invalidChar c i => "invalid character: found `" ++ String.singleton c ++ "` at " ++ toString i
  | .length n => "invalid length: found " ++ toString n
  | .groupCount n => "invalid group count: expected 5, found " ++ toString n
  | .groupLength g n =>
    "invalid group length in group " ++ toString g ++ ": expected " ++
      toString (Uuid.groupSizes.getD g 0) ++ ", found " ++ toString n

namespace Uuid

/-- The value of a hex digit of either case. -/
def hexValue? (c : Char) : Option Nat :=
  if '0' ≤ c ∧ c ≤ '9' then some (c.toNat - 48)
  else if 'a' ≤ c ∧ c ≤ 'f' then some (c.toNat - 87)
  else if 'A' ≤ c ∧ c ≤ 'F' then some (c.toNat - 55)
  else none

/-- The number written by hex digits, most significant first. -/
def hexNumber? (cs : List Char) : Option Nat :=
  cs.foldlM (fun acc c => (hexValue? c).map (acc * 16 + ·)) 0

/-- The number of the hyphenated form: 36 characters with hyphens exactly
at the four group boundaries. -/
def hyphenated? (cs : List Char) : Option Nat :=
  if cs.length = 36 ∧ [8, 13, 18, 23].all (cs.getD · ' ' = '-') then
    hexNumber? (cs.filter (· ≠ '-')) |>.filter fun _ =>
      (cs.zipIdx.all fun (c, i) => [8, 13, 18, 23].contains i || (hexValue? c).isSome)
  else none

/-- Whether a text starts with `urn:uuid:`, letters compared without case. -/
def hasUrnPrefix (cs : List Char) : Bool :=
  (cs.take 9).map Char.toLower == "urn:uuid:".toList

/-- The text without its braces or `urn:uuid:` prefix, the byte offset of
what is left, and whether the text had no such wrapper. -/
def unwrap (cs : List Char) : List Char × Nat × Bool :=
  match cs with
  | '{' :: rest@(_ :: _) =>
    if rest.getLast? = some '}' then (rest.dropLast, 1, false)
    else if hasUrnPrefix cs then (cs.drop 9, 9, false) else (cs, 0, true)
  | _ => if hasUrnPrefix cs then (cs.drop 9, 9, false) else (cs, 0, true)

/-- Scans the unwrapped text: the first character that is neither a hex
digit nor a hyphen, or else the byte offsets of the hyphens. -/
def scanHyphens (offset : Nat) : List Char → Nat → Except UuidFault (List Nat)
  | [], _ => .ok []
  | c :: rest, at_ =>
    if c.toNat ≥ 128 then .error (.invalidChar c (at_ + offset))
    else if c = '-' then (scanHyphens offset rest (at_ + 1)).map (at_ :: ·)
    else if (hexValue? c).isNone then .error (.invalidChar c (at_ + offset))
    else scanHyphens offset rest (at_ + c.utf8Size)

/-- The first group, of the first four, whose closing hyphen is misplaced. -/
def misplacedGroup (bounds : List Nat) : Option UuidFault :=
  ((List.range 4).find? fun i => bounds.getD i 0 + 1 ≠ groupStarts.getD (i + 1) 0).map fun i =>
    .groupLength i (bounds.getD i 0 - groupStarts.getD i 0)

/-- Why a part of a text, the one its length chose to read, holds no UUID.
A part read as the hyphenated form (`hyphenated`) is scanned as it stands,
and a missing hyphen there is a wrong number of groups; any other part is
scanned without its wrapper, and one with no wrapper and no hyphen has the
wrong length. -/
def partFault (cs : List Char) (hyphenated : Bool) : UuidFault :=
  let size := (cs.map Char.utf8Size).foldl (· + ·) 0
  let (body, offset, bare) := if hyphenated then (cs, 0, false) else unwrap cs
  match scanHyphens offset body 0 with
  | .error e => e
  | .ok bounds =>
    if bounds.isEmpty && bare then .length size
    else if bounds.length ≠ 4 then .groupCount (bounds.length + 1)
    else (misplacedGroup bounds).getD (.groupLength 4 (size - 24))

/-- The part of a text that its length chose to read, and whether it was
read as the hyphenated form: the whole at 36 bytes, the inside of the
braces at 38, what follows `urn:uuid:` at 45, else the whole as no form. -/
def readPart (cs : List Char) : List Char × Bool :=
  let n := (cs.map Char.utf8Size).foldl (· + ·) 0
  if n = 36 then (cs, true)
  else if n = 38 ∧ cs.head? = some '{' ∧ cs.getLast? = some '}' then ((cs.drop 1).dropLast, true)
  else if n = 45 ∧ hasUrnPrefix cs then (cs.drop 9, true)
  else (cs, false)

/-- Why a text that is not a UUID was refused. -/
def fault (s : String) : UuidFault :=
  if 45 < s.utf8ByteSize then .length s.utf8ByteSize
  else
    let (part, hyphenated) := readPart s.toList
    partFault part hyphenated

/-- The UUID a text writes, in any of the four forms. -/
def ofText? (s : String) : Option Uuid :=
  let cs := s.toList
  let n := s.utf8ByteSize
  let value :=
    if n = 32 then (if cs.length = 32 then hexNumber? cs else none)
    else if n = 36 then hyphenated? cs
    else if n = 38 ∧ cs.head? = some '{' ∧ cs.getLast? = some '}' then hyphenated? (cs.drop 1).dropLast
    else if n = 45 ∧ hasUrnPrefix cs then hyphenated? (cs.drop 9)
    else none
  value.map Uuid.mk

/-- Reads a UUID, or says why the text is none. -/
def parse (s : String) : Except UuidFault Uuid :=
  match ofText? s with
  | some u => .ok u
  | none => .error (fault s)

/-- The hyphenated lowercase form. -/
def text (u : Uuid) : String :=
  let digits := (Nat.toDigits 16 (u.value % Nat.pow 2 128 + Nat.pow 2 128)).drop 1
  String.ofList (digits.take 8 ++ '-' :: (digits.drop 8).take 4 ++ '-' :: (digits.drop 12).take 4 ++
    '-' :: (digits.drop 16).take 4 ++ '-' :: digits.drop 20)

end Uuid

end CareerInsight
