/-!
# Request targets

A request names what it asks for by its target, in one of three forms:

* origin form: a path that starts with `/`, then optionally `?` and a query
  (`/health?x=1`), or the lone `*`;
* absolute form: a scheme, `://`, an authority and then a path and query
  (`https://example.com:8443/health`);
* authority form: an authority alone (`localhost:8080`, also `health`).

The form is told from the first characters.  A target of one character
that is neither `/` nor `*`, or one that does not start with `/`, is read
as absolute when it starts with a scheme and as an authority otherwise.  A
scheme is `http://` or `https://` in any case of letters, or else, in a
target of more than three bytes, a run of at most 64 ASCII letters,
digits and marks (`RequestTarget.schemePunctuation`) followed by `://`.

The path that routing reads is the origin form's path, the absolute form's
path (`/` when it has none), and the empty path for the authority form.  A
`#` ends what is read: the fragment after it is never looked at.  A target
is at most 65534 bytes.
-/

namespace CareerInsight

/-- Why a text is not a request target. -/
inductive TargetFault where
  | empty
  | tooLong
  | invalidChar
  | invalidAuthority
  | invalidFormat
  | schemeTooLong
  deriving Repr, DecidableEq

/-- The words for a text that is not a request target. -/
def TargetFault.message : TargetFault → String
  | .empty => "empty string"
  | .tooLong => "uri too long"
  | .invalidChar => "invalid uri character"
  | .invalidAuthority => "invalid authority"
  | .invalidFormat => "invalid format"
  | .schemeTooLong => "scheme too long"

/-- A request target, split into the parts its form has. -/
inductive RequestTarget where
  /-- A path (with the query and fragment left off), or `*`. -/
  | origin (path : String)
  /-- A scheme, an authority and a path, which may be empty. -/
  | absolute (scheme authority path : String)
  /-- An authority alone. -/
  | authority (authority : String)
  deriving Repr, DecidableEq

namespace RequestTarget

/-- The path that routing reads. -/
def path : RequestTarget → String
  | .origin p => p
  | .absolute _ _ p => if p.isEmpty then "/" else p
  | .authority _ => ""

/-- Whether a character may stand in a path: any character above the
blank but the delete control, except `#` and `?`, which end the path, `<`,
`>` and the backquote. -/
def isPathChar (c : Char) : Bool :=
  32 < c.toNat && c.toNat ≠ 127 && c ≠ '#' && c ≠ '?' && c ≠ '<' && c ≠ '>' && c.toNat ≠ 96

/-- Whether a character may stand in a query: any character above the blank
but the delete control, except `#`, which ends the query, `"`, `<` and
`>`. -/
def isQueryChar (c : Char) : Bool :=
  32 < c.toNat && c.toNat ≠ 127 && c ≠ '#' && c ≠ '"' && c ≠ '<' && c ≠ '>'

/-- The path of a path-and-query text: what comes before `?` or `#`, if the
path and the query (up to `#`) have only the characters they allow. -/
def pathOf (cs : List Char) : Except TargetFault String :=
  let path := cs.takeWhile (fun c => c ≠ '?' && c ≠ '#')
  let query := match cs.drop path.length with
    | '?' :: q => q.takeWhile (· ≠ '#')
    | _ => []
  if path.all isPathChar && query.all isQueryChar then .ok (String.ofList path)
  else .error .invalidChar

/-- Whether a character ends an authority. -/
def endsAuthority (c : Char) : Bool := c = '/' || c = '?' || c = '#'

/-- The ASCII codes of the punctuation an authority may hold with no rule
of its own: `!$&'()*+,-.;=_~`. -/
def authorityPunctuation : List Nat := [33, 36, 38, 39, 40, 41, 42, 43, 44, 45, 46, 59, 61, 95, 126]

/-- Whether a character may stand in an authority with no rule of its own:
ASCII letters and digits and the punctuation above. -/
def isAuthorityChar (c : Char) : Bool :=
  c.isAlphanum || authorityPunctuation.contains c.toNat

/-- What the reading of an authority has met so far. -/
structure AuthorityScan where
  /-- The colons since the last `@` or `]`. -/
  colons : Nat
  /-- Whether a `[` has come. -/
  opened : Bool
  /-- Whether a `]` has come. -/
  closed : Bool
  /-- Whether a `%` has come since the last `@` or `]`. -/
  percent : Bool

/-- The scan before the first character. -/
def AuthorityScan.start : AuthorityScan := ⟨0, false, false, false⟩

/-- Reads one character of an authority.  A colon, after `@` or `]`, is a
port colon or part of an IPv6 address; a ninth one in a row is refused.  A
`[` may come once and not after a `%`; a `]` only after `[`, and once.  A
`@` ends the user information, whose `%` escapes are allowed. -/
def AuthorityScan.step (st : AuthorityScan) (c : Char) : Except TargetFault AuthorityScan :=
  if c = ':' then
    if 8 ≤ st.colons then .error .invalidAuthority else .ok { st with colons := st.colons + 1 }
  else if c = '[' then
    if st.percent || st.opened then .error .invalidAuthority else .ok { st with opened := true }
  else if c = ']' then
    if !st.opened || st.closed then .error .invalidAuthority
    else .ok { st with closed := true, colons := 0, percent := false }
  else if c = '@' then .ok { st with colons := 0, percent := false }
  else if c = '%' then .ok { st with percent := true }
  else if isAuthorityChar c then .ok st
  else .error .invalidChar

/-- Checks an authority: its characters, brackets that pair, at most one
port colon, no `@` at its end, and no `%` outside the user information
or the brackets. -/
def checkAuthority (cs : List Char) : Except TargetFault Unit := do
  let st ← cs.foldlM AuthorityScan.step AuthorityScan.start
  if st.opened != st.closed then throw .invalidAuthority
  if 1 < st.colons then throw .invalidAuthority
  if cs.getLast? = some '@' then throw .invalidAuthority
  if st.percent then throw .invalidAuthority

/-- The ASCII codes of the punctuation a scheme name may hold: `+`, `-`,
`.` and `~`. -/
def schemePunctuation : List Nat := [43, 45, 46, 126]

/-- Whether a character may stand in a scheme name: ASCII letters and
digits and the punctuation above. -/
def isSchemeChar (c : Char) : Bool := c.isAlphanum || schemePunctuation.contains c.toNat

/-- The length of the scheme name a text starts with, if it starts with a
name followed by `://`, found by reading scheme characters up to the first
colon. -/
def schemeLength? (cs : List Char) : Except TargetFault (Option Nat) :=
  let name := cs.takeWhile isSchemeChar
  match cs.drop name.length with
  | ':' :: '/' :: '/' :: _ => if 64 < name.length then .error .schemeTooLong else .ok (some name.length)
  | _ => .ok none

/-- The scheme of a text and the text after its `://`, if it has one. -/
def scheme? (cs : List Char) (bytes : Nat) : Except TargetFault (Option (String × List Char)) :=
  if (cs.take 7).map Char.toLower = "http://".toList then .ok (some ("http", cs.drop 7))
  else if (cs.take 8).map Char.toLower = "https://".toList then .ok (some ("https", cs.drop 8))
  else if bytes ≤ 3 then .ok none
  else
    match schemeLength? cs with
    | .error e => .error e
    | .ok none => .ok none
    | .ok (some n) => .ok (some (String.ofList (cs.take n), cs.drop (n + 3)))

/-- Reads a target that does not start with `/`: absolute when it starts
with a scheme, which must be followed by an authority, else an authority
that must be the whole text. -/
def absoluteOrAuthority (cs : List Char) (bytes : Nat) : Except TargetFault RequestTarget := do
  match ← scheme? cs bytes with
  | none =>
    let auth := cs.takeWhile (fun c => !endsAuthority c)
    checkAuthority auth
    if auth.length ≠ cs.length then throw .invalidFormat
    pure (.authority (String.ofList cs))
  | some (scheme, rest) =>
    let auth := rest.takeWhile (fun c => !endsAuthority c)
    checkAuthority auth
    if auth.isEmpty then throw .invalidFormat
    let p ← pathOf (rest.drop auth.length)
    pure (.absolute scheme (String.ofList auth) p)

/-- Reads a request target. -/
def parse (s : String) : Except TargetFault RequestTarget :=
  let bytes := s.utf8ByteSize
  if 65534 < bytes then .error .tooLong
  else
    match s.toList with
    | [] => .error .empty
    | ['*'] => .ok (.origin "*")
    | cs@('/' :: _) => (pathOf cs).map origin
    | cs => absoluteOrAuthority cs bytes

end RequestTarget

end CareerInsight
