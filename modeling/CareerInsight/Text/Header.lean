/-!
# Header text

The characters of the header lines of an HTTP message.  A header name,
like a method or a part of a media type, is a token: ASCII letters and
digits and the punctuation of `HttpText.tokenPunctuation`.  A header value
may hold a tab and any character from the blank up except delete;
characters beyond ASCII are taken as opaque bytes.

`HttpText.headerFault?` checks a list of headers the way they are set on a
message, one after the other, the name of each before its value, so the
first header with a fault decides which fault is reported.
-/

namespace CareerInsight

namespace HttpText

/-- The ASCII codes of the punctuation allowed in a token. -/
def tokenPunctuation : List Nat := [33, 35, 36, 37, 38, 39, 42, 43, 45, 46, 94, 95, 96, 124, 126]

/-- Whether a character may appear in a token: a method, a header name, or
a part of a media type. -/
def isTokenChar (c : Char) : Bool :=
  (c.isAlphanum && c.toNat < 128) || tokenPunctuation.contains c.toNat

/-- Whether a character may appear in a header value. -/
def isHeaderValueChar (c : Char) : Bool := c = '\t' || (32 ≤ c.toNat && c.toNat ≠ 127)

/-- Whether a character is visible ASCII, a blank or a tab. -/
def isVisibleAscii (c : Char) : Bool := c = '\t' || (32 ≤ c.toNat && c.toNat < 127)

/-- Whether a text is a header name: a non-empty token. -/
def isHeaderName (s : String) : Bool := !s.isEmpty && s.toList.all isTokenChar

/-- Whether a text may be a header value. -/
def isHeaderValue (s : String) : Bool := s.toList.all isHeaderValueChar

/-- Why a header could not be set. -/
inductive HeaderFault where
  | invalidName
  | invalidValue
  deriving Repr, DecidableEq

/-- The words for a header that could not be set. -/
def HeaderFault.message : HeaderFault → String
  | .invalidName => "invalid HTTP header name"
  | .invalidValue => "failed to parse header value"

/-- The fault of the first header that cannot be set, taking the headers in
order and the name of each before its value. -/
def headerFault? (headers : List (String × String)) : Option HeaderFault :=
  headers.findSome? fun (n, v) =>
    if !isHeaderName n then some .invalidName
    else if !isHeaderValue v then some .invalidValue
    else none

end HttpText

end CareerInsight
