/-!
# Blank and control characters

Two character classes of the Unicode standard, as tables:

* `Char.isUnicodeSpace` is the `White_Space` property: tab, line feed,
  vertical tab, form feed, carriage return, space, U+0085, U+00A0, U+1680,
  U+2000 to U+200A, U+2028, U+2029, U+202F, U+205F and U+3000.  The zero
  width space U+200B and the byte order mark U+FEFF are not in it.
* `Char.isControl` is the general category `Cc`: U+0000 to U+001F and
  U+007F to U+009F.

`String.trimUnicode` removes `White_Space` characters from both ends, and
`String.isBlank` says that nothing is left after doing so.  Core's
`Char.isWhitespace` knows only part of `White_Space`, so neither is built
on it.
-/

namespace Char

/-- Membership in the Unicode `White_Space` property. -/
def isUnicodeSpace (c : Char) : Bool :=
  let n := c.toNat
  (9 ≤ n && n ≤ 13) || n = 0x20 || n = 0x85 || n = 0xA0 || n = 0x1680 ||
    (0x2000 ≤ n && n ≤ 0x200A) || n = 0x2028 || n = 0x2029 || n = 0x202F ||
    n = 0x205F || n = 0x3000

/-- Membership in the Unicode general category `Cc`. -/
def isControl (c : Char) : Bool :=
  let n := c.toNat
  n < 0x20 || (0x7F ≤ n && n ≤ 0x9F)

end Char

namespace List

/-- The characters with `White_Space` removed from both ends. -/
def trimUnicode (cs : List Char) : List Char :=
  ((cs.dropWhile Char.isUnicodeSpace).reverse.dropWhile Char.isUnicodeSpace).reverse

end List

namespace String

/-- The text with `White_Space` removed from both ends. -/
def trimUnicode (s : String) : String := String.ofList s.toList.trimUnicode

/-- Whether the text is empty after `trimUnicode`, that is, whether every
character is `White_Space`. -/
def isBlank (s : String) : Bool := s.toList.all Char.isUnicodeSpace

/-- The number of characters (Unicode scalar values). -/
def charCount (s : String) : Nat := s.toList.length

/-- The first `n` characters. -/
def takeChars (s : String) (n : Nat) : String := String.ofList (s.toList.take n)

end String
