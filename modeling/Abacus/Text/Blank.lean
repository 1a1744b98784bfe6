/-
Blank characters, and the removal of blanks from both ends of a text.

White space is the Unicode property of that name.  A blank is white space or
one of the four information separators U+001C to U+001F; numbers may stand
among white space, names and lines among blanks.
-/
import Abacus.Text.Span

namespace Abacus.Text

/-- The white space from U+0080 on. -/
def spaceSpans : List Span :=
  [⟨0x85, 0x85⟩, ⟨0xa0, 0xa0⟩, ⟨0x1680, 0x1680⟩, ⟨0x2000, 0x200a⟩, ⟨0x2028, 0x2029⟩,
   ⟨0x202f, 0x202f⟩, ⟨0x205f, 0x205f⟩, ⟨0x3000, 0x3000⟩]

/-- ASCII white space: the space, and tab to carriage return. -/
def isAsciiSpace (c : Char) : Bool :=
  c = ' ' || (Span.mk 0x09 0x0d).holds c.toNat

def isSpace : Char → Bool :=
  Span.classOf isAsciiSpace spaceSpans

def isSeparator (c : Char) : Bool :=
  (Span.mk 0x1c 0x1f).holds c.toNat

def isBlank (c : Char) : Bool :=
  isSeparator c || isSpace c

/-- The text without the characters of a class at its end. -/
def trimRight (outside : Char → Bool) : List Char → List Char
  | [] => []
  | c :: rest =>
    match trimRight outside rest with
    | [] => if outside c then [] else [c]
    | d :: kept => c :: d :: kept

/-- The text without the characters of a class at its two ends. -/
def trim (outside : Char → Bool) (text : List Char) : List Char :=
  trimRight outside (text.dropWhile outside)

/-- The text without the blanks at its two ends. -/
def strip (text : List Char) : List Char :=
  trim isBlank text

/-- The text has no character that is not blank. -/
def isBlankText (text : List Char) : Bool :=
  text.all isBlank

end Abacus.Text
