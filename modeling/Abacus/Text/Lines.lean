/-
The lines of a text.

Ten characters end a line, and a carriage return followed by a line feed
counts as one break.  A text that ends in a break has no empty line after it.
-/
import Abacus.Text.Blank
import Abacus.Text.Pieces

namespace Abacus.Text

/-- The characters that end a line. -/
def lineBreaks : List Char :=
  ['\n', '\r', '\x0b', '\x0c', '\x1c', '\x1d', '\x1e', '\u0085', '\u2028', '\u2029']

def isLineBreak (c : Char) : Bool :=
  lineBreaks.contains c

/-- The lines of a text, without their breaks. -/
def lines : List Char → List (List Char)
  | [] => []
  | '\r' :: '\n' :: rest => [] :: lines rest
  | c :: rest => if isLineBreak c then [] :: lines rest else prependToFirst c (lines rest)

/-- Every carriage return, with the line feed after it if there is one, becomes a line feed. -/
def unifyBreaks : List Char → List Char
  | [] => []
  | '\r' :: '\n' :: rest => '\n' :: unifyBreaks rest
  | c :: rest => (if c = '\r' then '\n' else c) :: unifyBreaks rest

/-- The lines that are not blank, without the blanks at their ends. -/
def filledLines (text : List Char) : List (List Char) :=
  ((lines text).filter fun line => !isBlankText line).map strip

end Abacus.Text
