/-
Numbers that fields read from texts.

A field drops underscores before it reads a number, wherever they are, if each of them
stands alone between two other characters.  White space may surround a number, but not
a real number that has underscores.

An integer may have a plus sign, zeros in front, underscores among these, and a fraction
of zeros behind.  What is left of it then is a minus sign, if there is one, and digits,
and has no more characters than an integer may have digits.
-/
import Abacus.Decimal.Reader
import Abacus.Field.Issue
import Abacus.Text.Pieces

namespace Abacus

open Abacus.Text

/-- The text without its underscores, if each stands alone between two other characters. -/
def ungroup? (text : List Char) : Option (List Char) :=
  let groups := pieces '_' text
  if groups.any List.isEmpty then none else some groups.flatten

/-! ## Real numbers -/

def readUngrouped? (text : List Char) : Option Float :=
  if text.contains '_' then none else readSigned? text

/-- The double that a field reads from a text. -/
def readReal? (text : List Char) : Option Float :=
  (readUngrouped? (trim isSpace text)).or ((ungroup? text).bind readUngrouped?)

/-! ## Integers -/

/-- A minus sign at the front, if there is one, and the digits behind it. -/
def leadingInteger (text : List Char) : List Char × List Char :=
  match text with
  | '-' :: rest => (['-'], rest.takeWhile Char.isDigit)
  | _ => ([], text.takeWhile Char.isDigit)

/-- The integer that a text is, written with no zero in front and not too long. -/
def readShortest? (text : List Char) : Option Int :=
  let (sign, digits) := leadingInteger text
  if digits.isEmpty || sign ++ digits ≠ text || digitLimit < text.length then none
  else if digits.head? = some '0' ∧ digits ≠ ['0'] then none
  else some (signedValue (!sign.isEmpty) digits)

/-- The text begins with an integer that is too long, and not with a zero. -/
def beginsTooLong (text : List Char) : Bool :=
  let (sign, digits) := leadingInteger text
  digits.head? ≠ some '0' && digitLimit < (sign ++ digits).length

/-- What is left behind zeros, of which the last one stays in front of a point or at the
end.  A minus sign may follow them.  `last` is the character in front. -/
def dropZeros? (last : Char) : List Char → Option (List Char)
  | [] => some [last]
  | c :: rest =>
    if c = '0' || c = '_' then dropZeros? c rest
    else if c = '.' then some (last :: c :: rest)
    else if c.isDigit || c = '-' then some (c :: rest)
    else none

/-- The text from the first digit that counts. -/
def significant? : List Char → Option (List Char)
  | [] => none
  | c :: rest =>
    if c = '0' then dropZeros? c rest
    else if c.isDigit then some (c :: rest)
    else none

/-- The text in front of its first point, if at least one zero and nothing else is behind. -/
def dropFraction (text : List Char) : List Char :=
  match text.dropWhile (· ≠ '.') with
  | '.' :: '0' :: zeros => if zeros.all (· = '0') then text.takeWhile (· ≠ '.') else text
  | _ => text

/-- An integer without all that does not count. -/
def shorten? (text : List Char) : Option (List Char) :=
  let (negative, magnitude) := readSign (trim isSpace text)
  (significant? magnitude).map fun digits =>
    let kept := dropFraction digits
    let signed := if negative then '-' :: kept else kept
    (ungroup? signed).getD signed

/-- The integer that a field reads from a text. -/
def readInteger (text : List Char) : Checked Int :=
  if beginsTooLong text then .refuse .oversizedInteger
  else
    match (shorten? text).bind readShortest? with
    | some n => .ok n
    | none => .refuse .unreadableInteger

end Abacus
