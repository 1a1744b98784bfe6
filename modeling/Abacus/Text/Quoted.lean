/-
Quoted text, as error messages show a character or a name.

The text stands between single quotes, or between double quotes when it holds
a single quote and no double one.  A backslash and the enclosing quote are
written after a backslash, line feed, carriage return and tab by their letter,
and every other unprintable character by its code point in the shortest of
two, four or eight hexadecimal digits.
-/
import Abacus.Text.Unprintable

namespace Abacus.Text

/-- The last `width` hexadecimal digits of a number, in lower case. -/
def hexDigits : Nat → Nat → List Char
  | 0, _ => []
  | width + 1, n => hexDigits width (n / 16) ++ [Nat.digitChar (n % 16)]

/-- A code point written by number: two, four or eight digits, whichever suffice first. -/
def escapedCode (n : Nat) : List Char :=
  if n < 0x100 then '\\' :: 'x' :: hexDigits 2 n
  else if n < 0x10000 then '\\' :: 'u' :: hexDigits 4 n
  else '\\' :: 'U' :: hexDigits 8 n

/-- One character of a text that is enclosed in `quote`. -/
def quotedChar (quote c : Char) : List Char :=
  if c = quote ∨ c = '\\' then ['\\', c]
  else if c = '\n' then ['\\', 'n']
  else if c = '\r' then ['\\', 'r']
  else if c = '\t' then ['\\', 't']
  else if isUnprintable c then escapedCode c.toNat
  else [c]

/-- The quote that encloses a text: double only to spare escaping single ones. -/
def enclosing (text : List Char) : Char :=
  if '\'' ∈ text ∧ '"' ∉ text then '"' else '\''

/-- The text between quotes. -/
def quoted (text : String) : String :=
  let quote := enclosing text.toList
  String.ofList (quote :: text.toList.flatMap (quotedChar quote) ++ [quote])

end Abacus.Text
