/-
Numbers read from text.

Digits may be grouped by single underscores between two of them, and white
space may surround a number.  A real number is digits with an optional point
and an optional exponent, with at least one digit before the exponent, or the
name of an infinity or of not a number in any case; a sign may precede it.
Every text of that form has a value: one out of range is an infinity or zero.

The digits are ASCII.  `asciiDigits` first turns the decimal digits of every
script into them, for the places that accept those too.
-/
import Abacus.Decimal.Binary
import Abacus.Text.Blank
import Abacus.Text.Digit

namespace Abacus

open Abacus.Text

def digitOfValue (value : Nat) : Char :=
  Char.ofNat ('0'.toNat + value)

/-- The text with the decimal digits of every script turned into ASCII ones. -/
def asciiDigits (text : List Char) : List Char :=
  text.map fun c => ((digitValue? c).map digitOfValue).getD c

def digitsValue (digits : List Char) : Nat :=
  digits.foldl (fun n c => 10 * n + (c.toNat - '0'.toNat)) 0

def signedValue (negative : Bool) (digits : List Char) : Int :=
  if negative then -digitsValue digits else digitsValue digits

/-- A sign, if there is one, and what follows it. -/
def readSign : List Char → Bool × List Char
  | '-' :: rest => (true, rest)
  | '+' :: rest => (false, rest)
  | text => (false, text)

/-- The digits that continue a number, without the underscores between them, and
what follows. -/
def readMoreDigits : List Char → List Char × List Char
  | [] => ([], [])
  | '_' :: d :: rest =>
    if d.isDigit then
      let (digits, after) := readMoreDigits rest
      (d :: digits, after)
    else ([], '_' :: d :: rest)
  | c :: rest =>
    if c.isDigit then
      let (digits, after) := readMoreDigits rest
      (c :: digits, after)
    else ([], c :: rest)

/-- The digits at the front, without the underscores between them, and what follows. -/
def readDigits : List Char → List Char × List Char
  | [] => ([], [])
  | c :: rest =>
    if c.isDigit then
      let (digits, after) := readMoreDigits rest
      (c :: digits, after)
    else ([], c :: rest)

/-- The digits after a point, if there is one, and what follows. -/
def readFraction : List Char → List Char × List Char
  | '.' :: rest => readDigits rest
  | text => ([], text)

/-- The exponent at the end of a number; without one it is zero. -/
def readExponent? : List Char → Option Int
  | [] => some 0
  | e :: rest =>
    if e = 'e' ∨ e = 'E' then
      let (negative, power) := readSign rest
      match readDigits power with
      | (d :: digits, []) =>
        some (signedValue negative (d :: digits))
      | _ => none
    else none

/-- The double nearest to `digits * 10 ^ exponent`.  A number whose size alone
puts it out of range is not computed. -/
def roundDecimal (digits : List Char) (exponent : Int) : Float :=
  let significant := digits.dropWhile (· = '0')
  let size := exponent + significant.length
  if significant.isEmpty || size < -400 then 0.0
  else if 400 < size then infinity
  else Float.ofScientific (digitsValue significant) (decide (exponent < 0)) exponent.natAbs

def namedFloat? (word : List Char) : Option Float :=
  let word := String.ofList (word.map Char.toLower)
  if word = "inf" || word = "infinity" then some infinity
  else if word = "nan" then some notANumber
  else none

/-- The double that a text without a sign stands for. -/
def readMagnitude? (text : List Char) : Option Float :=
  match namedFloat? text with
  | some x => some x
  | none =>
    let (whole, rest) := readDigits text
    let (fraction, rest) := readFraction rest
    if whole.isEmpty && fraction.isEmpty then none
    else
      (readExponent? rest).map fun e =>
        roundDecimal (whole ++ fraction) (e - fraction.length)

/-- The double that a text without white space around it stands for. -/
def readSigned? (text : List Char) : Option Float :=
  let (negative, rest) := readSign text
  (readMagnitude? rest).map fun x => if negative then -x else x

/-- The double that a text stands for. -/
def readFloat? (text : List Char) : Option Float :=
  readSigned? (trim isSpace text)

def readInt? (text : List Char) : Option Int :=
  let (negative, rest) := readSign (trim isSpace text)
  match readDigits rest with
  | (d :: digits, []) => some (signedValue negative (d :: digits))
  | _ => none

/-! ## Length limit

An integer of more than `digitLimit` digits is not read. -/

/-- The most digits that an integer may have. -/
def digitLimit : Nat := 4300

structure TooManyDigits where
  count : Nat
deriving DecidableEq, Repr

def TooManyDigits.message (e : TooManyDigits) : String :=
  s!"Exceeds the limit ({digitLimit} digits) for integer string conversion: value has "
    ++ s!"{e.count} digits; use sys.set_int_max_str_digits() to increase the limit"

/-- The value of ASCII digits, if they are not too many; leading zeros count. -/
def readNatural (digits : List Char) : Except TooManyDigits Nat :=
  if digitLimit < digits.length then .error ⟨digits.length⟩ else .ok (digitsValue digits)

end Abacus
