/-
Numbers as text.

A double is written with its shortest decimal.  A decimal exponent from -4 to
15 is written positionally, with `.0` after a whole number; outside that range
the number has one digit before the point and an exponent with a sign and at
least two digits.
-/
import Abacus.Decimal.Shortest

namespace Abacus

def decimalDigits (n : Nat) : List Char :=
  (toString n).toList

/-- The digits with a point after the first `whole` of them; missing digits are
zeros, and neither side of the point is empty. -/
def positional (digits : List Char) (whole : Int) : List Char :=
  if whole ≤ 0 then
    '0' :: '.' :: List.replicate (-whole).toNat '0' ++ digits
  else
    let n := whole.toNat
    if digits.length ≤ n then
      digits ++ List.replicate (n - digits.length) '0' ++ ['.', '0']
    else
      digits.take n ++ '.' :: digits.drop n

/-- One digit, the other digits after a point, and the exponent. -/
def exponential (digits : List Char) (exponent : Int) : List Char :=
  let fraction := match digits.drop 1 with
    | [] => []
    | rest => '.' :: rest
  let power := decimalDigits exponent.natAbs
  let padded := if power.length < 2 then '0' :: power else power
  digits.take 1 ++ fraction ++ 'e' :: (if exponent < 0 then '-' else '+') :: padded

def DecimalForm.text (d : DecimalForm) : List Char :=
  let digits := decimalDigits d.digits
  let exponent := d.exponent + digits.length - 1
  if -4 ≤ exponent ∧ exponent < 16 then positional digits (exponent + 1)
  else exponential digits exponent

def writeFloat (x : Float) : String :=
  if x.isNaN then "nan"
  else
    let sign := if signBit x then ['-'] else []
    let magnitude :=
      if x.isInf then ['i', 'n', 'f']
      else
        let b := Binary.ofFloat x
        if b.significand = 0 then ['0', '.', '0'] else (shortest b).text
    String.ofList (sign ++ magnitude)

end Abacus
