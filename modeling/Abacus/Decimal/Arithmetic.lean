/-
Arithmetic on doubles.

Division and powers never fail: where the real quotient or power is undefined
or out of range, the result is an infinity or not a number.  The remainders are
exact, and refuse a zero divisor.
-/
import Abacus.Decimal.Binary

namespace Abacus

/-- Why an operation refused its operands. -/
inductive Fault where
  | undefinedRemainder
  | zeroModulus
  | zeroDivisor
deriving DecidableEq, Repr

def Fault.message : Fault → String
  | undefinedRemainder => "math domain error"
  | zeroModulus => "float modulo"
  | zeroDivisor => "float division by zero"

/-- Division.  A zero divisor gives an infinity with the product of the signs,
or not a number when the dividend is zero or not a number itself. -/
def divide (a b : Float) : Float :=
  if b == 0.0 then
    if a == 0.0 || a.isNaN then notANumber
    else withSignOf infinity a * withSignOf 1.0 b
  else a / b

def isOddInteger (x : Float) : Bool :=
  let b := Binary.ofFloat x
  !x.isNaN && !x.isInf &&
    if 0 ≤ b.exponent then b.exponent == 0 && b.significand % 2 == 1
    else
      let unit := Nat.pow 2 (-b.exponent).toNat
      b.significand % unit == 0 && b.significand / unit % 2 == 1

/-- Exponentiation.  Any number to the power zero and one to any power is one.
An overflow gives an infinity, negative when a negative number is raised to an
odd integer; zero to a negative power gives positive infinity; a negative number
to a fractional power gives not a number. -/
def power (base exponent : Float) : Float :=
  if base.isNaN || exponent.isNaN || base.isInf || exponent.isInf then
    Float.pow base exponent
  else if base == 0.0 && exponent < 0.0 then infinity
  else
    let result := Float.pow base exponent
    if result.isNaN then notANumber
    else if result.isInf then
      if base < 0.0 && isOddInteger exponent then -infinity else infinity
    else result

/-- The remainder of two finite numbers, the divisor not zero, with the sign of
the dividend. -/
def exactRemainder (x y : Float) : Float :=
  let a := Binary.ofFloat x
  let b := Binary.ofFloat y
  let unit := min a.exponent b.exponent
  { negative := a.negative
    significand := a.significandAt unit % b.significandAt unit
    exponent := unit : Binary }.toFloat

/-- The remainder with the sign of the dividend.  A dividend without bound and a
zero divisor are refused, unless an operand is not a number. -/
def remainder (x y : Float) : Except Fault Float :=
  if x.isNaN || y.isNaN then .ok notANumber
  else if x.isInf || y == 0.0 then .error .undefinedRemainder
  else if y.isInf then .ok x
  else .ok (exactRemainder x y)

/-- The remainder with the sign of the divisor, also when it is zero.  A zero
divisor is refused. -/
def modulo (x y : Float) : Except Fault Float :=
  if y == 0.0 then .error .zeroModulus
  else if x.isNaN || y.isNaN || x.isInf then .ok notANumber
  else
    let r := if y.isInf then x else exactRemainder x y
    if r == 0.0 then .ok (withSignOf 0.0 y)
    else if (r < 0.0) != (y < 0.0) then .ok (r + y)
    else .ok r

/-- The quotient.  A zero divisor is refused. -/
def quotient (x y : Float) : Except Fault Float :=
  if y == 0.0 then .error .zeroDivisor else .ok (x / y)

end Abacus
