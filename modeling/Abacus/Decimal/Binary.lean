/-
A finite double as the exact number it stands for: a sign, a significand and a
power of two.

Everything that has to be exact about doubles, such as their shortest decimal
form and their remainders, is computed on these integers.
-/

namespace Abacus

/-- The number `± significand * 2 ^ exponent`. -/
structure Binary where
  negative : Bool
  significand : Nat
  exponent : Int
deriving DecidableEq, Repr

namespace Binary

/-- The bit of the significand that normal doubles leave out. -/
def hiddenBit : Nat := Nat.pow 2 52

/-- The exponent of the smallest doubles. -/
def leastExponent : Int := -1074

/-- The number that the bits of a finite double stand for. -/
def ofBits (bits : Nat) : Binary :=
  let biased : Nat := bits / hiddenBit % Nat.pow 2 11
  let fraction : Nat := bits % hiddenBit
  { negative := decide (Nat.pow 2 63 ≤ bits)
    significand := if biased = 0 then fraction else hiddenBit + fraction
    exponent := if biased = 0 then leastExponent else leastExponent + (biased : Int) - 1 }

def ofFloat (x : Float) : Binary :=
  ofBits x.toBits.toNat

/-- The double nearest to the number; it is the number itself when that has a
significand of at most 53 bits and an exponent within range. -/
def toFloat (b : Binary) : Float :=
  let magnitude := (Float.ofNat b.significand).scaleB b.exponent
  if b.negative then -magnitude else magnitude

/-- The significand at an exponent that is no larger. -/
def significandAt (b : Binary) (exponent : Int) : Nat :=
  b.significand <<< (b.exponent - exponent).toNat

end Binary

/-- The double has its sign bit set, also as a zero or not a number. -/
def signBit (x : Float) : Bool :=
  (Binary.ofBits x.toBits.toNat).negative

def withSignOf (x sign : Float) : Float :=
  if signBit x == signBit sign then x else -x

def infinity : Float := 1.0 / 0.0

def notANumber : Float := 0.0 / 0.0

end Abacus
