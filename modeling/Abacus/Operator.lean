/-
Operators: a binary function with a precedence and an associativity.

The function may refuse its operands.  It carries a name, by which a listing
of the operators shows it.
-/
import Abacus.Decimal.Arithmetic

namespace Abacus

/-- How operators of equal precedence group. -/
inductive Associativity where
  | left
  | right
deriving DecidableEq, Repr

def Associativity.name : Associativity → String
  | left => "left"
  | right => "right"

def Associativity.ofName? : String → Option Associativity
  | "left" => some left
  | "right" => some right
  | _ => none

/-- A named binary function on doubles. -/
structure Operation where
  name : String
  apply : Float → Float → Except Fault Float

namespace Operation

/-- The function that answers for all operands. -/
def total (name : String) (f : Float → Float → Float) : Operation :=
  ⟨name, fun a b => .ok (f a b)⟩

def sum : Operation := total "add" (· + ·)

def difference : Operation := total "sub" (· - ·)

def product : Operation := total "mul" (· * ·)

def division : Operation := total "div" divide

def exponentiation : Operation := total "pow" power

def firstOperand : Operation := total "left" fun a _ => a

def secondOperand : Operation := total "right" fun _ b => b

def truncatedRemainder : Operation := ⟨"fmod", remainder⟩

def flooredRemainder : Operation := ⟨"mod", modulo⟩

def strictDivision : Operation := ⟨"truediv", quotient⟩

/-- The functions that are known by name. -/
def known : List Operation :=
  [sum, difference, product, division, exponentiation, truncatedRemainder, flooredRemainder,
   strictDivision, firstOperand, secondOperand]

def named? (name : String) : Option Operation :=
  known.find? (·.name == name)

end Operation

/-- What a configuration knows of an operator symbol.  A higher precedence binds
tighter. -/
structure Operator where
  precedence : Nat
  associativity : Associativity
  operation : Operation

end Abacus
