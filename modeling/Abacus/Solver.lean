/-
Equations made by putting operators between numbers.

The numbers keep their order.  One gap gets the equals sign and every other gap
one of the operators; the first choice whose two sides have the same value is
the answer.  Equals signs are tried from left to right, then left-hand sides,
then right-hand sides, each with its first gap changing slowest.

Numbers are written in full here.  What is said of searches is meant for numbers of at
most `digitLimit` digits, since longer ones are neither read nor written by the program.
-/
import Abacus.Expression

namespace Abacus

/-- Two expressions with the same value. -/
structure Equation where
  lhs : String
  rhs : String
  value : Float

def Equation.text (e : Equation) : String :=
  s!"{e.lhs} = {e.rhs}"

/-- What is said when there is no equation. -/
def noEquation : String := "No equation possible."

/-- A search for equations: the operators to try, what they mean, and the most
numbers that are taken. -/
structure Solver where
  symbols : List Symbol
  config : Config
  limit : Nat
  symbols_ne : symbols ≠ []
  symbols_usable : ∀ s ∈ symbols, s.isUsable = true
  two_le_limit : 2 ≤ limit

inductive SolverError where
  | tooMany (limit count : Nat)
  | noNumbers
  | expression (cause : ExpressionError)

def SolverError.message : SolverError → String
  | tooMany limit count => s!"At most {limit} numbers are supported, got {count}"
  | noNumbers => "repeat argument cannot be negative"
  | expression cause => cause.message

/-- All ways to fill a number of gaps, the first gap changing slowest. -/
def fillings (symbols : List Symbol) : Nat → List (List Symbol)
  | 0 => [[]]
  | gaps + 1 => symbols.flatMap fun s => (fillings symbols gaps).map (s :: ·)

/-- Numbers with a symbol in front of each. -/
def interleave : List Symbol → List Int → String
  | s :: symbols, n :: numbers => s.text ++ toString n ++ interleave symbols numbers
  | _, _ => ""

/-- An expression that may become one side of an equation. -/
structure Candidate where
  text : String
  value : Except ExpressionError Float

namespace Solver

/-- The expressions that fill the gaps between a first number and the others. -/
def expressions (s : Solver) (first : Int) (others : List Int) : List String :=
  (fillings s.symbols others.length).map fun gaps => toString first ++ interleave gaps others

/-- The expressions between numbers, with their values. -/
def candidates (s : Solver) : List Int → Except SolverError (List Candidate)
  | [] => .error .noNumbers
  | first :: others =>
    .ok ((s.expressions first others).map fun text => ⟨text, evaluate s.config text⟩)

/-- The values of candidates, up to the first that has none. -/
def values : List Candidate → Except ExpressionError (List (Float × String))
  | [] => .ok []
  | c :: rest =>
    match c.value with
    | .error e => .error e
    | .ok x =>
      match values rest with
      | .error e => .error e
      | .ok others => .ok ((x, c.text) :: others)

/-- The first left-hand side that equals one of the right-hand sides. -/
def firstEqual (rights : List (Float × String)) : List Candidate → Except ExpressionError (Option Equation)
  | [] => .ok none
  | c :: rest =>
    match c.value with
    | .error e => .error e
    | .ok x =>
      match rights.find? fun right => x == right.1 with
      | some right => .ok (some ⟨c.text, right.2, x⟩)
      | none => firstEqual rights rest

/-- The first equation with the equals sign in a given gap. -/
def solveAt (s : Solver) (left right : List Int) : Except SolverError (Option Equation) := do
  let rights ← (values (← s.candidates right)).mapError .expression
  (firstEqual rights (← s.candidates left)).mapError .expression

/-- The first equation with the equals sign in one of the given gaps. -/
def solveAmong (s : Solver) (numbers : List Int) : List Nat → Except SolverError (Option Equation)
  | [] => .ok none
  | gap :: gaps =>
    match s.solveAt (numbers.take gap) (numbers.drop gap) with
    | .ok none => solveAmong s numbers gaps
    | found => found

/-- The places for the equals sign, each given by how many numbers stand before it. -/
def splits (count : Nat) : List Nat :=
  List.range' 1 (count - 1)

/-- The first equation between numbers, if there is one. -/
def solve (s : Solver) (numbers : List Int) : Except SolverError (Option Equation) :=
  if s.limit < numbers.length then .error (.tooMany s.limit numbers.length)
  else s.solveAmong numbers (splits numbers.length)

end Solver

end Abacus
