/-
Equations as choices.

To make an equation of numbers is to choose a gap for the equals sign, and for
every other gap one of the symbols, by its place among them.  Choices are ordered
by the gap of the equals sign, then by the places on the left, then by those on
the right, where places are compared gap by gap.
-/
import Abacus.Solver

namespace Abacus

/-- Numbers with symbols between them. -/
def sideText : List Int → List Symbol → String
  | [], _ => ""
  | first :: others, gaps => toString first ++ interleave gaps others

/-- The number has a sign that is read as an operator: literals have none. -/
def Config.readsSign (config : Config) (n : Int) : Bool :=
  decide (n < 0) && config.operators.contains Config.minus.1

/-- How many numbers stand before the equals sign, and which of `k` symbols fill
the gaps before and behind it. -/
structure Choice (k : Nat) where
  gap : Nat
  left : List (Fin k)
  right : List (Fin k)

namespace Choice

variable {k : Nat}

/-- There are numbers on both sides of the equals sign, and a place for every gap
between them. -/
structure Fits (c : Choice k) (count : Nat) : Prop where
  left : c.left.length + 1 = c.gap
  right : c.gap + (c.right.length + 1) = count

/-- The places come earlier: at the first gap where they differ, the place is smaller. -/
def Earlier : List (Fin k) → List (Fin k) → Prop :=
  List.Lex fun i j => i.val < j.val

def Before (c d : Choice k) : Prop :=
  c.gap < d.gap ∨ c.gap = d.gap ∧ (Earlier c.left d.left ∨ c.left = d.left ∧ Earlier c.right d.right)

end Choice

namespace Solver

/-- The two sides of a choice. -/
def lhs (s : Solver) (numbers : List Int) (c : Choice s.symbols.length) : String :=
  sideText (numbers.take c.gap) (c.left.map s.symbols.get)

def rhs (s : Solver) (numbers : List Int) (c : Choice s.symbols.length) : String :=
  sideText (numbers.drop c.gap) (c.right.map s.symbols.get)

/-- Both sides of the choice have a value. -/
def HasValues (s : Solver) (numbers : List Int) (c : Choice s.symbols.length) : Prop :=
  (∃ x, evaluate s.config (s.lhs numbers c) = .ok x) ∧ ∃ y, evaluate s.config (s.rhs numbers c) = .ok y

/-- The two sides of the choice have equal values. -/
structure IsEquation (s : Solver) (numbers : List Int) (c : Choice s.symbols.length) : Prop where
  fits : c.Fits numbers.length
  equal : ∃ x y, evaluate s.config (s.lhs numbers c) = .ok x ∧
    evaluate s.config (s.rhs numbers c) = .ok y ∧ (x == y) = true

/-- The choice is an equation, and every other one comes later. -/
structure IsFirst (s : Solver) (numbers : List Int) (c : Choice s.symbols.length) : Prop where
  equation : s.IsEquation numbers c
  first : ∀ d, s.IsEquation numbers d → d = c ∨ c.Before d

end Solver

end Abacus
