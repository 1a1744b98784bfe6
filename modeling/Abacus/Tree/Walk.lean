/-
Walking a tree, children before parents and left before right.

The walk keeps its own stack of what is still to be visited, so that a deep tree
needs no deep recursion.  A node comes onto the stack twice: first to be opened
into its children and itself, then to be visited.
-/
import Abacus.Tree

namespace Abacus

namespace Tree

/-- A node on the stack of a walk, and whether its children are already there. -/
structure Stop where
  node : Tree
  opened : Bool

/-- The work that a stop still asks for. -/
def Stop.work (stop : Stop) : Nat :=
  if stop.opened then 1 else 2 * stop.node.size

/-- The work on a whole stack. -/
def workOn : List Stop → Nat
  | [] => 0
  | stop :: stack => stop.work + workOn stack

/-- The nodes that a walk with the given stack visits. -/
def walkFrom (stack : List Stop) : List Tree :=
  match stack with
  | [] => []
  | ⟨leaf o, _⟩ :: stack => leaf o :: walkFrom stack
  | ⟨branch s l r, true⟩ :: stack => branch s l r :: walkFrom stack
  | ⟨branch s l r, false⟩ :: stack => walkFrom (⟨l, false⟩ :: ⟨r, false⟩ :: ⟨branch s l r, true⟩ :: stack)
termination_by workOn stack
decreasing_by
  · simp only [workOn, Stop.work, size]
    split <;> omega
  · simp only [workOn, Stop.work, if_true]
    omega
  · simp only [workOn, Stop.work, if_true, Bool.false_eq_true,
      if_false, size]
    omega

/-- All nodes of a tree, children before parents and left before right. -/
def walk (t : Tree) : List Tree :=
  walkFrom [⟨t, false⟩]

/-- The tokens of a tree, with every operator after its operands. -/
def tokens (t : Tree) : List Token :=
  t.walk.map root

/-! ## The printed form

A branch is printed between parentheses, with a space on both sides of its
symbol.  The parts are put together on a stack during a walk. -/

/-- Puts the parts of a printed tree together; it fails where an operator finds
fewer than two parts. -/
def printParts (parts : List String) : List Tree → Option (List String)
  | [] => some parts
  | leaf o :: rest => printParts (o.text :: parts) rest
  | branch s _ _ :: rest =>
    match parts with
    | right :: left :: parts => printParts (s!"({left} {s.text} {right})" :: parts) rest
    | _ => none

def text (t : Tree) : String :=
  match printParts [] t.walk with
  | some (whole :: _) => whole
  | _ => ""

end Tree

end Abacus
