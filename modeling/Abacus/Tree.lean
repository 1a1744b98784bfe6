/-
Expression trees.

A leaf is an operand and a branch is an operator with two subtrees.  A tree
given in loose parts, where any token may come with any children, is accepted
when it has that shape.
-/
import Abacus.Text.Quoted
import Abacus.Token

namespace Abacus

open Abacus.Text

inductive Tree where
  | leaf (operand : Operand)
  | branch (symbol : Symbol) (left right : Tree)
deriving DecidableEq

namespace Tree

def root : Tree → Token
  | leaf o => .operand o
  | branch s _ _ => .operator s

def size : Tree → Nat
  | leaf _ => 1
  | branch _ l r => l.size + r.size + 1

def isLeaf : Tree → Bool
  | leaf _ => true
  | branch _ _ _ => false

/-- Why a token and its children are no tree. -/
inductive ShapeError where
  | parenthesis
  | lacksOperands (symbol : Symbol)
  | leafWithChildren (operand : Operand)
deriving DecidableEq

def ShapeError.message : ShapeError → String
  | parenthesis => "Parentheses cannot appear in an expression tree"
  | lacksOperands s => s!"Operator {quoted s.text} needs two operands"
  | leafWithChildren o => s!"Leaf {o.text} cannot have children"

/-- The tree with the given root and children. -/
def ofParts (left right : Option Tree) : Token → Except ShapeError Tree
  | .opening => .error .parenthesis
  | .closing => .error .parenthesis
  | .operator s =>
    match left, right with
    | some l, some r => .ok (branch s l r)
    | _, _ => .error (.lacksOperands s)
  | .operand o =>
    match left, right with
    | none, none => .ok (leaf o)
    | _, _ => .error (.leafWithChildren o)

end Tree

end Abacus
