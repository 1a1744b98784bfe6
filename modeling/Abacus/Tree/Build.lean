/-
Building a tree from tokens in which every operator follows its operands.

The tokens are taken from the end.  An operator opens a frame that waits for its
right operand and then for its left one; an operand, or an operator whose frame
is complete, fills the innermost frame.  The tree is done when no frame is left;
tokens that then remain in front of it belong to nothing.
-/
import Abacus.Tree

namespace Abacus

open Abacus.Text

/-- An operator that waits for operands. -/
inductive Frame where
  | both (symbol : Symbol)
  | left (symbol : Symbol) (right : Tree)
deriving DecidableEq

inductive Malformed where
  | empty
  | parenthesis (token : Token)
  | missingOperand
  | leftover (tokens : List Token)
deriving DecidableEq

def Malformed.message : Malformed → String
  | empty => "Empty expression"
  | parenthesis t => s!"Unexpected parenthesis in postfix sequence: {quoted t.text}"
  | missingOperand => "Invalid expression (not enough operands)"
  | leftover tokens => s!"Invalid expression (remaining operands): {Token.joined tokens}"

/-- A tree and what lies around it: it is whole, or fills the innermost frame. -/
def settle (t : Tree) : List Frame → Tree ⊕ List Frame
  | [] => .inl t
  | .both s :: frames => .inr (.left s t :: frames)
  | .left s r :: frames => settle (.branch s t r) frames

/-- The tree that completes the frames, read from tokens in reverse, and the
tokens in front of it. -/
def grow (frames : List Frame) : List Token → Except Malformed (Tree × List Token)
  | [] => .error .missingOperand
  | .operator s :: before => grow (.both s :: frames) before
  | .operand o :: before =>
    match settle (.leaf o) frames with
    | .inl t => .ok (t, before)
    | .inr frames => grow frames before
  | token :: _ => .error (.parenthesis token)

/-- The tree of tokens in which every operator follows its operands. -/
def build (tokens : List Token) : Except Malformed Tree :=
  if tokens.isEmpty then .error .empty
  else
    match grow [] tokens.reverse with
    | .error e => .error e
    | .ok (t, []) => .ok t
    | .ok (_, before) => .error (.leftover before.reverse)

end Abacus
