/-
Evaluating a tree.

The tokens of the tree are run on a stack machine: an operand puts its value on
the stack, and an operator takes two values off, calls its function on them and
puts the result back.  Both operands of an operator are thus evaluated before
the operator is looked up, the left one first.  A run reports the calls it made,
the last of which may be the one that was refused.
-/
import Abacus.Config
import Abacus.Tree.Walk

namespace Abacus

structure Call where
  symbol : Symbol
  left : Float
  right : Float

inductive RunError where
  | unregistered (symbol : Symbol)
  | exhausted
  | fault (fault : Fault)
deriving DecidableEq

/-- What a run gives: the calls it made, in order, and its value. -/
structure Run where
  calls : List Call
  result : Except RunError Float

namespace Run

/-- A run that ends at once. -/
def stop (result : Except RunError Float) : Run := ⟨[], result⟩

/-- A run after one more call in front. -/
def after (call : Call) (run : Run) : Run := ⟨call :: run.calls, run.result⟩

end Run

/-- Runs tokens on a stack of values; what is on top at the end is the value. -/
def execute (config : Config) (stack : List Float) : List Token → Run
  | [] =>
    match stack with
    | value :: _ => .stop (.ok value)
    | [] => .stop (.error .exhausted)
  | .operand o :: rest => execute config (config.valueOf o :: stack) rest
  | .operator s :: rest =>
    match stack with
    | right :: left :: stack =>
      match config.operators.find? s with
      | none => .stop (.error (.unregistered s))
      | some op =>
        .after ⟨s, left, right⟩ <|
          match op.operation.apply left right with
          | .error fault => .stop (.error (.fault fault))
          | .ok value => execute config (value :: stack) rest
    | _ => .stop (.error .exhausted)
  | _ :: _ => .stop (.error .exhausted)

def Tree.run (config : Config) (t : Tree) : Run :=
  execute config [] t.tokens

def Tree.evaluate (config : Config) (t : Tree) : Except RunError Float :=
  (t.run config).result

end Abacus
