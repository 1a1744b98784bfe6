/-
What a tree is, said by recursion: its nodes in order, its text and its value.

The walk, the printer and the stack machine do their work with stacks of their
own.  The definitions here say the same by recursion on the tree, one subtree
after the other, and are what the others are measured by.
-/
import Abacus.Tree.Evaluate

namespace Abacus

namespace Run

/-- A run that goes on with its value, unless it ended without one. -/
def andThen (run : Run) (next : Float → Run) : Run :=
  match run.result with
  | .error e => ⟨run.calls, .error e⟩
  | .ok value => ⟨run.calls ++ (next value).calls, (next value).result⟩

end Run

namespace Tree

/-- The nodes of a tree: those of the left subtree, those of the right one, and
the root. -/
def nodes : Tree → List Tree
  | leaf o => [leaf o]
  | branch s l r => l.nodes ++ r.nodes ++ [branch s l r]

/-- The tokens of a tree, every operator after those of its two operands. -/
def postorder (t : Tree) : List Token :=
  t.nodes.map root

/-- The text of a tree: an operand as it is, and an operation between parentheses. -/
def rendering : Tree → String
  | leaf o => o.text
  | branch s l r => s!"({l.rendering} {s.text} {r.rendering})"

/-- The call of an operator on two values. -/
def callOf (config : Config) (s : Symbol) (left right : Float) : Run :=
  match config.operators.find? s with
  | none => .stop (.error (.unregistered s))
  | some op => .after ⟨s, left, right⟩ (.stop ((op.operation.apply left right).mapError .fault))

/-- The value of a tree: that of the left subtree, then that of the right one,
and then what the operator makes of the two. -/
def meaning (config : Config) : Tree → Run
  | leaf o => .stop (.ok (config.valueOf o))
  | branch s l r =>
    (l.meaning config).andThen fun a => (r.meaning config).andThen fun b => callOf config s a b

/-! ## The walk visits the nodes -/

theorem walkFrom_cons (t : Tree) (stack : List Stop) :
    walkFrom (⟨t, false⟩ :: stack) = t.nodes ++ walkFrom stack := by
  induction t generalizing stack with
  | leaf o => simp [walkFrom, nodes]
  | branch s l r ihl ihr =>
    rw [walkFrom, ihl, ihr, walkFrom]
    simp [nodes]

/-- A walk visits every node once, children before parents and left before right. -/
theorem walk_eq_nodes (t : Tree) : t.walk = t.nodes := by
  rw [walk, walkFrom_cons, walkFrom, List.append_nil]

end Tree

end Abacus
