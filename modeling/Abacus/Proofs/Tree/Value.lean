/-
# Running a tree is evaluating it by recursion

The stack machine runs the tokens of a tree from left to right; `Tree.meaning`
evaluates the left subtree, then the right one, and then calls the operator.  The
two make the same calls and end with the same value or the same error:

    t.run config = t.meaning config

The induction is on the tree, and its statement (`execute_tokens`) is about the
tokens of the tree in front of other tokens and on top of other values: a run
over them goes on with the value of the tree on top of the stack, or ends where
the tree has none.
-/
import Abacus.Proofs.Tree.Postorder

namespace Abacus

namespace Run

theorem andThen_assoc (run : Run) (f g : Float → Run) :
    (run.andThen f).andThen g = run.andThen fun value => (f value).andThen g := by
  obtain ⟨calls, result⟩ := run
  cases result with
  | error e => rfl
  | ok value => cases h : (f value).result <;> simp [andThen, h]

theorem andThen_stop (run : Run) : (run.andThen fun value => stop (.ok value)) = run := by
  obtain ⟨calls, result⟩ := run
  cases result with
  | error e => rfl
  | ok value => simp [andThen, stop]

theorem stop_andThen (value : Float) (next : Float → Run) :
    (stop (.ok value)).andThen next = next value := rfl

end Run

theorem execute_operator (config : Config) (s : Symbol) (left right : Float) (stack : List Float)
    (rest : List Token) :
    execute config (right :: left :: stack) (.operator s :: rest) =
      (Tree.callOf config s left right).andThen fun value => execute config (value :: stack) rest := by
  rw [execute, Tree.callOf]
  cases config.operators.find? s with
  | none => rfl
  | some op =>
    dsimp only
    cases op.operation.apply left right <;> rfl

/-- A run over the tokens of a tree goes on with the value of the tree. -/
theorem execute_tokens (config : Config) (t : Tree) (stack : List Float) (rest : List Token) :
    execute config stack (t.tokens ++ rest) =
      (t.meaning config).andThen fun value => execute config (value :: stack) rest := by
  induction t generalizing stack rest with
  | leaf o =>
    rw [Tree.tokens_leaf, List.singleton_append, execute, Tree.meaning, Run.stop_andThen]
  | branch s l r ihl ihr =>
    simp only [Tree.tokens_branch, List.append_assoc, ihl, ihr, List.singleton_append,
      execute_operator, Tree.meaning, Run.andThen_assoc]

namespace Tree

theorem run_eq_meaning (config : Config) (t : Tree) : t.run config = t.meaning config := by
  have ran := execute_tokens config t [] []
  rw [List.append_nil] at ran
  rw [run, ran]
  exact Run.andThen_stop _

theorem evaluate_leaf (config : Config) (o : Operand) :
    (leaf o).evaluate config = .ok (config.valueOf o) := by
  rw [evaluate, run_eq_meaning]
  rfl

/-- Both subtrees have their values before the operator is looked up. -/
theorem evaluate_branch (config : Config) (s : Symbol) (l r : Tree) :
    (branch s l r).evaluate config =
      match l.evaluate config, r.evaluate config with
      | .error e, _ => .error e
      | .ok _, .error e => .error e
      | .ok a, .ok b => (callOf config s a b).result := by
  simp only [evaluate, run_eq_meaning, meaning, Run.andThen]
  cases (l.meaning config).result with
  | error e => rfl
  | ok a => cases (r.meaning config).result <;> rfl

end Tree

end Abacus
