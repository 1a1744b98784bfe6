/-
# Which tokens are built into a tree

The builder takes tokens from the end and never asks what stands next to what.
Read from the beginning, what it asks is a count: an operand holds one value
more, an operator needs two and leaves one in their place (`Token.height`).

    (∃ t, build tokens = .ok t)  ↔  Token.OneValue tokens

A count that does not run short puts trees together on a stack
(`forest_of_height`), and at one value the stack is a single tree.
-/
import Abacus.Proofs.Tree.Postorder

namespace Abacus

namespace Token

/-- How many values are held after tokens in which every operator follows its
operands, when some are held before; none if an operator finds fewer than two. -/
def height (held : Nat) : List Token → Option Nat
  | [] => some held
  | .operand _ :: tokens => height (held + 1) tokens
  | .operator _ :: tokens =>
    match held with
    | held + 2 => height (held + 1) tokens
    | _ => none
  | _ :: _ => none

/-- Every operator finds two values, and one value is left in the end. -/
def OneValue (tokens : List Token) : Prop :=
  height 0 tokens = some 1

instance (tokens : List Token) : Decidable (OneValue tokens) :=
  inferInstanceAs (Decidable (height 0 tokens = some 1))

end Token

/-- A tree holds one value more, whatever comes after it. -/
theorem Tree.height_tokens (t : Tree) (held : Nat) (rest : List Token) :
    Token.height held (t.tokens ++ rest) = Token.height (held + 1) rest := by
  induction t generalizing held rest with
  | leaf o => rw [tokens_leaf, List.singleton_append, Token.height]
  | branch s l r ihl ihr =>
    rw [tokens_branch, List.append_assoc, List.append_assoc, ihl, ihr, List.singleton_append, Token.height]

/-- Tokens on which the count does not run short put trees on a stack of trees. -/
theorem forest_of_height (stack : List Tree) {tokens : List Token} {held : Nat}
    (h : Token.height stack.length tokens = some held) :
    ∃ trees : List Tree, trees.length = held ∧
      trees.reverse.flatMap Tree.tokens = stack.reverse.flatMap Tree.tokens ++ tokens := by
  induction tokens generalizing stack with
  | nil =>
    rw [Token.height, Option.some.injEq] at h
    exact ⟨stack, h, by simp⟩
  | cons token tokens ih =>
    cases token with
    | operand o =>
      obtain ⟨trees, length, same⟩ := ih (.leaf o :: stack) h
      exact ⟨trees, length, by simp [same]⟩
    | operator s =>
      match stack, h with
      | right :: left :: stack, h =>
        obtain ⟨trees, length, same⟩ := ih (.branch s left right :: stack) h
        exact ⟨trees, length, by simp [same]⟩
    | opening => cases h
    | closing => cases h

theorem exists_build_iff (tokens : List Token) : (∃ t, build tokens = .ok t) ↔ Token.OneValue tokens := by
  constructor
  · rintro ⟨t, built⟩
    have counted := t.height_tokens 0 []
    rwa [List.append_nil, ← tokens_of_build built] at counted
  · intro one
    obtain ⟨trees, length, same⟩ := forest_of_height [] one
    obtain ⟨t, rfl⟩ := List.length_eq_one_iff.mp length
    refine ⟨t, build_eq_ok_iff.mpr ?_⟩
    simpa using same.symm

end Abacus
