/-
# Grafting: a tree in the place of an operand

`graft o sub` puts the tree `sub` in the place of every leaf `o`.  On tokens the
same is done by `Token.replace`, with the tokens of `sub` in the place of the
token `o`.

Building does not tell a subtree from a leaf: it reads the replaced tokens if and
only if it reads the tokens themselves, and then the tree is the grafted one
(`build_replace`).  That holds of all tokens, also where they are no tree; the
two runs are in step because the tokens of `sub` do to every frame what a leaf
does (`grow_tokens`).  Nor does evaluation, where the operand has the value of
the tree that takes its place (`Tree.evaluate_graft`).
-/
import Abacus.Proofs.Tree.Value

namespace Abacus

namespace Token

/-- The tokens with others in the place of an operand. -/
def replace (o : Operand) (others tokens : List Token) : List Token :=
  tokens.flatMap fun t => if t = .operand o then others else [t]

variable {o : Operand} {others tokens : List Token}

@[simp] theorem replace_nil : replace o others [] = [] := rfl

@[simp] theorem replace_cons_self :
    replace o others (.operand o :: tokens) = others ++ replace o others tokens := by
  simp [replace]

theorem replace_cons_of_ne {t : Token} (h : t ≠ .operand o) :
    replace o others (t :: tokens) = t :: replace o others tokens := by
  simp [replace, h]

theorem replace_append (front back : List Token) :
    replace o others (front ++ back) = replace o others front ++ replace o others back :=
  List.flatMap_append

theorem replace_of_notMem (h : .operand o ∉ tokens) : replace o others tokens = tokens := by
  induction tokens with
  | nil => rfl
  | cons t tokens ih =>
    rw [List.mem_cons, not_or] at h
    rw [replace_cons_of_ne (Ne.symm h.1), ih h.2]

theorem reverse_replace (tokens : List Token) :
    (replace o others tokens).reverse = replace o others.reverse tokens.reverse := by
  rw [replace, replace, List.reverse_flatMap]
  congr 1
  funext t
  rw [Function.comp_apply]
  split <;> rfl

theorem replace_eq_nil_iff (filled : others ≠ []) : replace o others tokens = [] ↔ tokens = [] := by
  cases tokens with
  | nil => simp
  | cons t tokens =>
    by_cases h : t = .operand o
    · subst h
      simp [filled]
    · simp [replace_cons_of_ne h]

end Token

open Token (replace)

/-- The tree with another in the place of an operand. -/
def Tree.graft (t : Tree) (o : Operand) (sub : Tree) : Tree :=
  match t with
  | leaf p => if p = o then sub else leaf p
  | branch s l r => branch s (l.graft o sub) (r.graft o sub)

def Frame.graft (frame : Frame) (o : Operand) (sub : Tree) : Frame :=
  match frame with
  | both s => both s
  | left s r => left s (r.graft o sub)

variable {o : Operand} {sub : Tree}

theorem Tree.graft_leaf_self : (leaf o).graft o sub = sub := if_pos rfl

theorem Tree.graft_leaf_of_ne {p : Operand} (h : p ≠ o) : (leaf p).graft o sub = leaf p := if_neg h

/-! ## Building -/

theorem settle_graft (t : Tree) (frames : List Frame) :
    settle (t.graft o sub) (frames.map (·.graft o sub)) =
      (settle t frames).map (·.graft o sub) (List.map (·.graft o sub)) := by
  fun_induction settle t frames with
  | case1 t => rfl
  | case2 t s frames => rfl
  | case3 t s r frames ih => exact ih

/-- Over replaced tokens and inside grafted frames, the grafted tree grows. -/
theorem grow_replace (frames : List Frame) (reversed : List Token) :
    grow (frames.map (·.graft o sub)) (replace o sub.tokens.reverse reversed) =
      (grow frames reversed).map fun (t, before) =>
        (t.graft o sub, replace o sub.tokens.reverse before) := by
  induction reversed generalizing frames with
  | nil => rfl
  | cons token reversed ih =>
    cases token with
    | operator s =>
      rw [Token.replace_cons_of_ne (by simp), grow, grow]
      exact ih (.both s :: frames)
    | opening => rfl
    | closing => rfl
    | operand p =>
      -- in either case a grafted leaf settles into the grafted frames
      have grown : grow (frames.map (·.graft o sub))
          (replace o sub.tokens.reverse (.operand p :: reversed)) =
          growOn (replace o sub.tokens.reverse reversed)
            (settle ((Tree.leaf p).graft o sub) (frames.map (·.graft o sub))) := by
        by_cases h : p = o
        · subst h
          rw [Token.replace_cons_self, Tree.graft_leaf_self]
          exact grow_tokens sub _ _
        · rw [Token.replace_cons_of_ne (by simpa using h), Tree.graft_leaf_of_ne h]
          exact grow_operand p _ _
      rw [grown, settle_graft, grow_operand]
      cases settle (.leaf p) frames with
      | inl whole => rfl
      | inr filled => exact ih filled

theorem build_replace (o : Operand) (sub : Tree) (tokens : List Token) :
    (∀ t, build tokens = .ok t → build (replace o sub.tokens tokens) = .ok (t.graft o sub)) ∧
      ∀ e, build tokens = .error e → ∃ e', build (replace o sub.tokens tokens) = .error e' := by
  by_cases empty : tokens = []
  · subst empty
    exact ⟨fun t h => (by cases h), fun e h => ⟨e, h⟩⟩
  · have replaced : replace o sub.tokens tokens ≠ [] := by
      rwa [Ne, Token.replace_eq_nil_iff sub.tokens_ne_nil]
    have grown := @grow_replace o sub [] tokens.reverse
    rw [← Token.reverse_replace, List.map_nil] at grown
    simp only [build, List.isEmpty_iff, empty, replaced, if_false, grown]
    cases grow [] tokens.reverse with
    | error e => exact ⟨fun t h => (by cases h), fun _ _ => ⟨e, rfl⟩⟩
    | ok result =>
      obtain ⟨t, before⟩ := result
      cases before with
      | nil =>
        refine ⟨fun u h => ?_, fun e h => (by cases h)⟩
        cases h
        rfl
      | cons token before =>
        refine ⟨fun u h => (by cases h), fun e h => ?_⟩
        have left : replace o sub.tokens.reverse (token :: before) ≠ [] := by
          rw [Ne, Token.replace_eq_nil_iff (by simpa using sub.tokens_ne_nil)]
          exact List.cons_ne_nil _ _
        obtain ⟨first, rest, remains⟩ := List.exists_cons_of_ne_nil left
        refine ⟨.leftover (first :: rest).reverse, ?_⟩
        simp only [Except.map, remains]

/-! ## Evaluating -/

/-- A grafted tree has the value of the tree itself, where the operand has the
value of the tree that took its place. -/
theorem Tree.evaluate_graft {config bound : Config} {value : Float}
    (sub_value : sub.evaluate config = .ok value) (here : bound.valueOf o = value)
    (elsewhere : ∀ p, p ≠ o → bound.valueOf p = config.valueOf p)
    (operators : bound.operators = config.operators) (t : Tree) :
    (t.graft o sub).evaluate config = t.evaluate bound := by
  induction t with
  | leaf p =>
    by_cases h : p = o
    · subst h
      rw [graft_leaf_self, sub_value, evaluate_leaf, here]
    · rw [graft_leaf_of_ne h, evaluate_leaf, evaluate_leaf, elsewhere p h]
  | branch s l r ihl ihr =>
    rw [graft, evaluate_branch, evaluate_branch, ihl, ihr]
    simp only [callOf, operators]

end Abacus
