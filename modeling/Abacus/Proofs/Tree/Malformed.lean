/-
# What is wrong with tokens that are no tree

Tokens that are no tree are malformed for one reason.  Which one it is can be told
from the tokens alone, by the first row that applies (`Malformed.Describes`):

| the tokens | the error |
| :-- | :-- |
| are none at all | `empty` |
| end in the tokens of a tree | `leftover`, with the tokens in front of these |
| have a parenthesis | `parenthesis`, with the last one |
| are anything else | `missingOperand` |

The builder comes to the second row without looking for it.  It reads from the end
and stops as soon as nothing is open; and no tokens end in those of two trees
(`ends_unique`), so the tree it stops at is the only one there is.  Where it does
not stop, it reads on to the last parenthesis or, if there is none, to the
beginning, whatever frames are open by then (`error_of_grow`).
-/
import Abacus.Proofs.Tree.Postorder
import Mathlib.Logic.ExistsUnique

namespace Abacus

/-- The error is what is wrong with the tokens. -/
inductive Malformed.Describes (tokens : List Token) : Malformed → Prop
  | empty : tokens = [] → Describes tokens .empty
  | leftover {before : List Token} {t : Tree} :
      before ≠ [] → tokens = before ++ t.postorder → Describes tokens (.leftover before)
  | parenthesis {token : Token} :
      (∀ before (t : Tree), tokens ≠ before ++ t.postorder) →
      (tokens.filter Token.isParenthesis).getLast? = some token →
      Describes tokens (.parenthesis token)
  | missingOperand :
      tokens ≠ [] →
      (∀ before (t : Tree), tokens ≠ before ++ t.postorder) →
      tokens.filter Token.isParenthesis = [] →
      Describes tokens .missingOperand

variable {tokens : List Token} {cause : Malformed}

/-! ## Where the builder stops -/

/-- Without a tree, tokens are read up to the first parenthesis or to their end. -/
theorem error_of_grow {frames : List Frame} {reversed : List Token} (h : grow frames reversed = .error cause) :
    cause = (reversed.find? Token.isParenthesis).elim .missingOperand .parenthesis := by
  fun_induction grow frames reversed with
  | case1 =>
    cases h
    rfl
  | case2 frames s before ih => exact ih h
  | case3 => cases h
  | case4 frames o before filled settled ih => exact ih h
  | case5 frames token before notOperator notOperand =>
    cases h
    cases token with
    | operand o => exact absurd rfl (notOperand o)
    | operator s => exact absurd rfl (notOperator s)
    | opening => rfl
    | closing => rfl

theorem grow_of_ends {before : List Token} {t : Tree} (h : tokens = before ++ t.postorder) :
    grow [] tokens.reverse = .ok (t, before.reverse) := by
  rw [h, ← Tree.tokens_eq_postorder, List.reverse_append, grow_tokens]
  rfl

theorem ends_of_grow {before : List Token} {t : Tree} (h : grow [] tokens.reverse = .ok (t, before)) :
    tokens = before.reverse ++ t.postorder := by
  simpa [Tree.tokens_eq_postorder] using (tokens_of_grow h).symm

theorem ends_unique {before before' : List Token} {t t' : Tree}
    (h : tokens = before ++ t.postorder) (h' : tokens = before' ++ t'.postorder) :
    before = before' ∧ t = t' := by
  have same := (grow_of_ends h).symm.trans (grow_of_ends h')
  simp only [Except.ok.injEq, Prod.mk.injEq, List.reverse_inj] at same
  exact ⟨same.2, same.1⟩

theorem getLast?_filter_eq_find? (tokens : List Token) :
    (tokens.filter Token.isParenthesis).getLast? = tokens.reverse.find? Token.isParenthesis := by
  rw [← List.head?_filter, List.filter_reverse, List.head?_reverse]

/-! ## One reason -/

theorem describes_of_build (h : build tokens = .error cause) : cause.Describes tokens := by
  unfold build at h
  split at h
  next none =>
    cases h
    exact .empty (List.isEmpty_iff.mp none)
  next filled =>
    have filled : tokens ≠ [] := by simpa using filled
    split at h
    next e failed =>
      cases h
      have noTree : ∀ before (t : Tree), tokens ≠ before ++ t.postorder := by
        intro before t ends
        rw [grow_of_ends ends] at failed
        cases failed
      have stopped := error_of_grow failed
      rw [← getLast?_filter_eq_find?] at stopped
      cases last : (tokens.filter Token.isParenthesis).getLast? with
      | none =>
        rw [last] at stopped
        subst stopped
        exact .missingOperand filled noTree (List.getLast?_eq_none_iff.mp last)
      | some token =>
        rw [last] at stopped
        subst stopped
        exact .parenthesis noTree last
    next => cases h
    next t before remain grown =>
      cases h
      exact .leftover (by simpa using remain) (ends_of_grow grown)

namespace Malformed.Describes

theorem ne_postorder (h : cause.Describes tokens) (t : Tree) : tokens ≠ t.postorder := by
  intro whole
  have ends : tokens = [] ++ t.postorder := whole
  cases h with
  | empty none =>
    rw [none, ← Tree.tokens_eq_postorder] at whole
    exact t.tokens_ne_nil whole.symm
  | leftover some ends' => exact some (ends_unique ends' ends).1
  | parenthesis noTree _ => exact noTree [] t ends
  | missingOperand _ noTree _ => exact noTree [] t ends

theorem unique {other : Malformed} (h : cause.Describes tokens) (h' : other.Describes tokens) :
    cause = other := by
  cases h with
  | empty none =>
    subst none
    cases h' with
    | empty => rfl
    | leftover some ends => exact absurd (List.append_eq_nil_iff.mp ends.symm).1 some
    | parenthesis _ last => cases last
    | missingOperand some => exact absurd rfl some
  | leftover some ends =>
    cases h' with
    | empty none => exact absurd (List.append_eq_nil_iff.mp (none ▸ ends).symm).1 some
    | leftover _ ends' => rw [(ends_unique ends ends').1]
    | parenthesis noTree => exact absurd ends (noTree _ _)
    | missingOperand _ noTree => exact absurd ends (noTree _ _)
  | parenthesis noTree last =>
    cases h' with
    | empty none => subst none; cases last
    | leftover _ ends => exact absurd ends (noTree _ _)
    | parenthesis _ last' => rw [Option.some.inj (last.symm.trans last')]
    | missingOperand _ _ none => rw [none] at last; cases last
  | missingOperand some noTree none =>
    cases h' with
    | empty none => exact absurd none some
    | leftover _ ends => exact absurd ends (noTree _ _)
    | parenthesis _ last => rw [none] at last; cases last
    | missingOperand => rfl

end Malformed.Describes

theorem build_eq_error_iff : build tokens = .error cause ↔ cause.Describes tokens := by
  refine ⟨describes_of_build, fun described => ?_⟩
  cases built : build tokens with
  | ok t =>
    have whole := tokens_of_build built
    rw [Tree.tokens_eq_postorder] at whole
    exact absurd whole (described.ne_postorder t)
  | error other => rw [(describes_of_build built).unique described]

/-- Tokens that are no tree have one error, which is the one that describes them. -/
theorem build_describes (tokens : List Token) (noTree : ∀ t : Tree, tokens ≠ t.postorder) :
    (∃! cause : Malformed, cause.Describes tokens) ∧
      (∀ cause, build tokens = .error cause ↔ cause.Describes tokens) ∧
      (∀ before before' (t t' : Tree), tokens = before ++ t.postorder → tokens = before' ++ t'.postorder →
        before = before' ∧ t = t') ∧
      Malformed.empty.message = "Empty expression" ∧
      (∀ before, (Malformed.leftover before).message =
        "Invalid expression (remaining operands): " ++ " ".intercalate (before.map Token.text)) ∧
      (Malformed.parenthesis .opening).message = "Unexpected parenthesis in postfix sequence: '('" ∧
      (Malformed.parenthesis .closing).message = "Unexpected parenthesis in postfix sequence: ')'" ∧
      Malformed.missingOperand.message = "Invalid expression (not enough operands)" := by
  refine ⟨?_, fun _ => build_eq_error_iff, fun _ _ _ _ => ends_unique, rfl, fun _ => rfl, rfl, rfl, rfl⟩
  cases built : build tokens with
  | ok t =>
    have whole := tokens_of_build built
    rw [Tree.tokens_eq_postorder] at whole
    exact absurd whole (noTree t)
  | error cause => exact ⟨cause, describes_of_build built, fun other described =>
      described.unique (describes_of_build built)⟩

/-- The variables `m`, `n` and `o` as `m)no+`, where a parenthesis stands in front of a tree. -/
def closedTokens : List Token :=
  [.operand (.name ⟨"m", List.cons_ne_nil 'm' []⟩), .closing,
    .operand (.name ⟨"n", List.cons_ne_nil 'n' []⟩), .operand (.name ⟨"o", List.cons_ne_nil 'o' []⟩),
    .operator Config.plus.1]

theorem build_describes_closedTokens :
    (∀ t : Tree, closedTokens ≠ t.postorder) ∧
      (∃! cause : Malformed, cause.Describes closedTokens) ∧
      (∀ cause, build closedTokens = .error cause ↔ cause.Describes closedTokens) ∧
      (∀ before before' (t t' : Tree), closedTokens = before ++ t.postorder →
        closedTokens = before' ++ t'.postorder → before = before' ∧ t = t') ∧
      Malformed.empty.message = "Empty expression" ∧
      (∀ before, (Malformed.leftover before).message =
        "Invalid expression (remaining operands): " ++ " ".intercalate (before.map Token.text)) ∧
      (Malformed.parenthesis .opening).message = "Unexpected parenthesis in postfix sequence: '('" ∧
      (Malformed.parenthesis .closing).message = "Unexpected parenthesis in postfix sequence: ')'" ∧
      Malformed.missingOperand.message = "Invalid expression (not enough operands)" := by
  have failed : build closedTokens = .error (.leftover (closedTokens.take 2)) := rfl
  have noTree : ∀ t : Tree, closedTokens ≠ t.postorder := (describes_of_build failed).ne_postorder
  exact ⟨noTree, build_describes closedTokens noTree⟩

end Abacus
