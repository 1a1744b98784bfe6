/-
# Reordering is a permutation

Reordering loses nothing and makes nothing up.  What has come out and what still
waits on the stack are, after every token, the tokens so far in another order,
but for the parentheses:

    out ++ held stack'  ~  (tokens without parentheses) ++ held stack

At the end nothing waits, so a run that succeeds puts out a permutation of its
tokens that are no parentheses (`reorder_perm`).
-/
import Abacus.Proofs.Postfix.Run
import Abacus.Token.Operands
import Mathlib.Data.List.Perm.Basic

namespace Abacus

/-- The token that comes out when what waits is let go. -/
def Waiting.token? : Waiting → Option Token
  | operator s => some (.operator s)
  | barrier => none

/-- The tokens that wait on a stack. -/
def held (stack : List Waiting) : List Token :=
  stack.filterMap Waiting.token?

/-- The tokens that are no parentheses. -/
def Token.unparenthesized (tokens : List Token) : List Token :=
  tokens.filter fun t => !t.isParenthesis

theorem Token.unparenthesized_cons (t : Token) (tokens : List Token) :
    unparenthesized (t :: tokens) = unparenthesized [t] ++ unparenthesized tokens := by
  rw [← List.singleton_append, unparenthesized, List.filter_append]
  rfl

theorem Token.operands_unparenthesized (tokens : List Token) :
    operands (unparenthesized tokens) = operands tokens := by
  induction tokens with
  | nil => rfl
  | cons t tokens ih =>
    rw [unparenthesized_cons, operands_append, ih, operands_cons]
    cases t <;> rfl

theorem Token.symbols_unparenthesized (tokens : List Token) :
    symbols (unparenthesized tokens) = symbols tokens := by
  induction tokens with
  | nil => rfl
  | cons t tokens ih =>
    rw [unparenthesized_cons, symbols_append, ih, symbols_cons]
    cases t <;> rfl

variable {config : Config} {stack stack' : List Waiting} {tokens out : List Token}

@[simp] theorem held_nil : held [] = [] := rfl

@[simp] theorem held_operator (s : Symbol) (stack : List Waiting) :
    held (.operator s :: stack) = .operator s :: held stack := rfl

@[simp] theorem held_barrier (stack : List Waiting) : held (.barrier :: stack) = held stack := rfl

theorem release_append_held {incoming : Symbol} (h : release config incoming stack = .ok (out, stack')) :
    out ++ held stack' = held stack := by
  fun_induction release config incoming stack generalizing out stack' with
  | case1 => cases h; rfl
  | case2 => cases h
  | case3 top stack waiting registered arriving known yields released rest run ih =>
    cases h
    simp [ih run]
  | case4 => cases h
  | case5 => cases h; rfl
  | case6 => cases h; rfl

theorem releaseGroup_append_held (h : releaseGroup stack = .ok (out, stack')) :
    out ++ held stack' = held stack := by
  fun_induction releaseGroup stack generalizing out stack' with
  | case1 => cases h
  | case2 => cases h; rfl
  | case3 top stack released rest run ih =>
    cases h
    simp [ih run]
  | case4 => cases h

theorem releaseAll_eq_held (h : releaseAll stack = .ok out) : out = held stack := by
  fun_induction releaseAll stack generalizing out with
  | case1 => cases h; rfl
  | case2 => cases h
  | case3 top stack released run ih =>
    cases h
    simp [ih run]
  | case4 => cases h

theorem shunt_perm {token : Token} (h : shunt config stack token = .ok (out, stack')) :
    (out ++ held stack').Perm (Token.unparenthesized [token] ++ held stack) := by
  cases token with
  | operand o =>
    cases h
    exact .refl _
  | opening =>
    cases h
    exact .refl _
  | closing =>
    rw [releaseGroup_append_held h]
    exact .refl _
  | operator s =>
    rw [shunt] at h
    cases run : release config s stack with
    | error e => simp [run] at h
    | ok result =>
      obtain ⟨released, rest⟩ := result
      simp only [run, Except.ok.injEq, Prod.mk.injEq] at h
      obtain ⟨rfl, rfl⟩ := h
      rw [← release_append_held run, held_operator]
      exact List.perm_middle

theorem reorderFrom_perm (h : reorderFrom config stack tokens = .ok out) :
    out.Perm (Token.unparenthesized tokens ++ held stack) := by
  induction tokens generalizing stack out with
  | nil =>
    rw [releaseAll_eq_held h]
    exact .refl _
  | cons token tokens ih =>
    obtain ⟨released, between, later, first, others, rfl⟩ := exists_of_reorderFrom_cons h
    have swapped : (released ++ (Token.unparenthesized tokens ++ held between)).Perm
        (released ++ held between ++ Token.unparenthesized tokens) := by
      rw [List.append_assoc]
      exact List.perm_append_comm.append_left released
    have moved : (released ++ held between ++ Token.unparenthesized tokens).Perm
        (Token.unparenthesized [token] ++ held stack ++ Token.unparenthesized tokens) :=
      (shunt_perm first).append_right _
    have together : (Token.unparenthesized [token] ++ held stack ++ Token.unparenthesized tokens).Perm
        (Token.unparenthesized (token :: tokens) ++ held stack) := by
      rw [Token.unparenthesized_cons token tokens, List.append_assoc, List.append_assoc]
      exact List.perm_append_comm.append_left _
    exact ((ih others).append_left released).trans (swapped.trans (moved.trans together))

/-- What comes out are the tokens that are no parentheses, in another order. -/
theorem reorder_perm (h : reorder config tokens = .ok out) :
    out.Perm (Token.unparenthesized tokens) := by
  simpa using reorderFrom_perm h

end Abacus
