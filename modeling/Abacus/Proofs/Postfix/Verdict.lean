/-
# What reordering makes of any tokens

The operator stack is given tokens whose operators are registered, and nothing
else is known of them: operands and operators need not alternate.  Then

| the parentheses | the run |
| :-- | :-- |
| close too many groups somewhere | ends with `unopened` |
| do not, but leave a group open | ends with `unclosed` |
| are balanced | lets all tokens out |

and what comes out are the tokens that are no parentheses, in another order, but
the operands in the order in which they stood.

The first two rows say more than `reorder_balanced`: which of the two errors it
is.  The order of the operands (`reorder_operands`) is kept because an operand
never waits, and what waits never is an operand.
-/
import Abacus.Proofs.Postfix.Balance
import Abacus.Proofs.Postfix.Permutation
import Abacus.Token.Operands

namespace Abacus

variable {config : Config} {stack stack' : List Waiting} {tokens out : List Token}

/-! ## The operands keep their order -/

theorem operands_of_operators (h : ∀ token ∈ out, ∃ s, token = .operator s) : Token.operands out = [] := by
  rw [Token.operands, List.filterMap_eq_nil_iff]
  intro token ht
  obtain ⟨s, rfl⟩ := h token ht
  rfl

theorem shunt_operands {token : Token} (h : shunt config stack token = .ok (out, stack')) :
    Token.operands out = Token.operands [token] := by
  rcases shunt_out h with ⟨o, rfl, rfl⟩ | operators
  · rfl
  · rw [operands_of_operators operators]
    cases token with
    | operand o =>
      cases h
      obtain ⟨s, other⟩ := operators (.operand o) List.mem_cons_self
      cases other
    | operator s => rfl
    | opening => rfl
    | closing => rfl

theorem reorderFrom_operands (h : reorderFrom config stack tokens = .ok out) :
    Token.operands out = Token.operands tokens := by
  induction tokens generalizing stack out with
  | nil => exact operands_of_operators (releaseAll_operators h)
  | cons token tokens ih =>
    obtain ⟨released, between, later, first, others, rfl⟩ := exists_of_reorderFrom_cons h
    rw [Token.operands_append, shunt_operands first, ih others, ← Token.operands_append,
      List.singleton_append]

/-- Operands come out in the order in which they stand. -/
theorem reorder_operands (h : reorder config tokens = .ok out) :
    Token.operands out = Token.operands tokens :=
  reorderFrom_operands h

/-! ## Which error it is -/

/-- The error names the first parenthesis that has no counterpart. -/
theorem reorder_eq_error_iff
    (registered : ∀ s, Token.operator s ∈ tokens → config.operators.contains s = true)
    (cause : Unbalanced) :
    reorder config tokens = .error (.unbalanced cause) ↔ Token.mismatch 0 tokens = some cause := by
  rcases reorder_cases registered with ⟨counter, out, run⟩ | ⟨other, counter, run⟩
  · simp [counter, run]
  · simp [counter, run]

theorem reorder_eq_unopened_iff
    (registered : ∀ s, Token.operator s ∈ tokens → config.operators.contains s = true) :
    reorder config tokens = .error (.unbalanced .unopened) ↔ Token.ClosesTooMany tokens := by
  rw [reorder_eq_error_iff registered, Token.mismatch_eq_unopened_iff, Token.ClosesTooMany]
  simp only [Nat.zero_add]

theorem reorder_eq_unclosed_iff
    (registered : ∀ s, Token.operator s ∈ tokens → config.operators.contains s = true) :
    reorder config tokens = .error (.unbalanced .unclosed) ↔
      ¬Token.Balanced tokens ∧ ¬Token.ClosesTooMany tokens := by
  rw [← reorder_eq_unopened_iff registered, reorder_eq_error_iff registered,
    reorder_eq_error_iff registered, ← Token.mismatch_eq_none_iff]
  cases Token.mismatch 0 tokens with
  | none => simp
  | some cause => cases cause <;> simp

/-! ## Everything about a run -/

/-- Any tokens with registered operators are reordered just when they are
balanced; otherwise the error says what is wrong with their parentheses. -/
theorem reorder_registered (config : Config) (tokens : List Token)
    (registered : ∀ s, Token.operator s ∈ tokens → config.operators.contains s = true) :
    ((∃ cause, reorder config tokens = .error (.unbalanced cause)) ↔ ¬Token.Balanced tokens) ∧
      (reorder config tokens = .error (.unbalanced .unopened) ↔ Token.ClosesTooMany tokens) ∧
      (reorder config tokens = .error (.unbalanced .unclosed) ↔
        ¬Token.Balanced tokens ∧ ¬Token.ClosesTooMany tokens) ∧
      Unbalanced.unopened.message = "Unbalanced parentheses: ')' without matching '('" ∧
      Unbalanced.unclosed.message = "Unbalanced parentheses: '(' is never closed" ∧
      (∀ e, reorder config tokens = .error e → ∃ cause, e = .unbalanced cause) ∧
      ∀ out, reorder config tokens = .ok out →
        out.Perm (Token.unparenthesized tokens) ∧ (∀ token ∈ out, token.isParenthesis = false) ∧
          Token.operands out = Token.operands tokens := by
  obtain ⟨succeeds, fails⟩ := reorder_balanced registered
  refine ⟨?_, reorder_eq_unopened_iff registered, reorder_eq_unclosed_iff registered, rfl, rfl, fails, ?_⟩
  · rw [← succeeds]
    cases run : reorder config tokens with
    | ok out => simp
    | error e =>
      obtain ⟨cause, rfl⟩ := fails e run
      simp
  · intro out run
    exact ⟨reorder_perm run, isParenthesis_of_mem_reorderFrom run, reorder_operands run⟩

/-- The variables `m` and `n` as `*m()n+`. -/
def strayTokens : List Token :=
  [.operator Config.times.1, .operand (.name ⟨"m", by decide⟩), .opening, .closing,
    .operand (.name ⟨"n", by decide⟩), .operator Config.plus.1]

theorem registered_strayTokens :
    ∀ s, Token.operator s ∈ strayTokens → Config.standard.operators.contains s = true := by
  intro s hs
  simp only [strayTokens, List.mem_cons, Token.operator.injEq, reduceCtorEq, List.not_mem_nil,
    or_false, false_or] at hs
  rcases hs with rfl | rfl <;> decide

theorem reorder_registered_strayTokens :
    (∀ s, Token.operator s ∈ strayTokens → Config.standard.operators.contains s = true) ∧
      ((∃ cause, reorder .standard strayTokens = .error (.unbalanced cause)) ↔
        ¬Token.Balanced strayTokens) ∧
      (reorder .standard strayTokens = .error (.unbalanced .unopened) ↔
        Token.ClosesTooMany strayTokens) ∧
      (reorder .standard strayTokens = .error (.unbalanced .unclosed) ↔
        ¬Token.Balanced strayTokens ∧ ¬Token.ClosesTooMany strayTokens) ∧
      Unbalanced.unopened.message = "Unbalanced parentheses: ')' without matching '('" ∧
      Unbalanced.unclosed.message = "Unbalanced parentheses: '(' is never closed" ∧
      (∀ e, reorder .standard strayTokens = .error e → ∃ cause, e = .unbalanced cause) ∧
      ∀ out, reorder .standard strayTokens = .ok out →
        out.Perm (Token.unparenthesized strayTokens) ∧ (∀ token ∈ out, token.isParenthesis = false) ∧
          Token.operands out = Token.operands strayTokens :=
  ⟨registered_strayTokens, reorder_registered .standard strayTokens registered_strayTokens⟩

end Abacus
