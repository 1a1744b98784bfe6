/-
# When tokens can be reordered

Reordering asks for matching parentheses and for nothing else.  What it does with
tokens whose operators are registered, whether or not these alternate with
operands, is decided by a counter: the number of groups that are open
(`Token.mismatch`).

    mismatch (barriers on the stack) tokens = none        →  there is an output
    mismatch (barriers on the stack) tokens = some cause  →  the error is `cause`

The counter runs dry just when some beginning of the tokens closes too many
groups (`mismatch_eq_unopened_iff`), and ends at zero otherwise just when the
tokens are balanced (`mismatch_eq_none_iff`).
-/
import Abacus.Proofs.Postfix.Run
import Abacus.Token.Balance

namespace Abacus

namespace Token

/-- The first parenthesis that has no counterpart, when some groups are open. -/
def mismatch (opened : Nat) : List Token → Option Unbalanced
  | [] => if opened = 0 then none else some .unclosed
  | .opening :: tokens => mismatch (opened + 1) tokens
  | .closing :: tokens =>
    match opened with
    | 0 => some .unopened
    | opened + 1 => mismatch opened tokens
  | _ :: tokens => mismatch opened tokens

/-! ## The counter and the counts -/

theorem exists_take_cons {P : List Token → Prop} (empty : ¬P []) (token : Token) (tokens : List Token) :
    (∃ n, P ((token :: tokens).take n)) ↔ ∃ n, P (token :: tokens.take n) := by
  constructor
  · rintro ⟨n, hn⟩
    cases n with
    | zero => exact absurd hn empty
    | succ n => exact ⟨n, hn⟩
  · rintro ⟨n, hn⟩
    exact ⟨n + 1, hn⟩

theorem mismatch_eq_unopened_iff (opened : Nat) (tokens : List Token) :
    mismatch opened tokens = some .unopened ↔
      ∃ n, opened + (tokens.take n).count .opening < (tokens.take n).count .closing := by
  induction tokens generalizing opened with
  | nil =>
    rw [mismatch]
    split <;> simp
  | cons token tokens ih =>
    rw [@exists_take_cons (fun front => opened + front.count .opening < front.count .closing) (by simp)]
    cases token with
    | operand o => simpa [mismatch] using ih opened
    | operator s => simpa [mismatch] using ih opened
    | opening => simpa [mismatch, Nat.add_right_comm, Nat.add_assoc] using ih (opened + 1)
    | closing =>
      cases opened with
      | zero => simpa [mismatch] using ⟨0, by simp⟩
      | succ opened => simpa [mismatch, Nat.add_right_comm] using ih opened

theorem count_of_mismatch_none {opened : Nat} {tokens : List Token} (h : mismatch opened tokens = none) :
    tokens.count .closing = opened + tokens.count .opening := by
  fun_induction mismatch opened tokens <;> simp_all <;> omega

theorem count_of_mismatch_unclosed {opened : Nat} {tokens : List Token}
    (h : mismatch opened tokens = some .unclosed) :
    tokens.count .closing < opened + tokens.count .opening := by
  fun_induction mismatch opened tokens <;> simp_all <;> omega

theorem mismatch_eq_none_iff (tokens : List Token) : mismatch 0 tokens = none ↔ Balanced tokens := by
  have unopened := mismatch_eq_unopened_iff 0 tokens
  simp only [Nat.zero_add] at unopened
  rw [Balanced, ClosesTooMany, ← unopened]
  cases h : mismatch 0 tokens with
  | none =>
    have equal := count_of_mismatch_none h
    simpa using equal
  | some cause =>
    cases cause with
    | unopened => simp
    | unclosed =>
      have less := count_of_mismatch_unclosed h
      simp
      omega

end Token

/-! ## The counter and the stack -/

section Count

variable {config : Config} {stack : List Waiting} {tokens : List Token}

/-- A registered operator finds its place, and no group is closed by it. -/
theorem exists_release {incoming : Symbol} (registered : config.operators.contains incoming = true)
    (stack : List Waiting) :
    ∃ out stack', release config incoming stack = .ok (out, stack') ∧
      stack'.count .barrier = stack.count .barrier := by
  fun_induction release config incoming stack with
  | case1 top stack => exact ⟨_, _, rfl, rfl⟩
  | case2 top stack waiting _ unregistered => simp [Table.contains, unregistered] at registered
  | case3 top stack waiting _ arriving _ yields out rest run ih =>
    obtain ⟨_, _, same, counted⟩ := ih
    cases same.symm.trans run
    refine ⟨_, _, rfl, ?_⟩
    rw [counted, List.count_cons_of_ne (by simp)]
  | case4 top stack waiting _ arriving _ yields e run ih =>
    obtain ⟨_, _, same, _⟩ := ih
    cases same.symm.trans run
  | case5 => exact ⟨_, _, rfl, rfl⟩
  | case6 => exact ⟨_, _, rfl, rfl⟩

theorem releaseGroup_of_no_barrier (h : stack.count .barrier = 0) :
    releaseGroup stack = .error (.unbalanced .unopened) := by
  induction stack with
  | nil => rfl
  | cons top stack ih =>
    cases top with
    | barrier => simp at h
    | operator s =>
      rw [List.count_cons_of_ne (by simp)] at h
      rw [releaseGroup, ih h]

theorem exists_releaseGroup {opened : Nat} (h : stack.count .barrier = opened + 1) :
    ∃ out stack', releaseGroup stack = .ok (out, stack') ∧ stack'.count .barrier = opened := by
  induction stack with
  | nil => simp at h
  | cons top stack ih =>
    cases top with
    | barrier => exact ⟨[], stack, rfl, by simpa using h⟩
    | operator s =>
      rw [List.count_cons_of_ne (by simp)] at h
      obtain ⟨out, stack', run, counted⟩ := ih h
      exact ⟨.operator s :: out, stack', by rw [releaseGroup, run], counted⟩

theorem exists_releaseAll (h : stack.count .barrier = 0) : ∃ out, releaseAll stack = .ok out := by
  induction stack with
  | nil => exact ⟨[], rfl⟩
  | cons top stack ih =>
    cases top with
    | barrier => simp at h
    | operator s =>
      rw [List.count_cons_of_ne (by simp)] at h
      obtain ⟨out, run⟩ := ih h
      exact ⟨.operator s :: out, by rw [releaseAll, run]⟩

theorem releaseAll_of_barrier (h : stack.count .barrier ≠ 0) :
    releaseAll stack = .error (.unbalanced .unclosed) := by
  induction stack with
  | nil => simp at h
  | cons top stack ih =>
    cases top with
    | barrier => rfl
    | operator s =>
      rw [List.count_cons_of_ne (by simp)] at h
      rw [releaseAll, ih h]

/-- How a run ends, when it is known which parenthesis has no counterpart. -/
def verdict : Option Unbalanced → Except ReorderError Unit
  | none => .ok ()
  | some cause => .error (.unbalanced cause)

theorem reorderFrom_end {stack' : List Waiting} {out : List Token} {token : Token}
    (h : shunt config stack token = .ok (out, stack')) :
    (reorderFrom config stack (token :: tokens)).map (fun _ => ()) =
      (reorderFrom config stack' tokens).map (fun _ => ()) := by
  rw [reorderFrom_cons, h]
  cases h : reorderFrom config stack' tokens <;> simp [h, Except.map]

/-- Whether tokens can be reordered is decided by the groups that they open and close. -/
theorem reorderFrom_mismatch
    (registered : ∀ s, Token.operator s ∈ tokens → config.operators.contains s = true)
    (stack : List Waiting) :
    (reorderFrom config stack tokens).map (fun _ => ()) =
      verdict (Token.mismatch (stack.count .barrier) tokens) := by
  induction tokens generalizing stack with
  | nil =>
    rw [Token.mismatch, reorderFrom]
    by_cases h : stack.count .barrier = 0
    · obtain ⟨out, run⟩ := exists_releaseAll h
      rw [run, if_pos h]
      rfl
    · rw [releaseAll_of_barrier h, if_neg h]
      rfl
  | cons token tokens ih =>
    have rest := ih fun s hs => registered s (List.mem_cons_of_mem token hs)
    cases token with
    | operand o =>
      have through : shunt config stack (.operand o) = .ok ([.operand o], stack) := rfl
      rw [reorderFrom_end through, rest, Token.mismatch]
      all_goals simp
    | operator s =>
      obtain ⟨out, stack', run, counted⟩ := exists_release (registered s List.mem_cons_self) stack
      have through : shunt config stack (.operator s) = .ok (out, .operator s :: stack') := by
        rw [shunt, run]
      rw [reorderFrom_end through, rest, List.count_cons_of_ne (by simp), counted, Token.mismatch]
      all_goals simp
    | opening =>
      have through : shunt config stack .opening = .ok ([], .barrier :: stack) := rfl
      rw [reorderFrom_end through, rest, List.count_cons_self, Token.mismatch]
    | closing =>
      cases h : stack.count .barrier with
      | zero =>
        rw [reorderFrom_cons, shunt, releaseGroup_of_no_barrier h]
        rfl
      | succ opened =>
        obtain ⟨out, stack', run, counted⟩ := exists_releaseGroup h
        have through : shunt config stack .closing = .ok (out, stack') := run
        rw [reorderFrom_end through, rest, counted, Token.mismatch]

theorem reorder_cases
    (registered : ∀ s, Token.operator s ∈ tokens → config.operators.contains s = true) :
    (Token.mismatch 0 tokens = none ∧ ∃ out, reorder config tokens = .ok out) ∨
      ∃ cause, Token.mismatch 0 tokens = some cause ∧ reorder config tokens = .error (.unbalanced cause) := by
  have ending := reorderFrom_mismatch registered []
  rw [List.count_nil, ← reorder] at ending
  cases counter : Token.mismatch 0 tokens with
  | none =>
    cases run : reorder config tokens with
    | ok out => exact .inl ⟨rfl, out, rfl⟩
    | error e => simp [run, counter, verdict, Except.map] at ending
  | some cause =>
    cases run : reorder config tokens with
    | ok out => simp [run, counter, verdict, Except.map] at ending
    | error e =>
      simp only [run, counter, verdict, Except.map, Except.error.injEq] at ending
      exact .inr ⟨cause, rfl, by rw [ending]⟩

/-- Tokens can be reordered just when their parentheses are balanced, and the
only error is that they are not. -/
theorem reorder_balanced
    (registered : ∀ s, Token.operator s ∈ tokens → config.operators.contains s = true) :
    ((∃ out, reorder config tokens = .ok out) ↔ Token.Balanced tokens) ∧
      ∀ e, reorder config tokens = .error e → ∃ cause, e = .unbalanced cause := by
  rw [← Token.mismatch_eq_none_iff]
  rcases reorder_cases registered with ⟨counter, out, run⟩ | ⟨cause, counter, run⟩
  · simp [counter, run]
  · simp [counter, run]

end Count

end Abacus
