/-
# Sentences are balanced and alternate

Two things make tokens a sentence, and each can be read off from left to right:
their parentheses match, and operands alternate with operators, where a group
counts as an operand (`Token.Alternating`).

    Sentence tokens  ↔  Token.Balanced tokens ∧ Token.Alternating tokens

From the right to the left this is a descent: where an operand is due, a longest
sentence can be taken off, and it stops at the end or in front of a parenthesis
that closes a group around it (`beginsWithSentence`).
-/
import Abacus.Proofs.Postfix.Balance
import Abacus.Sentence

namespace Abacus

open Token (mismatch)

namespace Token

/-- Operands and operators alternate.  After an operand, or a group, an operator
is due or the end of a group; otherwise an operand or a group is due. -/
def alternates (complete : Bool) : List Token → Bool
  | [] => complete
  | .operand _ :: tokens => !complete && alternates true tokens
  | .opening :: tokens => !complete && alternates false tokens
  | .operator _ :: tokens => complete && alternates false tokens
  | .closing :: tokens => complete && alternates true tokens

/-- Operands and operators alternate, from an operand to an operand. -/
def Alternating (tokens : List Token) : Prop :=
  alternates false tokens = true

instance (tokens : List Token) : Decidable (Alternating tokens) :=
  inferInstanceAs (Decidable (alternates false tokens = true))

end Token

/-! ## What a sentence does -/

/-- A sentence stands where an operand is due. -/
theorem Sentence.alternates {tokens : List Token} (sentence : Sentence tokens) (rest : List Token) :
    Token.alternates false (tokens ++ rest) = Token.alternates true rest := by
  induction sentence generalizing rest with
  | operand o => rfl
  | chain s _ _ ihl ihr =>
    rw [List.append_assoc, ihl, List.cons_append, Token.alternates, ihr]
    rfl
  | group _ ih =>
    rw [List.append_assoc, List.cons_append, Token.alternates, ih, List.singleton_append, Token.alternates]
    rfl

theorem Sentence.mismatch {tokens : List Token} (sentence : Sentence tokens) (opened : Nat)
    (rest : List Token) : mismatch opened (tokens ++ rest) = mismatch opened rest := by
  induction sentence generalizing opened rest with
  | operand o => rfl
  | chain s _ _ ihl ihr =>
    rw [List.append_assoc, ihl]
    exact ihr opened rest
  | group _ ih =>
    rw [List.append_assoc, List.cons_append, Token.mismatch, ih]
    rfl

/-! ## The descent -/

/-- The tokens are at an end: of all, or of a group. -/
def Stops : List Token → Prop
  | [] => True
  | .closing :: _ => True
  | _ => False

/-- When some groups are open, the tokens begin with a sentence that goes on to
the end of the innermost group. -/
def BeginsWithSentence (opened : Nat) (tokens : List Token) : Prop :=
  ∃ taken rest, tokens = taken ++ rest ∧ Sentence taken ∧
    Token.alternates true rest = true ∧ mismatch opened rest = none ∧ Stops rest

theorem beginsWithSentence_append {front after : List Token} {opened : Nat} (sentence : Sentence front)
    (alternate : Token.alternates true after = true) (matched : mismatch opened after = none)
    (descend : ∀ s later, after = .operator s :: later → BeginsWithSentence opened later) :
    BeginsWithSentence opened (front ++ after) := by
  cases after with
  | nil => exact ⟨front, [], rfl, sentence, alternate, matched, trivial⟩
  | cons token later =>
    cases token with
    | closing => exact ⟨front, .closing :: later, rfl, sentence, alternate, matched, trivial⟩
    | operator s =>
      obtain ⟨taken, rest, rfl, right, stopped⟩ := descend s later rfl
      exact ⟨front ++ .operator s :: taken, rest, by simp, .chain s sentence right, stopped⟩
    | operand o => cases alternate
    | opening => cases alternate

/-- Where an operand is due, a sentence can be taken off. -/
theorem beginsWithSentence (tokens : List Token) (opened : Nat)
    (alternate : Token.alternates false tokens = true) (matched : mismatch opened tokens = none) :
    BeginsWithSentence opened tokens := by
  induction length : tokens.length using Nat.strongRecOn generalizing tokens opened with
  | ind n ih =>
    subst length
    cases tokens with
    | nil => cases alternate
    | cons token tokens =>
      cases token with
      | operator s => cases alternate
      | closing => cases alternate
      | operand o =>
        refine beginsWithSentence_append (.operand o) alternate matched ?_
        rintro s later rfl
        exact ih later.length (by simp only [List.length_cons]; omega) later opened alternate matched rfl
      | opening =>
        obtain ⟨inner, after, rfl, sentence, alternate, matched, stops⟩ :=
          ih tokens.length (by simp) tokens (opened + 1) alternate matched rfl
        -- a group is open, so the end of all cannot have come
        match after, alternate, matched, stops with
        | [], _, matched, _ => simp [mismatch] at matched
        | .closing :: after, alternate, matched, _ =>
          have grouped : .opening :: (inner ++ .closing :: after) =
              .opening :: inner ++ [.closing] ++ after := by
            simp
          rw [grouped]
          refine beginsWithSentence_append (.group sentence) alternate matched ?_
          rintro s later rfl
          exact ih later.length (by simp; omega) later opened alternate matched rfl

theorem sentence_iff (tokens : List Token) :
    Sentence tokens ↔ Token.Balanced tokens ∧ Token.Alternating tokens := by
  rw [← Token.mismatch_eq_none_iff]
  constructor
  · intro sentence
    have matched := sentence.mismatch 0 []
    have alternate := sentence.alternates []
    rw [List.append_nil] at matched alternate
    exact ⟨matched, alternate⟩
  · rintro ⟨matched, alternate⟩
    obtain ⟨taken, rest, rfl, sentence, _, closed, stops⟩ := beginsWithSentence tokens 0 alternate matched
    match rest, closed, stops with
    | [], _, _ => rwa [List.append_nil]
    | .closing :: rest, closed, _ => cases closed

end Abacus
