/-
# Which texts are read

A reading should accept the sentences and find every other balanced text
malformed (`Config.ReadsStrictly`).  No stage asks for that.  The operator stack
asks for matching parentheses (`reorder_balanced`), and the builder for one value
after the order of the text is lost (`exists_build_iff`).  So a text is read as
it should be just when one value after the reordering means that operands and
operators alternated before:

    config.ReadsStrictly text ↔
      ∀ reordered, reduce config text = .ok reordered →
        Token.OneValue reordered → Token.Alternating (scan config text.toList)

It is not so for every text: with operators behind or in front of their operands,
or with an empty group, the reordered tokens may be the same as those of a sentence.
-/
import Abacus.Expression
import Abacus.Proofs.Postfix.Permutation
import Abacus.Proofs.Sentence.Alternation
import Abacus.Proofs.Token.Scan
import Abacus.Proofs.Tree.Height

namespace Abacus

variable {config : Config} {text : String}

/-- Only sentences are accepted, and a balanced text that is none is malformed. -/
structure Config.ReadsStrictly (config : Config) (text : String) : Prop where
  sentence : (∃ t, parse config text = .ok t) → Sentence (scan config text.toList)
  malformed : Token.Balanced (scan config text.toList) → ¬Sentence (scan config text.toList) →
    ∃ cause, parse config text = .error (.malformed cause) ∧
      evaluate config text = .error (.malformed cause)

theorem exists_reduce_iff :
    (∃ reordered, reduce config text = .ok reordered) ↔ Token.Balanced (scan config text.toList) :=
  (reorder_balanced fun _ hs => registered_of_mem_scan hs).1

theorem exists_parse_iff :
    (∃ t, parse config text = .ok t) ↔
      ∃ reordered, reduce config text = .ok reordered ∧ Token.OneValue reordered := by
  constructor
  · rintro ⟨t, parsed⟩
    unfold parse at parsed
    split at parsed
    next => cases parsed
    next reordered reduced =>
      split at parsed
      next => cases parsed
      next built => exact ⟨reordered, reduced, (exists_build_iff reordered).mp ⟨_, built⟩⟩
  · rintro ⟨reordered, reduced, one⟩
    obtain ⟨t, built⟩ := (exists_build_iff reordered).mpr one
    exact ⟨t, by simp only [parse, reduced, built]⟩

theorem malformed_of_balanced (balanced : Token.Balanced (scan config text.toList))
    (none : ¬∃ t, parse config text = .ok t) :
    ∃ cause, parse config text = .error (.malformed cause) ∧
      evaluate config text = .error (.malformed cause) := by
  obtain ⟨reordered, reduced⟩ := exists_reduce_iff.mpr balanced
  cases built : build reordered with
  | ok t => exact absurd ⟨t, by simp only [parse, reduced, built]⟩ none
  | error cause =>
    have parsed : parse config text = .error (.malformed cause) := by
      simp only [parse, reduced, built]
    exact ⟨cause, parsed, by simp only [evaluate, trace, parsed]⟩

theorem Tree.length_operands (t : Tree) :
    (Token.operands t.tokens).length = (Token.symbols t.tokens).length + 1 := by
  induction t with
  | leaf o => rw [tokens_leaf]; rfl
  | branch s l r ihl ihr =>
    simp only [tokens_branch, Token.operands_append, Token.symbols_append, List.length_append, ihl, ihr]
    simp [Token.operand?, Token.symbol?]
    omega

theorem exists_tree_of_evaluate {text : String} {value : Float} (h : evaluate config text = .ok value) :
    ∃ t : Tree, reorder config (scan config text.toList) = .ok t.tokens ∧
      t.evaluate config = .ok value := by
  rw [evaluate_eq] at h
  cases reordered : reorder config (scan config text.toList) with
  | error e => simp [reordered] at h
  | ok tokens =>
    cases built : build tokens with
    | error e => simp [reordered, built] at h
    | ok t =>
      simp only [reordered, built] at h
      cases valued : t.evaluate config with
      | error e =>
        rw [valued] at h
        cases h
      | ok v =>
        rw [valued] at h
        cases h
        exact ⟨t, by rw [tokens_of_build built], valued⟩

/-- A text that has a value has one operand more than operators. -/
theorem length_operands_of_evaluate {value : Float} (h : evaluate config text = .ok value) :
    (Token.operands (scan config text.toList)).length =
      (Token.symbols (scan config text.toList)).length + 1 := by
  obtain ⟨t, reordered, _⟩ := exists_tree_of_evaluate h
  have permuted := reorder_perm reordered
  calc (Token.operands (scan config text.toList)).length
      = (Token.operands t.tokens).length := by
        rw [← Token.operands_unparenthesized]
        exact (permuted.filterMap _).length_eq.symm
    _ = (Token.symbols t.tokens).length + 1 := t.length_operands
    _ = (Token.symbols (scan config text.toList)).length + 1 := by
        rw [← Token.symbols_unparenthesized (scan config text.toList)]
        exact congrArg (· + 1) (permuted.filterMap _).length_eq

/-- A text is read as it should be just when its operands and operators alternate
wherever its reordered tokens leave one value. -/
theorem readsStrictly_iff (config : Config) (text : String) :
    config.ReadsStrictly text ↔
      ∀ reordered, reduce config text = .ok reordered → Token.OneValue reordered →
        Token.Alternating (scan config text.toList) := by
  constructor
  · intro strict reordered reduced one
    have sentence := strict.sentence (exists_parse_iff.mpr ⟨reordered, reduced, one⟩)
    exact ((sentence_iff _).mp sentence).2
  · intro alternating
    have accepted : (∃ t, parse config text = .ok t) → Sentence (scan config text.toList) := by
      intro parsed
      obtain ⟨reordered, reduced, one⟩ := exists_parse_iff.mp parsed
      have balanced := exists_reduce_iff.mp ⟨reordered, reduced⟩
      exact (sentence_iff _).mpr ⟨balanced, alternating reordered reduced one⟩
    refine ⟨accepted, ?_⟩
    intro balanced none
    exact malformed_of_balanced balanced fun parsed => none (accepted parsed)

/-- The text `1 2 +` has the tree and the value of `1 + 2`. -/
theorem not_readsStrictly_operatorLast :
    let one : Operand := .literal ⟨"1", by decide⟩
    let two : Operand := .literal ⟨"2", by decide⟩
    parse .standard "1 2 +" = .ok (.branch Config.plus.1 (.leaf one) (.leaf two)) ∧
      Token.Balanced (scan .standard "1 2 +".toList) ∧
      ¬Sentence (scan .standard "1 2 +".toList) ∧
      ¬Config.standard.ReadsStrictly "1 2 +" := by
  intro one two
  have scanned : scan .standard "1 2 +".toList = [.operand one, .operand two, .operator Config.plus.1] := by
    decide +kernel
  have parsed : parse .standard "1 2 +" = .ok (.branch Config.plus.1 (.leaf one) (.leaf two)) := by
    rw [parse, reduce, scanned]
    rfl
  have balanced : Token.Balanced (scan .standard "1 2 +".toList) := by
    rw [scanned, ← Token.mismatch_eq_none_iff]
    rfl
  have none : ¬Sentence (scan .standard "1 2 +".toList) := by
    rw [scanned, sentence_iff]
    exact fun sentence => absurd sentence.2 (by decide)
  exact ⟨parsed, balanced, none, fun strict => none (strict.sentence ⟨_, parsed⟩)⟩

end Abacus
