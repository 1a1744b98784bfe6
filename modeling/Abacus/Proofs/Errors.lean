/-
# Which errors an expression can have

Where every operator function answers, an expression has a value, or its
parentheses do not match, or it is malformed:

    evaluate config text  =  ok value  |  unbalanced cause  |  malformed cause

Each stage could fail in more ways by itself.  What rules these out is
established one stage earlier:

| stage | could fail by | but its input |
| :-- | :-- | :-- |
| operator stack | an operator that is not registered | was read by the scanner |
| builder | a parenthesis | came off the operator stack |
| evaluation | an operator that is not registered | is a tree over tokens that were read |
| evaluation | too few values | is a tree |

Tokens and nodes are also checked when they are made; every token passes the
check of its kind, and every tree that of its shape.
-/
import Abacus.Expression
import Abacus.Proofs.Postfix.Balance
import Abacus.Proofs.Postfix.Permutation
import Abacus.Proofs.Token.Spelling
import Abacus.Proofs.Tree.Malformed
import Abacus.Proofs.Tree.Value
import Abacus.Token.Field

namespace Abacus

variable {config : Config} {text : String}

/-- Every operator function of the configuration answers for all operands. -/
def Config.Answers (config : Config) : Prop :=
  ∀ s op, config.operators.find? s = some op → ∀ a b, ∃ value, op.operation.apply a b = .ok value

/-- The operator is registered, and its function answers for all operands. -/
def Config.AnswersAt (config : Config) (s : Symbol) : Prop :=
  ∃ op, config.operators.find? s = some op ∧ ∀ a b, ∃ value, op.operation.apply a b = .ok value

theorem Config.Answers.answersAt (answers : config.Answers) {s : Symbol}
    (registered : config.operators.contains s = true) : config.AnswersAt s := by
  obtain ⟨op, found⟩ := Option.isSome_iff_exists.mp registered
  exact ⟨op, found, answers s op found⟩

/-! ## The standard operators answer -/

namespace Config

theorem answers_empty : Config.empty.Answers := by
  intro s op found
  cases found

theorem Answers.withOperator (h : config.Answers) (s : UsableSymbol) {op : Operator}
    (total : ∀ a b, ∃ value, op.operation.apply a b = .ok value) : (config.withOperator s op).Answers := by
  intro x op' found
  rw [Config.withOperator, Table.find?_insert] at found
  split at found
  next => cases found; exact total
  next => exact h x op' found

theorem answers_standard : Config.standard.Answers :=
  answers_empty
    |>.withOperator plus (fun _ _ => ⟨_, rfl⟩)
    |>.withOperator minus (fun _ _ => ⟨_, rfl⟩)
    |>.withOperator times (fun _ _ => ⟨_, rfl⟩)
    |>.withOperator slash (fun _ _ => ⟨_, rfl⟩)
    |>.withOperator caret (fun _ _ => ⟨_, rfl⟩)

end Config

/-! ## What is made passes its check -/

theorem build_ne_parenthesis {tokens : List Token} (none : ∀ t ∈ tokens, t.isParenthesis = false)
    (token : Token) : build tokens ≠ .error (.parenthesis token) := by
  intro h
  cases describes_of_build h with
  | parenthesis _ last =>
    obtain ⟨member, parenthesis⟩ := List.mem_filter.mp (List.mem_of_getLast? last)
    rw [none token member] at parenthesis
    cases parenthesis

theorem Tree.exists_evaluate_of_answersAt (t : Tree)
    (answers : ∀ s, .operator s ∈ t.tokens → config.AnswersAt s) :
    ∃ value, t.evaluate config = .ok value := by
  induction t with
  | leaf o => exact ⟨config.valueOf o, evaluate_leaf config o⟩
  | branch s l r ihl ihr =>
    obtain ⟨a, left⟩ := ihl fun o ho => answers o (by simp [ho])
    obtain ⟨b, right⟩ := ihr fun o ho => answers o (by simp [ho])
    obtain ⟨op, found, total⟩ := answers s (by simp)
    obtain ⟨value, answer⟩ := total a b
    refine ⟨value, ?_⟩
    rw [evaluate_branch, left, right]
    simp [callOf, found, answer, Run.after, Run.stop, Except.mapError]

theorem Tree.exists_evaluate (answers : config.Answers) (t : Tree)
    (registered : ∀ s, .operator s ∈ t.tokens → config.operators.contains s = true) :
    ∃ value, t.evaluate config = .ok value :=
  t.exists_evaluate_of_answersAt fun s hs => answers.answersAt (registered s hs)

theorem registered_of_reorder_scan {out : List Token} (h : reorder config (scan config text.toList) = .ok out)
    {s : Symbol} (hs : .operator s ∈ out) : config.operators.contains s = true := by
  have read := (reorder_perm h).mem_iff.mp hs
  exact registered_of_mem_scan (List.mem_of_mem_filter read)

/-! ## All stages -/

theorem exists_build_of_malformed {cause : Malformed}
    (h : evaluate config text = .error (.malformed cause)) :
    ∃ tokens, reorder config (scan config text.toList) = .ok tokens ∧ build tokens = .error cause := by
  rw [evaluate_eq] at h
  split at h
  next e _ => cases e <;> cases h
  next tokens reordered =>
    split at h
    next built =>
      cases h
      exact ⟨tokens, reordered, built⟩
    next tree _ =>
      -- what a tree fails of is not that it is malformed
      cases failed : tree.evaluate config with
      | ok x =>
        rw [failed] at h
        cases h
      | error e =>
        rw [failed] at h
        cases e <;> cases h

theorem evaluate_of_balanced (answers : config.Answers) (balanced : Token.Balanced (scan config text.toList)) :
    (∃ value, evaluate config text = .ok value) ∨
      ∃ cause, evaluate config text = .error (.malformed cause) := by
  obtain ⟨tokens, reordered⟩ := (reorder_balanced fun s hs => registered_of_mem_scan hs).1.mpr balanced
  rw [evaluate_eq, reordered]
  dsimp only
  cases built : build tokens with
  | error cause => exact .inr ⟨cause, rfl⟩
  | ok t =>
    have known : ∀ s, .operator s ∈ t.tokens → config.operators.contains s = true := by
      rw [← tokens_of_build built]
      exact fun s hs => registered_of_reorder_scan reordered hs
    obtain ⟨value, valued⟩ := t.exists_evaluate answers known
    exact .inl ⟨value, by dsimp only; rw [valued]; rfl⟩

/-- An expression has a value, or its parentheses do not match, or it is malformed. -/
theorem evaluate_cases (answers : config.Answers) (text : String) :
    (∃ value, evaluate config text = .ok value) ∨
      (∃ cause, evaluate config text = .error (.unbalanced cause)) ∨
        ∃ cause, evaluate config text = .error (.malformed cause) := by
  have known : ∀ s, .operator s ∈ scan config text.toList → config.operators.contains s = true :=
    fun s hs => registered_of_mem_scan hs
  by_cases balanced : Token.Balanced (scan config text.toList)
  · exact (evaluate_of_balanced answers balanced).imp_right .inr
  · cases reordered : reorder config (scan config text.toList) with
    | ok tokens => exact absurd ((reorder_balanced known).1.mp ⟨tokens, reordered⟩) balanced
    | error e =>
      obtain ⟨cause, rfl⟩ := (reorder_balanced known).2 e reordered
      exact .inr (.inl ⟨cause, by rw [evaluate_eq, reordered]; rfl⟩)

end Abacus
