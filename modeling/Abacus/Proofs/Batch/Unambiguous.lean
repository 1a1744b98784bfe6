/-
# What a line of results says

A line of results shows an expression and then a value or an error.  Nothing in it is
escaped, and an expression may hold what looks like the rest of a line.  Still two
workers that report the same line report the same thing:

    w.report.text = v.report.text  ↔  same expression, and the same shown

The line is read from its end, where a worker writes nothing that could be taken for
a sign of the line itself:

| line | read up to | because |
| :-- | :-- | :-- |
| `1 + 2 = 3.0` | its last space | a number has none |
| `1 + -> ERROR: …` | its last angle bracket | an error has none |

A line of a value is none of an error: behind the last equals sign of the first there is
one space, and the error of the second stands behind any equals sign there is.

This is not so of any outcome.  It needs that an error has no equals sign and no angle
bracket (`Outcome.IsClear`), although it may quote the tokens of the expression.  They
are numbers, names and operators, and under the standard operators a sign is neither, so
it is skipped.
-/
import Abacus.Proofs.Batch.Rendering
import Abacus.Proofs.Config.Record
import Abacus.Worker

namespace Abacus

open Abacus.Text

/-- The outcome as it is shown: the text of its value, or of why there is none. -/
def Outcome.shown (o : Outcome) : Except String String :=
  o.verdict.map writeFloat

/-- The characters that part an expression from its verdict. -/
def signs : List Char := ['=', '>']

def hasNoSign (text : String) : Bool :=
  signs.all fun c => !text.toList.contains c

/-- No error holds one of the signs. -/
def Outcome.IsClear (o : Outcome) : Prop :=
  ∀ message, o.verdict = .error message → ∀ c ∈ signs, c ∉ message.toList

/-! ## What an error can hold -/

section Errors

variable {config : Config} {text : String} {c : Char}

theorem notMem_of_hasNoSign (h : hasNoSign text = true) (sign : c ∈ signs) : c ∉ text.toList := by
  simpa using List.all_eq_true.mp h c sign

theorem skips_of_mem_text {t : Token} (read : t ∈ scan config text.toList) (hc : c ∈ t.text.toList) :
    config.skips c = false := by
  obtain ⟨readable, -⟩ := exists_cut_of_mem_scan read
  cases t with
  | operand o =>
    cases o with
    | literal n =>
      -- a literal is printed without leading zeros, which are not its source
      have digits := (Bool.and_eq_true_iff.mp n.isNumeral_text).2
      simp [Config.skips, List.all_eq_true.mp digits c hc]
    | name n => exact Token.skips_of_mem_source readable hc
  | operator s => exact Token.skips_of_mem_source readable hc
  | opening => exact Token.skips_of_mem_source readable hc
  | closing => exact Token.skips_of_mem_source readable hc

theorem notMem_message_of_malformed {cause : Malformed} (sign : c ∈ signs) (skipped : config.skips c = true)
    (h : evaluate config text = .error (.malformed cause)) : c ∉ cause.message.toList := by
  cases cause with
  | empty => exact notMem_of_hasNoSign (by decide +kernel) sign
  | parenthesis token =>
    obtain ⟨tokens, reordered, built⟩ := exists_build_of_malformed h
    exact absurd built (build_ne_parenthesis (isParenthesis_of_mem_reorderFrom reordered) token)
  | missingOperand => exact notMem_of_hasNoSign (by decide +kernel) sign
  | leftover rest =>
    show c ∉ ("Invalid expression (remaining operands): " ++ Token.joined rest).toList
    rw [String.toList_append, List.mem_append]
    rintro (worded | joined)
    · exact notMem_of_hasNoSign (by decide +kernel) sign worded
    · rcases Token.mem_joined joined with rfl | ⟨t, left, inside⟩
      · revert sign
        decide
      · rw [skips_of_mem_text (mem_scan_of_leftover h left) inside] at skipped
        cases skipped

/-- An error has no sign that is skipped when it is read. -/
theorem notMem_message (answers : config.Answers) (sign : c ∈ signs) (skipped : config.skips c = true)
    {e : ExpressionError} (h : evaluate config text = .error e) : c ∉ e.message.toList := by
  rcases evaluate_cases answers text with ⟨x, valued⟩ | ⟨cause, failed⟩ | ⟨cause, failed⟩
  · cases h.symm.trans valued
  · cases h.symm.trans failed
    refine notMem_of_hasNoSign ?_ sign
    cases cause <;> decide +kernel
  · cases h.symm.trans failed
    exact notMem_message_of_malformed sign skipped h

end Errors

/-! ## What a worker reports -/

theorem Config.exists_bindAll (config : Config) {bindings : List (String × Float)}
    (lettered : ∀ entry ∈ bindings, isLettered entry.1 = true) :
    ∃ bound, config.bindAll bindings = .ok bound ∧ bound.operators = config.operators := by
  induction bindings generalizing config with
  | nil => exact ⟨config, rfl, rfl⟩
  | cons entry bindings ih =>
    obtain ⟨name, x⟩ := entry
    obtain ⟨first, others⟩ := List.forall_mem_cons.mp lettered
    have inserted : config.insertVariable name x = .ok (config.withVariable ⟨name, first⟩ x) :=
      insertVariable_eq_ok_iff.mpr ⟨⟨name, first⟩, rfl, rfl⟩
    obtain ⟨bound, taken, same⟩ := ih (config.withVariable ⟨name, first⟩ x) others
    refine ⟨bound, ?_, same⟩
    rw [bindAll, inserted]
    exact taken

theorem Worker.isClear_report {w : Worker} (lettered : ∀ name ∈ w.bindings.keys, isLettered name = true) :
    w.report.IsClear := by
  intro message failed c sign
  have named : ∀ entry ∈ w.bindings.toList, isLettered entry.1 = true :=
    fun entry member => lettered entry.1 (List.mem_map_of_mem member)
  obtain ⟨config, bound, standard⟩ := Config.exists_bindAll .standard named
  have answers : config.Answers := by
    intro s op found
    rw [standard] at found
    exact Config.answers_standard s op found
  have skipped : config.skips c = true := by
    have skips : signs.all Config.standard.skips = true := by decide
    have skipped := List.all_eq_true.mp skips c sign
    simp only [Config.skips, Config.isMark, standard] at skipped ⊢
    exact skipped
  rw [report, value, bound] at failed
  dsimp only at failed
  cases evaluated : evaluate config w.expression.1 with
  | ok x =>
    rw [evaluated] at failed
    cases failed
  | error e =>
    rw [evaluated] at failed
    cases failed
    exact notMem_message answers sign skipped evaluated

/-! ## Reading a line -/

theorem append_cons_inj_of_last {α : Type} {c : α} {x x' z z' : List α} (h : x ++ c :: z = x' ++ c :: z')
    (last : c ∉ z) (last' : c ∉ z') : x = x' ∧ z = z' := by
  have behind : ∀ {as z z' : List α}, c ∉ z → c :: z = as ++ c :: z' → as = [] ∧ z = z' := by
    intro as z z' last same
    cases as with
    | nil => exact ⟨rfl, (List.cons.inj same).2⟩
    | cons a as =>
      rw [(List.cons.inj same).2] at last
      simp at last
  rcases List.append_eq_append_iff.mp h with ⟨as, front, back⟩ | ⟨as, front, back⟩
  · obtain ⟨rfl, same⟩ := behind last back
    exact ⟨by simpa using front.symm, same⟩
  · obtain ⟨rfl, same⟩ := behind last' back
    exact ⟨by simpa using front, same.symm⟩

theorem space_notMem_writeFloat (x : Float) : ' ' ∉ (writeFloat x).toList := by
  intro member
  have numeric := isNumeric_writeFloat x ' ' member
  revert numeric
  decide

namespace Outcome

variable {o o' : Outcome} {x : Float} {message : String}

theorem text_eq_match (o : Outcome) :
    o.text = match o.shown with
      | .ok value => o.expression ++ " = " ++ value
      | .error message => o.expression ++ " -> ERROR: " ++ message := by
  rw [text, shown]
  cases o.verdict <;> rfl

theorem toList_text_ok (h : o.verdict = .ok x) :
    o.text.toList = (o.expression.toList ++ [' ', '=']) ++ ' ' :: (writeFloat x).toList := by
  have line : o.text = o.expression ++ " = " ++ writeFloat x := by
    rw [text, h]
    rfl
  simp [line]

theorem toList_text_error (h : o.verdict = .error message) :
    o.text.toList = (o.expression.toList ++ [' ', '-']) ++ '>' :: (" ERROR: ".toList ++ message.toList) := by
  have line : o.text = o.expression ++ " -> ERROR: " ++ message := by
    rw [text, h]
    rfl
  simp [line]

theorem text_ne_of_ok_of_error (valued : o.verdict = .ok x) (failed : o'.verdict = .error message)
    (clear : '=' ∉ message.toList) : o.text ≠ o'.text := by
  intro same
  have lists := congrArg String.toList same
  rw [toList_text_ok valued, toList_text_error failed, List.append_assoc, List.append_assoc] at lists
  rcases List.append_eq_append_iff.mp lists with ⟨between, -, behind⟩ | ⟨between, -, behind⟩
  · -- the error, which has two spaces in front, stands behind the equals sign
    have spaces := congrArg (List.count ' ') behind
    have one : (writeFloat x).toList.count ' ' = 0 := List.count_eq_zero_of_not_mem (space_notMem_writeFloat x)
    simp [one] at spaces
    omega
  · -- the equals sign stands in the error
    have member : '=' ∈ [' ', '-'] ++ '>' :: (" ERROR: ".toList ++ message.toList) := by
      rw [behind]
      simp
    simp [clear] at member

/-- Of outcomes whose errors are clear, the lines are the same just when all is that they show. -/
theorem text_eq_iff (clear : o.IsClear) (clear' : o'.IsClear) :
    o.text = o'.text ↔ o.expression = o'.expression ∧ o.shown = o'.shown := by
  have bracket {message : String} (clear : ∀ c ∈ signs, c ∉ message.toList) :
      '>' ∉ " ERROR: ".toList ++ message.toList := by
    simp [clear '>' (by decide)]
  constructor
  · intro same
    have lists := congrArg String.toList same
    cases verdict : o.verdict with
    | ok x =>
      cases verdict' : o'.verdict with
      | ok x' =>
        rw [toList_text_ok verdict, toList_text_ok verdict'] at lists
        obtain ⟨front, back⟩ :=
          append_cons_inj_of_last lists (space_notMem_writeFloat x) (space_notMem_writeFloat x')
        refine ⟨String.toList_inj.mp (List.append_cancel_right front), ?_⟩
        rw [shown, shown, verdict, verdict']
        exact congrArg Except.ok (String.toList_inj.mp back)
      | error message' =>
        exact absurd same (text_ne_of_ok_of_error verdict verdict' (clear' _ verdict' '=' (by decide)))
    | error message =>
      cases verdict' : o'.verdict with
      | ok x' =>
        exact absurd same.symm (text_ne_of_ok_of_error verdict' verdict (clear _ verdict '=' (by decide)))
      | error message' =>
        rw [toList_text_error verdict, toList_text_error verdict'] at lists
        obtain ⟨front, back⟩ :=
          append_cons_inj_of_last lists (bracket (clear _ verdict)) (bracket (clear' _ verdict'))
        refine ⟨String.toList_inj.mp (List.append_cancel_right front), ?_⟩
        rw [shown, shown, verdict, verdict']
        exact congrArg Except.error (String.toList_inj.mp (List.append_cancel_left back))
  · rintro ⟨expression, alike⟩
    rw [text_eq_match, text_eq_match, expression, alike]

/-- An error that is not clear is read in another way too. -/
example : (Outcome.mk ⟨1, by decide⟩ "a" (.error "b -> ERROR: c")).text =
    (Outcome.mk ⟨1, by decide⟩ "a -> ERROR: b" (.error "c")).text := by rfl

end Outcome

/-- Workers report the same line just when they have the same expression and what they show of it
is the same: both a value with one text, or both an error with one wording. -/
theorem text_report_eq_iff {w v : Worker} (lettered : ∀ name ∈ w.bindings.keys, isLettered name = true)
    (lettered' : ∀ name ∈ v.bindings.keys, isLettered name = true) :
    w.report.text = v.report.text ↔
      w.expression.1 = v.expression.1 ∧ w.report.shown = v.report.shown :=
  Outcome.text_eq_iff (Worker.isClear_report lettered) (Worker.isClear_report lettered')

/-- The expression of the first is the line that looks like the second's. -/
theorem text_report_eq_iff_signsInside :
    let w : Worker := ⟨⟨"1 -> ERROR: x = nan", by decide⟩, ⟨1, by decide⟩, .empty⟩
    let v : Worker := ⟨⟨"1", by decide⟩, ⟨2, by decide⟩, Table.empty.insert "x" 2.5⟩
    (∀ name ∈ w.bindings.keys, isLettered name = true) ∧
      (∀ name ∈ v.bindings.keys, isLettered name = true) ∧
      (w.report.text = v.report.text ↔ w.expression.1 = v.expression.1 ∧ w.report.shown = v.report.shown) ∧
      w.report.text ≠ v.report.text := by
  intro w v
  have unbound : ∀ name ∈ w.bindings.keys, isLettered name = true := nofun
  have bound : ∀ name ∈ v.bindings.keys, isLettered name = true := by
    intro name member
    obtain rfl := List.mem_singleton.mp member
    decide
  have same := text_report_eq_iff unbound bound
  refine ⟨unbound, bound, same, ?_⟩
  intro lines
  have expressions := (same.mp lines).1
  revert expressions
  decide

end Abacus
