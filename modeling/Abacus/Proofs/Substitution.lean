/-
# The substitution law

An expression that has a value may take the place of a variable that has this
value.  For every configuration, every name `x`, every text `f` that has a value
and every text `e`, well formed or not:

    evaluate config f = .ok value  →
      evaluate config (e with every run x replaced by (f))
        = evaluate (config with x bound to value) e

up to the wording of malformed expressions: both sides have the same value, or
end with errors of the same kind (`ExpressionError.kind`).

The law is the composition of four, one for each stage.

| stage | what becomes of the place of `x` |
| :-- | :-- |
| scanner | the tokens of `f` between parentheses (`scan_substitute`) |
| operator stack | the reordered tokens of `f` (`reorder_replace`) |
| builder | the tree of `f` (`build_replace`) |
| evaluation | the value of `f` (`Tree.evaluate_graft`) |

Only the last two know that `f` has a tree and a value.  The text `f` may mention
`x` itself; what stands for `x` there is what `config` says.
-/
import Abacus.Proofs.Acceptance
import Abacus.Proofs.Postfix.Group
import Abacus.Proofs.Token.Scan
import Abacus.Proofs.Tree.Graft
import Abacus.Substitution

namespace Abacus

open Abacus.Text
open Token (replace)

variable {config : Config} {o : Operand}

/-! ## The scanner -/

/-- A name that consists of letters is a name of a variable. -/
def Name.ofLettered (x : LetteredName) : Name where
  text := x.1
  text_ne := by
    have lettered := x.2
    rw [isLettered, Bool.and_eq_true_iff] at lettered
    simpa using lettered.1

theorem Name.ofRun_eq_iff {c : Char} {rest : List Char} {x : LetteredName} :
    Name.ofRun c rest = .ofLettered x ↔ c :: rest.takeWhile isLetter = x.1.toList := by
  rw [ofRun, ofLettered, mk.injEq]
  constructor
  · intro h
    rw [← h, String.toList_ofList]
  · intro h
    rw [h, String.ofList_toList]

section Substitute

variable {x : String} {f : List Char}

theorem substitute_letter {c : Char} (h : isLetter c = true) (rest : List Char) :
    substitute x f (c :: rest) =
      (if c :: rest.takeWhile isLetter = x.toList then '(' :: f ++ [')']
        else c :: rest.takeWhile isLetter) ++ substitute x f (rest.dropWhile isLetter) := by
  rw [substitute, if_pos h]

theorem substitute_other {c : Char} (h : isLetter c = false) (rest : List Char) :
    substitute x f (c :: rest) = c :: substitute x f rest := by
  rw [substitute, if_neg (by simp [h])]

theorem substitute_append {front : List Char} (h : ∀ c ∈ front, isLetter c = false) (rest : List Char) :
    substitute x f (front ++ rest) = front ++ substitute x f rest := by
  induction front with
  | nil => rfl
  | cons c front ih =>
    rw [List.cons_append, substitute_other (h c List.mem_cons_self),
      ih fun d hd => h d (List.mem_cons_of_mem c hd), List.cons_append]

theorem head?_substitute (text : List Char) :
    ∀ c ∈ (substitute x f text).head?, c = '(' ∨ c ∈ text.head? := by
  intro c hc
  cases text with
  | nil => rw [substitute] at hc; cases hc
  | cons d rest =>
    cases letter : isLetter d with
    | false =>
      rw [substitute_other letter] at hc
      exact .inr hc
    | true =>
      rw [substitute_letter letter] at hc
      split at hc
      · left
        simpa using hc.symm
      · right
        simpa using hc

end Substitute

/-- A substituted text has the tokens of the text, with those of the expression,
between parentheses, for every token of the variable. -/
theorem scan_substitute (x : LetteredName) (f text : List Char) :
    scan config (substitute x.1 f text) =
      replace (.name (.ofLettered x)) (.opening :: scan config f ++ [.closing]) (scan config text) := by
  fun_induction scan config text with
  | case1 => rw [substitute, scan_nil, Token.replace_nil]
  | case2 c rest digit ih =>
    -- the run of digits stays, and what follows it is still no digit
    have digits : ∀ d ∈ rest.takeWhile Char.isDigit, isLetter d = false :=
      fun d hd => isLetter_of_isDigit (List.mem_takeWhile_imp hd)
    have stops : ∀ d ∈ (substitute x.1 f (rest.dropWhile Char.isDigit)).head?, d.isDigit = false := by
      intro d hd
      rcases head?_substitute _ d hd with rfl | hd
      · decide
      · exact head?_dropWhile_stops _ _ d hd
    have kept : substitute x.1 f (c :: rest) =
        c :: (rest.takeWhile Char.isDigit ++ substitute x.1 f (rest.dropWhile Char.isDigit)) := by
      rw [substitute_other (isLetter_of_isDigit digit), ← substitute_append digits,
        List.takeWhile_append_dropWhile]
    rw [kept, scan_digit_run digit rest stops, ih, Token.replace_cons_of_ne (by simp)]
  | case3 c rest digit mark ih =>
    rw [substitute_other (Config.isLetter_of_isMark mark), scan_mark (by simpa using digit) mark, ih,
      Token.replace_cons_of_ne (Token.ofChar_ne_operand c _)]
  | case4 c rest digit mark letter ih =>
    have stops : ∀ d ∈ (substitute x.1 f (rest.dropWhile isLetter)).head?, isLetter d = false := by
      intro d hd
      rcases head?_substitute _ d hd with rfl | hd
      · decide
      · exact head?_dropWhile_stops _ _ d hd
    rw [substitute_letter letter]
    by_cases run : c :: rest.takeWhile isLetter = x.1.toList
    · rw [if_pos run, Name.ofRun_eq_iff.mpr run, Token.replace_cons_self, ← ih]
      simp [scan_opening, scan_append_closing]
    · have other : Token.operand (.name (.ofRun c rest)) ≠ .operand (.name (.ofLettered x)) := by
        simpa [Name.ofRun_eq_iff] using run
      rw [if_neg run, List.cons_append, scan_letter_run letter rest stops, ih,
        Token.replace_cons_of_ne other]
  | case5 c rest digit mark letter ih =>
    rw [substitute_other (by simpa using letter), scan_skip (by simpa using digit)
      (by simpa using mark) (by simpa using letter), ih]

/-! ## All stages -/

inductive ErrorKind where
  | unbalanced
  | malformed
  | unregistered
  | exhausted
  | fault (fault : Fault)
deriving DecidableEq

def ExpressionError.kind : ExpressionError → ErrorKind
  | unbalanced _ => .unbalanced
  | malformed _ => .malformed
  | unregistered _ => .unregistered
  | exhausted => .exhausted
  | fault f => .fault f

theorem reorder_scan_withVariable (x : LetteredName) (value : Float) (text : List Char) :
    reorder (config.withVariable x value) (scan (config.withVariable x value) text) =
      reorder config (scan config text) := by
  have scanned : scan (config.withVariable x value) text = scan config text :=
    scan_congr fun _ _ => rfl
  have alike : ∀ s, (config.withVariable x value).BindsAlike config s := fun _ => rfl
  rw [scanned]
  exact reorderFrom_congr (fun s _ => alike s) fun s _ => alike s

theorem valueOf_withVariable_self (x : LetteredName) (value : Float) :
    (config.withVariable x value).valueOf (.name (.ofLettered x)) = value := by
  simp [Config.valueOf, Config.withVariable, Name.ofLettered, Table.find?_insert]

theorem valueOf_withVariable_of_ne {x : LetteredName} {value : Float} {p : Operand}
    (h : p ≠ .name (.ofLettered x)) :
    (config.withVariable x value).valueOf p = config.valueOf p := by
  cases p with
  | literal n => rfl
  | name n =>
    have other : x.1 ≠ n.text := by
      rintro same
      apply h
      rw [Operand.name.injEq, Name.ofLettered, Name.mk.injEq]
      exact same.symm
    simp [Config.valueOf, Config.withVariable, Table.find?_insert, other]

/-- An expression that has a value may take the place of a variable that has
this value, in every text. -/
theorem evaluate_substitute (config : Config) (x : LetteredName) (f : String) (value : Float)
    (h : evaluate config f = .ok value) (text : String) :
    (evaluate config (String.ofList (substitute x.1 f.toList text.toList))).mapError ExpressionError.kind =
      (evaluate (config.withVariable x value) text).mapError ExpressionError.kind := by
  obtain ⟨sub, reordered, valued⟩ := exists_tree_of_evaluate h
  rw [evaluate_eq, evaluate_eq, String.toList_ofList, scan_substitute, reorder_scan_withVariable,
    reorder_replace reordered]
  cases reorder config (scan config text.toList) with
  | error e => rfl
  | ok tokens =>
    obtain ⟨whole, broken⟩ := build_replace (.name (.ofLettered x)) sub tokens
    cases built : build tokens with
    | error e =>
      obtain ⟨e', built'⟩ := broken e built
      simp only [Except.map, built, built']
      rfl
    | ok t =>
      have grafted : (t.graft (.name (.ofLettered x)) sub).evaluate config =
          t.evaluate (config.withVariable x value) :=
        Tree.evaluate_graft valued (valueOf_withVariable_self x value)
          (fun p hp => valueOf_withVariable_of_ne hp) rfl t
      simp [Except.map, built, whole t built, grafted]

theorem evaluate_twoPlusY :
    evaluate .standard "2 + y" = .ok (Numeral.toFloat ⟨"2", by decide⟩ + 0.0) := by
  have scanned : scan .standard "2 + y".toList =
      [.operand (.literal ⟨"2", by decide⟩), .operator Config.plus.1,
        .operand (.name ⟨"y", by decide⟩)] := by
    decide +kernel
  rw [evaluate_eq, scanned]
  show ((Tree.branch Config.plus.1 (.leaf (.literal ⟨"2", by decide⟩))
    (.leaf (.name ⟨"y", by decide⟩))).evaluate .standard).mapError ExpressionError.ofRun = _
  rw [Tree.evaluate_branch, Tree.evaluate_leaf, Tree.evaluate_leaf]
  rfl

theorem evaluate_substitute_twoPlusY :
    let text := "3 * x - xx"
    let two : Float := Numeral.toFloat ⟨"2", by decide⟩
    substitute "x" "2 + y".toList text.toList = "3 * (2 + y) - xx".toList ∧
      evaluate .standard "2 + y" = .ok (two + 0.0) ∧
      (evaluate .standard (String.ofList (substitute "x" "2 + y".toList text.toList))).mapError
          ExpressionError.kind =
        (evaluate (Config.standard.withVariable ⟨"x", by decide⟩ (two + 0.0)) text).mapError
          ExpressionError.kind :=
  ⟨by decide +kernel, evaluate_twoPlusY,
    evaluate_substitute .standard ⟨"x", by decide⟩ "2 + y" _ evaluate_twoPlusY "3 * x - xx"⟩

end Abacus
