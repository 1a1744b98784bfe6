/-
# A printed tree reads as the tree

For every configuration and every tree over readable tokens:

    build (reorder (scan config t.text))  =  t.unpadded
    evaluate config t.text                =  t.evaluate config

A printed literal has lost its leading zeros, and nothing else changes
(`Tree.unpadded`); its value is the same.  Precedences and associativities have
no say, because the printer puts every operation between parentheses.

The printer, the scanner and the operator stack are each tied to a recursion on
the tree: to its rendering (`text_eq_rendering`), to its tokens with the
parentheses of the printed form (`scan_rendering`), and from these to its own
tokens (`shuntAll_grouped`), which the builder reads back.
-/
import Mathlib.Data.List.DropRight
import Abacus.Expression
import Abacus.Proofs.Postfix.Run
import Abacus.Proofs.Token.Spelling
import Abacus.Proofs.Tree.Value

namespace Abacus

open Abacus.Text

variable {config : Config}

/-! ## Without leading zeros -/

namespace Numeral

theorem trimmed_cases (n : Numeral) :
    (n.digits.toList.dropWhile (· = '0') = [] ∧ n.trimmed = ['0']) ∨
      (n.digits.toList.dropWhile (· = '0') ≠ [] ∧ n.trimmed = n.digits.toList.dropWhile (· = '0')) := by
  rw [trimmed]
  cases n.digits.toList.dropWhile (· = '0') with
  | nil => exact .inl ⟨rfl, rfl⟩
  | cons c rest => exact .inr ⟨List.cons_ne_nil _ _, rfl⟩

theorem isNumeral_text (n : Numeral) : isNumeral n.text = true := by
  have digits := List.all_eq_true.mp (Bool.and_eq_true_iff.mp n.isNumeral_digits).2
  rw [isNumeral, text, String.toList_ofList, Bool.and_eq_true, List.all_eq_true]
  rcases n.trimmed_cases with ⟨_, same⟩ | ⟨filled, same⟩
  · rw [same]
    refine ⟨rfl, ?_⟩
    intro c hc
    rw [List.mem_singleton.mp hc]
    rfl
  · rw [same]
    refine ⟨by simpa using filled, ?_⟩
    intro c hc
    exact digits c (List.dropWhile_subset _ hc)

/-- The literal without leading zeros; a zero keeps one. -/
def unpadded (n : Numeral) : Numeral where
  digits := n.text
  isNumeral_digits := n.isNumeral_text

theorem exists_zeros (n : Numeral) :
    ∃ zeros, (∀ c ∈ zeros, c = '0') ∧ n.digits.toList = zeros ++ n.unpadded.digits.toList ∧
      (n.unpadded.digits = "0" ∨ n.unpadded.digits.toList.head? ≠ some '0') := by
  have printed : n.unpadded.digits.toList = n.trimmed := String.toList_ofList
  have parts : n.digits.toList.takeWhile (· = '0') ++ n.digits.toList.dropWhile (· = '0') =
      n.digits.toList := List.takeWhile_append_dropWhile
  have zeros : ∀ c ∈ n.digits.toList.takeWhile (· = '0'), c = '0' :=
    fun c hc => of_decide_eq_true (List.mem_takeWhile_imp (p := fun d => decide (d = '0')) hc)
  rcases n.trimmed_cases with ⟨none, same⟩ | ⟨_, same⟩
  · -- all digits are zeros, of which the last one stays
    rw [none, List.append_nil] at parts
    rw [parts] at zeros
    obtain ⟨c, rest, _, list, _⟩ := n.exists_ofRun
    obtain ⟨front, last, split⟩ := (List.eq_nil_or_concat' n.digits.toList).resolve_left (by simp [list])
    refine ⟨front, fun d hd => zeros d (by simp [split, hd]), ?_, .inl ?_⟩
    · rw [printed, same, split, zeros last (by simp [split])]
    · change n.text = "0"
      rw [text, same]
  · refine ⟨_, zeros, by rw [printed, same, parts], .inr ?_⟩
    rw [printed, same]
    intro first
    have other := head?_dropWhile_stops (fun c => decide (c = '0')) n.digits.toList '0' first
    exact absurd rfl (of_decide_eq_false other)

theorem toFloat_unpadded (n : Numeral) : n.unpadded.toFloat = n.toFloat := by
  have significant : n.trimmed.dropWhile (· = '0') = n.digits.toList.dropWhile (· = '0') := by
    rcases n.trimmed_cases with ⟨zeros, same⟩ | ⟨_, same⟩
    · rw [same, zeros]
      rfl
    · rw [same]
      exact List.dropWhile_idempotent _ _
  simp only [toFloat, unpadded, text, String.toList_ofList, roundDecimal, significant]

end Numeral

/-- The operand as it is printed. -/
def Operand.unpadded : Operand → Operand
  | literal n => .literal n.unpadded
  | name n => .name n

theorem Operand.text_eq_source (o : Operand) : o.text = (Token.operand o.unpadded).source := by
  cases o <;> rfl

theorem Config.valueOf_unpadded (config : Config) (o : Operand) :
    config.valueOf o.unpadded = config.valueOf o := by
  cases o with
  | literal n => exact n.toFloat_unpadded
  | name n => rfl

namespace Tree

/-- The tree with every literal as it is printed. -/
def unpadded : Tree → Tree
  | leaf o => leaf o.unpadded
  | branch s l r => branch s l.unpadded r.unpadded

theorem evaluate_unpadded (config : Config) (t : Tree) : t.unpadded.evaluate config = t.evaluate config := by
  induction t with
  | leaf o => rw [unpadded, evaluate_leaf, evaluate_leaf, config.valueOf_unpadded]
  | branch s l r ihl ihr => rw [unpadded, evaluate_branch, evaluate_branch, ihl, ihr]

/-! ## The printer -/

/-- The nodes of a tree become one part, whatever lies below it. -/
theorem printParts_nodes (t : Tree) (parts : List String) (rest : List Tree) :
    printParts parts (t.nodes ++ rest) = printParts (t.rendering :: parts) rest := by
  induction t generalizing parts rest with
  | leaf o => rfl
  | branch s l r ihl ihr =>
    rw [nodes, List.append_assoc, List.append_assoc, ihl, ihr]
    rfl

theorem text_eq_rendering (t : Tree) : t.text = t.rendering := by
  have printed := t.printParts_nodes [] []
  rw [List.append_nil] at printed
  rw [text, walk_eq_nodes, printed, printParts]

/-! ## The scanner -/

/-- The tokens of a tree in the order of the text, every operation between parentheses. -/
def grouped : Tree → List Token
  | leaf o => [.operand o]
  | branch s l r => .opening :: (l.grouped ++ .operator s :: r.grouped) ++ [.closing]

theorem toList_rendering_branch (s : Symbol) (l r : Tree) :
    (branch s l r).rendering.toList =
      '(' :: (l.rendering.toList ++ ' ' :: ((Token.operator s).source.toList ++
        ' ' :: (r.rendering.toList ++ [')']))) := by
  simp [rendering, Token.source, toString]

end Tree

theorem scan_space (text : List Char) : scan config (' ' :: text) = scan config text := by
  have mark : config.isMark ' ' = false := by
    rw [Bool.eq_false_iff]
    intro mark
    exact absurd (Config.isBlank_of_isMark mark) (by decide)
  exact scan_skip (by decide) mark (by decide) text

theorem scan_append_space (a b : List Char) :
    scan config (a ++ ' ' :: b) = scan config a ++ scan config b := by
  rw [scan_append (by simp) (by simp; decide), scan_space]

namespace Tree

/-- A printed tree has the tokens of its unpadded form. -/
theorem scan_rendering (t : Tree) (readable : ∀ token ∈ t.tokens, token.IsReadable config) :
    scan config t.rendering.toList = t.unpadded.grouped := by
  induction t with
  | leaf o =>
    have read : (Token.operand o.unpadded).IsReadable config := by
      have whole := readable (.operand o) (by simp)
      cases o with
      | literal n => trivial
      | name n => exact whole
    rw [rendering, o.text_eq_source, scan_source read]
    rfl
  | branch s l r ihl ihr =>
    have left := ihl fun token ht => readable token (by simp [ht])
    have right := ihr fun token ht => readable token (by simp [ht])
    have registered : (Token.operator s).IsReadable config := readable (.operator s) (by simp)
    rw [toList_rendering_branch, scan_opening, scan_append_space, left,
      scan_source_append registered (fun _ _ => rfl), scan_space, scan_append_closing, right, scan_nil]
    simp [unpadded, grouped]

/-! ## The operator stack -/

/-- Grouped tokens let the tokens of the tree out, and leave the stack as it is. -/
theorem shuntAll_grouped (t : Tree) (stack : List Waiting) :
    shuntAll config stack t.grouped = .ok (t.tokens, stack) := by
  induction t generalizing stack with
  | leaf o =>
    rw [tokens_leaf]
    rfl
  | branch s l r ihl ihr =>
    have inside : reorder config (l.grouped ++ .operator s :: r.grouped) = .ok (branch s l r).tokens := by
      have arrive : shunt config [] (.operator s) = .ok ([], [.operator s]) := rfl
      have ended : releaseAll [.operator s] = .ok [.operator s] := rfl
      have right := reorderFrom_of_shuntAll (ihr [.operator s])
      rw [ended] at right
      rw [reorder, reorderFrom_append (ihl []), reorderFrom_cons, arrive, tokens_branch]
      simp [right, Except.map]
    exact shuntAll_group inside stack

theorem reorder_grouped (t : Tree) : reorder config t.grouped = .ok t.tokens := by
  have through : shuntAll config [] t.grouped = .ok (t.tokens, []) := t.shuntAll_grouped []
  rw [reorder, reorderFrom_of_shuntAll through]
  simp [releaseAll, Except.map]

end Tree

/-! ## All stages -/

/-- A printed tree is read as the tree without leading zeros, and has its value. -/
theorem build_reduce_text (config : Config) (t : Tree)
    (readable : ∀ token ∈ t.tokens, token.IsReadable config) :
    (∃ reordered, reduce config t.text = .ok reordered ∧ build reordered = .ok t.unpadded) ∧
      evaluate config t.text = (t.evaluate config).mapError .ofRun ∧
      ∀ n : Numeral, ∃ zeros, (∀ c ∈ zeros, c = '0') ∧
        n.digits.toList = zeros ++ n.unpadded.digits.toList ∧
          (n.unpadded.digits = "0" ∨ n.unpadded.digits.toList.head? ≠ some '0') := by
  have reordered : reduce config t.text = .ok t.unpadded.tokens := by
    rw [reduce, t.text_eq_rendering, t.scan_rendering readable, t.unpadded.reorder_grouped]
  refine ⟨⟨t.unpadded.tokens, reordered, build_tokens t.unpadded⟩, ?_, Numeral.exists_zeros⟩
  rw [evaluate_eq, ← reduce, reordered]
  simp only [build_tokens, Tree.evaluate_unpadded]

/-- The tree that is written `(007-xy)^00`. -/
def paddedTree : Tree :=
  .branch Config.caret.1
    (.branch Config.minus.1 (.leaf (.literal ⟨"007", by decide⟩)) (.leaf (.name ⟨"xy", by decide⟩)))
    (.leaf (.literal ⟨"00", by decide⟩))

theorem readable_paddedTree : ∀ token ∈ paddedTree.tokens, token.IsReadable .standard := by
  rw [Tree.tokens_eq_postorder]
  decide +kernel

theorem build_reduce_text_paddedTree :
    (∀ token ∈ paddedTree.tokens, token.IsReadable .standard) ∧
      paddedTree.text = "((7 - xy) ^ 0)" ∧
      (∃ reordered, reduce .standard paddedTree.text = .ok reordered ∧
        build reordered = .ok paddedTree.unpadded) ∧
      evaluate .standard paddedTree.text = (paddedTree.evaluate .standard).mapError .ofRun ∧
      ∀ n : Numeral, ∃ zeros, (∀ c ∈ zeros, c = '0') ∧
        n.digits.toList = zeros ++ n.unpadded.digits.toList ∧
          (n.unpadded.digits = "0" ∨ n.unpadded.digits.toList.head? ≠ some '0') :=
  ⟨readable_paddedTree, by rw [Tree.text_eq_rendering]; decide +kernel,
    build_reduce_text .standard paddedTree readable_paddedTree⟩

end Abacus
