/-
# What of a configuration a text hangs on

A text is read in four stages, and each of them looks things up in the
configuration.  What it looks up occurs in the text:

| stage | looks up |
| :-- | :-- |
| scanner | every character, for being an operator |
| operator stack | how the operators bind that were read |
| evaluation | what the functions of these operators compute |
| evaluation | the values of the names that were read |

The operators that are read are characters of the text, and the names are its
longest runs of letters (`exists_cut_of_mem_scan`).  So two configurations that
agree on these (`Config.AgreesOn`) read the text alike (`SameReading`): the same
tokens, the same tree, the same calls and the same value, or the same error at
the same stage.

They may differ in everything else: in operators whose characters the text does
not have, in names that stand in it only as parts of longer ones, in the order of
their tables, and in what they call their functions.
-/
import Abacus.Expression
import Abacus.Proofs.Postfix.Permutation
import Abacus.Proofs.Token.Spelling
import Abacus.Proofs.Tree.Value

namespace Abacus

open Abacus.Text

/-- The run is one of letters in the text, and no longer one. -/
def IsLetterRun (text run : List Char) : Prop :=
  run ≠ [] ∧ (∀ c ∈ run, isLetter c = true) ∧
    ∃ before behind, text = before ++ run ++ behind ∧
      (∀ c ∈ before.getLast?, isLetter c = false) ∧ ∀ c ∈ behind.head?, isLetter c = false

/-- How an operator binds, and what its function computes. -/
def Operator.behaviour (op : Operator) :
    (Nat × Associativity) × (Float → Float → Except Fault Float) :=
  (op.binding, op.operation.apply)

namespace Config

/-- A symbol is an operator in both configurations or in neither, and does the same. -/
def ActsAlike (config other : Config) (s : Symbol) : Prop :=
  (config.operators.find? s).map Operator.behaviour = (other.operators.find? s).map Operator.behaviour

/-- The configurations agree on the characters and on the names of a text.  A name
that is not bound counts as zero. -/
structure AgreesOn (config other : Config) (text : List Char) : Prop where
  operators : ∀ s : Symbol, s.char ∈ text → config.ActsAlike other s
  names : ∀ run, IsLetterRun text run →
    (config.bindings.find? (String.ofList run)).getD 0.0 =
      (other.bindings.find? (String.ofList run)).getD 0.0

end Config

/-- A text is read alike under two configurations. -/
structure SameReading (config other : Config) (text : String) : Prop where
  scanned : scan config text.toList = scan other text.toList
  reduced : reduce config text = reduce other text
  parsed : parse config text = parse other text
  traced : trace config text = trace other text
  evaluated : evaluate config text = evaluate other text
  reported : readingRecords config text = readingRecords other text

variable {config other : Config}

/-! ## What is read stands in the text -/

theorem mem_of_operator_mem_scan {text : List Char} {s : Symbol} (h : .operator s ∈ scan config text) :
    s.char ∈ text := by
  obtain ⟨-, before, behind, cut, -, -⟩ := exists_cut_of_mem_scan h
  rw [cut, Token.toList_source_operator]
  simp

theorem isLetterRun_of_name_mem_scan {text : List Char} {n : Name}
    (h : .operand (.name n) ∈ scan config text) : IsLetterRun text n.text.toList := by
  obtain ⟨lettered, cut⟩ := exists_cut_of_mem_scan h
  exact ⟨n.text_ne, List.all_eq_true.mp (Bool.and_eq_true_iff.mp lettered).2, cut⟩

theorem mem_scan_of_parse {text : String} {t : Tree} (h : parse config text = .ok t) {token : Token}
    (ht : token ∈ t.tokens) : token ∈ scan config text.toList := by
  unfold parse at h
  split at h
  next => cases h
  next reordered reduced =>
    split at h
    next => cases h
    next built =>
      cases h
      rw [← tokens_of_build built] at ht
      exact List.mem_of_mem_filter ((reorder_perm reduced).mem_iff.mp ht)

/-! ## Acting alike -/

namespace Config.ActsAlike

variable {s : Symbol}

theorem contains (h : config.ActsAlike other s) :
    config.operators.contains s = other.operators.contains s := by
  have same := congrArg Option.isSome h
  rwa [Option.isSome_map, Option.isSome_map] at same

theorem bindsAlike (h : config.ActsAlike other s) : config.BindsAlike other s := by
  have same := congrArg (Option.map Prod.fst) h
  rwa [Option.map_map, Option.map_map] at same

end Config.ActsAlike

theorem Tree.callOf_congr {s : Symbol} (h : config.ActsAlike other s) (left right : Float) :
    callOf config s left right = callOf other s left right := by
  rcases cases_of_map_eq h with ⟨here, there⟩ | ⟨op, op', here, there, same⟩
  · rw [callOf, callOf, here, there]
  · have applied : op.operation.apply = op'.operation.apply := (Prod.mk.inj same).2
    rw [callOf, callOf, here, there]
    simp only [applied]

/-- The value of a tree hangs on its operators and its operands. -/
theorem Tree.meaning_congr (t : Tree) (operators : ∀ s, .operator s ∈ t.tokens → config.ActsAlike other s)
    (operands : ∀ o, .operand o ∈ t.tokens → config.valueOf o = other.valueOf o) :
    t.meaning config = t.meaning other := by
  induction t with
  | leaf o => rw [meaning, meaning, operands o (by simp)]
  | branch s l r ihl ihr =>
    have left := ihl (fun u hu => operators u (by simp [hu])) fun o ho => operands o (by simp [ho])
    have right := ihr (fun u hu => operators u (by simp [hu])) fun o ho => operands o (by simp [ho])
    have call := callOf_congr (operators s (by simp))
    simp only [meaning, left, right, call]

/-! ## Reading alike -/

theorem Config.AgreesOn.sameReading {text : String} (h : config.AgreesOn other text.toList) :
    SameReading config other text := by
  have marks : ∀ c ∈ text.toList, config.isMark c = other.isMark c := by
    intro c hc
    unfold Config.isMark
    rcases Token.ofChar_cases c with ⟨-, same⟩ | ⟨-, same⟩ | ⟨s, rfl, same⟩
    · rw [same]
    · rw [same]
    · rw [same]
      exact (h.operators s hc).contains
  have scanned : scan config text.toList = scan other text.toList := scan_congr marks
  have read : ∀ s, .operator s ∈ scan config text.toList → config.ActsAlike other s :=
    fun s hs => h.operators s (mem_of_operator_mem_scan hs)
  have reduced : reduce config text = reduce other text := by
    rw [reduce, reduce, ← scanned]
    exact reorderFrom_congr (by simp) fun s hs => (read s hs).bindsAlike
  have parsed : parse config text = parse other text := by
    rw [parse, parse, reduced]
  -- what a tree looks up was among the tokens of the text
  have ran : ∀ t, parse config text = .ok t → t.run config = t.run other := by
    intro t made
    rw [t.run_eq_meaning, t.run_eq_meaning]
    refine t.meaning_congr (fun s hs => read s (mem_scan_of_parse made hs)) ?_
    intro o ho
    cases o with
    | literal n => rfl
    | name n =>
      have same := h.names _ (isLetterRun_of_name_mem_scan (mem_scan_of_parse made ho))
      rwa [String.ofList_toList] at same
  have traced : trace config text = trace other text := by
    rw [trace, trace, ← parsed]
    cases made : parse config text with
    | error e => rfl
    | ok t => simp only [ran t made]
  exact {
    scanned := scanned
    reduced := reduced
    parsed := parsed
    traced := traced
    evaluated := congrArg Prod.snd traced
    reported := by rw [readingRecords, readingRecords, reduced] }

/-! ## What may change -/

theorem Config.agreesOn_withOperator {text : List Char} {s : UsableSymbol} (absent : s.1.char ∉ text)
    (config : Config) (op : Operator) : (config.withOperator s op).AgreesOn config text where
  operators := by
    intro u hu
    have other : s.1 ≠ u := by
      rintro rfl
      exact absent hu
    rw [ActsAlike, withOperator, Table.find?_insert, if_neg other]
  names := fun _ _ => rfl

theorem Config.agreesOn_withVariable {text : List Char} {n : LetteredName}
    (absent : ¬IsLetterRun text n.1.toList) (config : Config) (value : Float) :
    (config.withVariable n value).AgreesOn config text where
  operators := fun _ _ => rfl
  names := by
    intro run hrun
    have other : n.1 ≠ String.ofList run := by
      intro same
      rw [same, String.toList_ofList] at absent
      exact absent hrun
    rw [withVariable, Table.find?_insert, if_neg other]

/-- Configurations that agree on the characters and the names of a text read it
alike.  So operators that do not occur in it may be registered anew, and names
that it does not mention may be bound anew. -/
theorem sameReading_of_agreesOn (text : String) :
    (∀ config other : Config, config.AgreesOn other text.toList → SameReading config other text) ∧
      (∀ (config : Config) (s : UsableSymbol) (op : Operator), s.1.char ∉ text.toList →
        SameReading (config.withOperator s op) config text) ∧
      ∀ (config : Config) (n : LetteredName) (value : Float), ¬IsLetterRun text.toList n.1.toList →
        SameReading (config.withVariable n value) config text :=
  ⟨fun _ _ agree => agree.sameReading,
    fun config _ op absent => (config.agreesOn_withOperator absent op).sameReading,
    fun config _ value absent => (config.agreesOn_withVariable absent value).sameReading⟩

/-- The name `x` stands in `2 + xx` only as a part of another. -/
theorem not_isLetterRun_partOfName : ¬IsLetterRun "2 + xx".toList ['x'] := by
  rintro ⟨-, -, before, behind, cut, begins, stops⟩
  have places : ∀ i < 7, ("2 + xx".toList.drop i).take 1 = ['x'] →
      (("2 + xx".toList.take i).getLast?.all fun c => !isLetter c) = true →
      (("2 + xx".toList.drop (i + 1)).head?.all fun c => !isLetter c) = false := by
    decide
  have inside : before.length < 7 := by
    have lengths := congrArg List.length cut
    simp at lengths
    omega
  have begun : (("2 + xx".toList.take before.length).getLast?.all fun c => !isLetter c) = true := by
    rw [cut]
    simpa [Option.all_eq_true] using begins
  have ended : (("2 + xx".toList.drop (before.length + 1)).head?.all fun c => !isLetter c) = true := by
    rw [cut]
    simpa [Option.all_eq_true] using stops
  rw [places before.length inside (by rw [cut]; simp) begun] at ended
  cases ended

theorem sameReading_of_agreesOn_partOfName :
    let remainder : UsableSymbol := ⟨⟨'%', by decide⟩, by decide⟩
    let x : LetteredName := ⟨"x", by decide⟩
    let extended := Config.standard.withOperator remainder ⟨2, .left, .truncatedRemainder⟩
    let bound := Config.standard.withVariable x 7.0
    let changed := extended.withVariable x 7.0
    changed.AgreesOn .standard "2 + xx".toList ∧ SameReading changed .standard "2 + xx" ∧
      remainder.1.char ∉ "2 + xx".toList ∧ SameReading extended .standard "2 + xx" ∧
      ¬IsLetterRun "2 + xx".toList x.1.toList ∧ SameReading bound .standard "2 + xx" := by
  intro remainder x extended bound changed
  have absent : remainder.1.char ∉ "2 + xx".toList := by decide
  have unmentioned : ¬IsLetterRun "2 + xx".toList x.1.toList := by
    have name : x.1.toList = ['x'] := by decide
    rw [name]
    exact not_isLetterRun_partOfName
  have agree : changed.AgreesOn .standard "2 + xx".toList :=
    ⟨(Config.standard.agreesOn_withOperator absent _).operators,
      (Config.standard.agreesOn_withVariable unmentioned _).names⟩
  obtain ⟨alike, registered, named⟩ := sameReading_of_agreesOn "2 + xx"
  exact ⟨agree, alike changed .standard agree, absent, registered .standard remainder _ absent,
    unmentioned, named .standard x _ unmentioned⟩

end Abacus
