/-
# Which line an outcome is said to be on

A batch counts the expressions that it is given, from one.  The expressions of a text
are its lines that are not blank, so an outcome has the number of its line only as
long as no blank line stands in front of it:

| line of the text | | expression | number of the outcome |
| :-- | :-- | :-- | :-- |
| 1 | `1` | first | 1 |
| 2 | blank | | |
| 3 | `x` | second | 2 |

`Batch.numbersLines_iff` says when the numbers are those of the text: when the blank
lines, if there are any, are the last ones.  Whatever the numbers are, the outcomes
are in the order of the lines that their expressions were read from.
-/
import Abacus.Proofs.Batch.Results

namespace Abacus

open Abacus.Text

/-- The lines of a text that are not blank, each with its number among all lines. -/
def numberedLines (text : List Char) : List (List Char × Nat) :=
  ((lines text).zipIdx 1).filter fun entry => !isBlankText entry.1

namespace Batch

/-- The outcomes of a file that holds a text have the numbers of the lines that their
expressions were read from. -/
def NumbersLines (b : Batch) (schedule : Schedule) (path : Path) (file : Entry Content)
    (text : List Char) : Prop :=
  ∃ expressions outcomes, Source.load path (some file) = .ok expressions ∧
    (b.run schedule expressions).outcomes = .ok outcomes ∧
    outcomes.map (fun o => (o.expression, o.line.1)) =
      (numberedLines text).map fun entry => (String.ofList (strip entry.1), entry.2)

/-! ## Numbers of members -/

section Numbers

variable {α : Type} {p : α → Bool}

theorem map_fst_filter_zipIdx (xs : List α) (first : Nat) :
    ((xs.zipIdx first).filter fun entry => p entry.1).map Prod.fst = xs.filter p := by
  induction xs generalizing first with
  | nil => rfl
  | cons x xs ih =>
    rw [List.zipIdx_cons, List.filter_cons, List.filter_cons]
    split
    · rw [List.map_cons, ih]
    · exact ih (first + 1)

theorem map_snd_filter_zipIdx_of_none {xs : List α} (none : ∀ x ∈ xs, p x = false) (first n : Nat) :
    ((xs.zipIdx first).filter fun entry => p entry.1).map Prod.snd = List.range' n (xs.filter p).length := by
  have here : xs.filter p = [] := List.filter_eq_nil_iff.mpr (by simpa using none)
  have there := map_fst_filter_zipIdx (p := p) xs first
  rw [here, List.map_eq_nil_iff] at there
  rw [here, there]
  rfl

theorem none_of_map_snd_filter_zipIdx {xs : List α} {first : Nat}
    (h : ((xs.zipIdx (first + 1)).filter fun entry => p entry.1).map Prod.snd =
      List.range' first (xs.filter p).length) : ∀ x ∈ xs, p x = false := by
  intro x member
  rw [Bool.eq_false_iff]
  intro passes
  have some : first ∈ List.range' first (xs.filter p).length := by
    rw [List.mem_range'_1]
    have := List.length_pos_of_mem (List.mem_filter.mpr ⟨member, passes⟩)
    omega
  rw [← h] at some
  obtain ⟨entry, counted, same⟩ := List.mem_map.mp some
  have least := List.le_snd_of_mem_zipIdx (List.mem_of_mem_filter counted)
  omega

/-- Counting the members that pass a test numbers them among all when those that do not
pass come last. -/
theorem map_snd_filter_zipIdx_iff (xs : List α) (first : Nat) :
    ((xs.zipIdx first).filter fun entry => p entry.1).map Prod.snd =
        List.range' first (xs.filter p).length ↔
      xs.Pairwise fun x later => p x = false → p later = false := by
  induction xs generalizing first with
  | nil => simp
  | cons x xs ih =>
    rw [List.zipIdx_cons, List.filter_cons, List.filter_cons, List.pairwise_cons, ← ih (first + 1)]
    cases passes : p x with
    | true => simp [List.range'_succ]
    | false =>
      rw [if_neg (by simp), if_neg Bool.false_ne_true]
      constructor
      · intro numbered
        have none := none_of_map_snd_filter_zipIdx numbered
        exact ⟨fun later member _ => none later member,
          map_snd_filter_zipIdx_of_none none (first + 1) (first + 1)⟩
      · rintro ⟨none, _⟩
        exact map_snd_filter_zipIdx_of_none (fun later member => none later member rfl) (first + 1) first

end Numbers

/-! ## Numbers of lines -/

theorem map_fst_numberedLines (text : List Char) :
    (numberedLines text).map (fun entry => String.ofList (strip entry.1)) = Source.expressions text := by
  have lined := map_fst_filter_zipIdx (p := fun line => !isBlankText line) (lines text) 1
  rw [Source.expressions, filledLines, ← lined, List.map_map, List.map_map]
  rfl

theorem map_snd_numberedLines_iff (text : List Char) :
    (numberedLines text).map Prod.snd = List.range' 1 (Source.expressions text).length ↔
      (lines text).Pairwise fun line later => isBlankText line = true → isBlankText later = true := by
  have counted : (Source.expressions text).length =
      ((lines text).filter fun line => !isBlankText line).length := by
    rw [Source.expressions, filledLines, List.length_map, List.length_map]
  rw [counted, numberedLines, map_snd_filter_zipIdx_iff (p := fun line => !isBlankText line)]
  simp

section TextFile

variable {path : Path} {bytes : List UInt8} {text : List Char}

theorem outcomes_run_expressions (b : Batch) (schedule : Schedule) (text : List Char) :
    (b.run schedule (Source.expressions text)).outcomes =
      .ok (outcomesOf b.bindings (Source.expressions text)) := by
  have filled : ∀ e ∈ Source.expressions text, isBlankText e.toList = false :=
    fun e he => (Source.isOneLine_of_mem_expressions he).2
  exact outcomes_run b schedule filled

theorem NumbersLines.counts {b : Batch} {schedule : Schedule}
    (h : b.NumbersLines schedule path (.file (.bytes bytes)) text)
    (named : lastSuffix path.name = ".txt".toList) (decoded : decodeUtf8 bytes = .ok text) :
    (numberedLines text).map Prod.snd = List.range' 1 (Source.expressions text).length := by
  obtain ⟨_, _, load, run, numbered⟩ := h
  obtain rfl := Except.ok.inj (load.symm.trans (Source.load_plain named decoded))
  obtain rfl := Except.ok.inj (run.symm.trans (outcomes_run_expressions b schedule text))
  have numbers := congrArg (List.map Prod.snd) numbered
  rw [List.map_map, List.map_map] at numbers
  rw [← lines_outcomesOf b.bindings]
  exact numbers.symm

/-- The outcomes of a text file have the numbers of its lines when no blank line stands
in front of one that is not blank. -/
theorem numbersLines_iff (b : Batch) (schedule : Schedule)
    (named : lastSuffix path.name = ".txt".toList) (decoded : decodeUtf8 bytes = .ok text) :
    b.NumbersLines schedule path (.file (.bytes bytes)) text ↔
      (lines text).Pairwise fun line later => isBlankText line = true → isBlankText later = true := by
  rw [← map_snd_numberedLines_iff]
  constructor
  · intro numbers
    exact numbers.counts named decoded
  · intro numbers
    refine ⟨_, _, Source.load_plain named decoded, outcomes_run_expressions b schedule text, ?_⟩
    have expressions : (outcomesOf b.bindings (Source.expressions text)).map Outcome.expression =
        (numberedLines text).map fun entry => String.ofList (strip entry.1) := by
      rw [map_outcomesOf Outcome.expression id (fun _ _ => rfl), List.map_id, map_fst_numberedLines]
    rw [← List.zip_map', ← List.zip_map', expressions, lines_outcomesOf, numbers]

end TextFile

theorem numbersLines_iff_blankLast :
    lastSuffix gappedPath.name = ".txt".toList ∧
      decodeUtf8 [0x31, 0x0a, 0x78, 0x0a, 0x0a] = .ok ['1', '\n', 'x', '\n', '\n'] ∧
      NumbersLines ⟨⟨2, by decide⟩, .empty⟩ .oldestFirst gappedPath
        (.file (.bytes [0x31, 0x0a, 0x78, 0x0a, 0x0a])) ['1', '\n', 'x', '\n', '\n'] := by
  have decoded : decodeUtf8 [0x31, 0x0a, 0x78, 0x0a, 0x0a] = .ok ['1', '\n', 'x', '\n', '\n'] := by
    simp [decodeUtf8, decodeFrom, Lead.ofByte?, readContinuations]
  refine ⟨lastSuffix_gappedPath, decoded, ?_⟩
  exact (numbersLines_iff ⟨⟨2, by decide⟩, .empty⟩ .oldestFirst lastSuffix_gappedPath decoded).mpr
    (by decide)

/-- With a blank line between two expressions the second one has the number 2, and its
line is the third. -/
theorem not_numbersLines_gapped :
    ¬ NumbersLines ⟨⟨1, by decide⟩, .empty⟩ .oldestFirst gappedPath (.file (.bytes gappedBytes))
      ['1', '\n', '\n', 'x'] := by
  intro numbers
  have counts := numbers.counts lastSuffix_gappedPath decodeUtf8_gappedBytes
  rw [map_snd_numberedLines_iff] at counts
  revert counts
  decide

end Batch

end Abacus
