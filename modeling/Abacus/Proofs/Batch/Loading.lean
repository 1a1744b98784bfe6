/-
# What is saved as lines is loaded as lines

A text is written from lines by ending each with a terminator, where the last may go
without (`Written`).  The terminators are the ten breaks and the carriage return with a line
feed.  Cutting the text does not always give the lines back:

    lines               terminators     written      cut
    "1", "", "2"        \r, \n, none    1\r\n2       "1", "2"
    "1", ""             \n, none        1\n          "1"

A carriage return runs together with the line feed that ends an empty line after it, and
an empty line without a terminator leaves nothing behind.  Either way only an empty line
is lost.  Such a line would not be loaded anyhow, so what is loaded are the lines that
are not blank, stripped, however they were ended (`filled_lines_of_written`).  Taking these
for lines again changes nothing (`filled_filled`).
-/
import Abacus.Proofs.Batch.Results
import Abacus.Proofs.Text.Utf8

namespace Abacus

namespace Text

/-- The ends that a line can have. -/
def terminators : List (List Char) :=
  [['\r', '\n'], ['\n'], ['\r'], ['\x0b'], ['\x0c'], ['\x1c'], ['\x1d'], ['\x1e'], ['\u0085'],
    ['\u2028'], ['\u2029']]

/-- The text is the lines, each with a terminator behind it; the last may have none. -/
inductive Written : List (List Char) → List Char → Prop where
  | nil : Written [] []
  | last (line : List Char) : Written [line] line
  | cons {terminator text : List Char} {others : List (List Char)} (line : List Char)
      (ended : terminator ∈ terminators) (rest : Written others text) :
      Written (line :: others) (line ++ (terminator ++ text))

/-! ## Texts that are written from lines -/

theorem terminators_eq : terminators = ['\r', '\n'] :: lineBreaks.map fun c => [c] :=
  rfl

/-- The carriage return that ends a line takes a line feed behind it along. -/
theorem exists_lines_carriageReturn (text : List Char) :
    ∃ others, lines ('\r' :: text) = [] :: others ∧ filled others = filled (lines text) := by
  by_cases merged : ∃ rest, text = '\n' :: rest
  · obtain ⟨rest, rfl⟩ := merged
    exact ⟨lines rest, rfl, (filled_empty_cons (lines rest)).symm⟩
  · refine ⟨lines text, ?_, rfl⟩
    rw [lines]
    · rfl
    · intro rest _ same
      exact merged ⟨rest, same⟩

/-- A terminator ends a line, and nothing but an empty line is lost with it. -/
theorem exists_lines_terminator {terminator : List Char} (h : terminator ∈ terminators) (text : List Char) :
    ∃ others, lines (terminator ++ text) = [] :: others ∧ filled others = filled (lines text) := by
  rw [terminators_eq] at h
  rcases List.mem_cons.mp h with rfl | single
  · exact ⟨lines text, rfl, rfl⟩
  · obtain ⟨c, ends, rfl⟩ := List.mem_map.mp single
    by_cases same : c = '\r'
    · subst same
      exact exists_lines_carriageReturn text
    · have breaks : isLineBreak c = true := List.contains_iff_mem.mpr ends
      refine ⟨lines text, ?_, rfl⟩
      rw [List.singleton_append, lines_cons_of_ne same, if_pos breaks]

theorem lines_of_isOneLine {line : List Char} (h : IsOneLine line) (nonempty : line ≠ []) :
    lines line = [line] := by
  induction line with
  | nil => exact absurd rfl nonempty
  | cons c line ih =>
    obtain ⟨inside, outside⟩ := isOneLine_cons.mp h
    rw [lines_cons_of_inside inside]
    cases line with
    | nil => rfl
    | cons d line => rw [ih outside (List.cons_ne_nil d line), prependToFirst]

/-- However lines are ended, those that are filled are found in what is written. -/
theorem filled_lines_of_written {ls : List (List Char)} {text : List Char} (written : Written ls text)
    (single : ∀ line ∈ ls, IsOneLine line) : filled (lines text) = filled ls := by
  induction written with
  | nil => rfl
  | last line =>
    by_cases empty : line = []
    · subst empty
      rfl
    · rw [lines_of_isOneLine (single line List.mem_cons_self) empty]
  | cons line ended rest ih =>
    obtain ⟨first, later⟩ := List.forall_mem_cons.mp single
    obtain ⟨others, starts, same⟩ := exists_lines_terminator ended _
    rw [lines_append_of_starts first starts]
    exact filled_cons_congr (same.trans (ih later)) line

end Text

open Abacus.Text

/-! ## Loading what is written -/

namespace Source

/-- A file of text that holds the text in UTF-8 is loaded as these expressions. -/
def LoadsAs (text : List Char) (found : List String) : Prop :=
  ∀ path : Path, lastSuffix path.name = ".txt".toList →
    load path (some (.file (.bytes (encodeUtf8 text)))) = .ok found

theorem loadsAs_expressions (text : List Char) : LoadsAs text (expressions text) := by
  intro path named
  exact load_plain named (decodeUtf8_encodeUtf8 text)

theorem loadsAs_of_written {ls : List (List Char)} {text : List Char} (written : Written ls text)
    (single : ∀ line ∈ ls, IsOneLine line) : LoadsAs text ((filled ls).map String.ofList) := by
  have same : expressions text = (filled ls).map String.ofList := by
    rw [expressions, filledLines_eq, filled_lines_of_written written single]
  exact same ▸ loadsAs_expressions text

/-- However lines are ended, the file is loaded as those that are not blank, stripped and in
their order; saved as lines again, these are loaded once more. -/
theorem written_lines_load {ls : List (List Char)} (single : ∀ line ∈ ls, IsOneLine line) :
    ∃ found : List String, found.map String.toList = (ls.filter fun line => !isBlankText line).map strip ∧
      (∀ text, Written ls text → LoadsAs text found) ∧
      (∀ e ∈ found, isBlankText e.toList = false ∧ strip e.toList = e.toList ∧ IsOneLine e.toList) ∧
      ∀ saved, Written (found.map String.toList) saved → LoadsAs saved found := by
  have plain : ((filled ls).map String.ofList).map String.toList = filled ls := by
    rw [List.map_map]
    exact (List.map_congr_left fun line _ => String.toList_ofList).trans (List.map_id' _)
  have lined : ∀ line ∈ filled ls, IsOneLine line := by
    intro line member
    obtain ⟨-, -, whole, given, rfl⟩ := mem_filled member
    exact (single whole given).subset (strip_sublist whole).subset
  refine ⟨(filled ls).map String.ofList, plain, ?loaded, ?each, ?again⟩
  case loaded =>
    intro text written
    exact loadsAs_of_written written single
  case each =>
    intro e member
    obtain ⟨line, given, rfl⟩ := List.mem_map.mp member
    rw [String.toList_ofList]
    obtain ⟨kept, stripped, -⟩ := mem_filled given
    exact ⟨kept, stripped, lined line given⟩
  case again =>
    intro saved written
    rw [plain] at written
    have loaded := loadsAs_of_written written lined
    rwa [filled_filled] at loaded

/-- Four lines: an expression among spaces, nothing, a tab, and a name. -/
def fourLines : List (List Char) := [" 1+2 ".toList, [], ['\t'], ['x']]

/-- The lines, ended by a carriage return, a line feed, a line separator and nothing. -/
def fourEnded : List Char := " 1+2 \r\n\t\u2028x".toList

theorem written_fourEnded : Written fourLines fourEnded := by
  apply Written.cons " 1+2 ".toList (show ['\r'] ∈ terminators by decide)
  apply Written.cons [] (show ['\n'] ∈ terminators by decide)
  apply Written.cons ['\t'] (show ['\u2028'] ∈ terminators by decide)
  exact .last ['x']

/-- The empty line and the tab are left out and the spaces are stripped; then nothing changes. -/
theorem written_lines_load_fourEnded :
    (∀ line ∈ fourLines, IsOneLine line) ∧
      load gappedPath (some (.file (.bytes (encodeUtf8 fourEnded)))) = .ok ["1+2", "x"] ∧
      load gappedPath (some (.file (.bytes (encodeUtf8 "1+2\nx\n".toList)))) = .ok ["1+2", "x"] := by
  have single : ∀ line ∈ fourLines, IsOneLine line := by decide
  obtain ⟨found, shown, loaded, -, again⟩ := written_lines_load single
  obtain rfl : found = ["1+2", "x"] :=
    List.map_injective_iff.mpr (fun _ _ => String.toList_injective) (shown.trans rfl)
  have saved : Written [['1', '+', '2'], ['x']] "1+2\nx\n".toList := by
    apply Written.cons ['1', '+', '2'] (show ['\n'] ∈ terminators by decide)
    apply Written.cons ['x'] (show ['\n'] ∈ terminators by decide)
    exact .nil
  exact ⟨single, loaded fourEnded written_fourEnded gappedPath lastSuffix_gappedPath,
    again _ saved gappedPath lastSuffix_gappedPath⟩

end Source

end Abacus
