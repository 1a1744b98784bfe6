/-
Outcomes: what became of one line of a batch.

A line has either a value or the text of why it has none.  Its written form
shows the expression and then one of the two.
-/
import Abacus.Decimal.Written
import Abacus.Field.Value

namespace Abacus

/-- The value of a line's expression, or why there is none. -/
structure Outcome where
  line : AtLeast 1
  expression : String
  verdict : Except String Float

namespace Outcome

def isOk (o : Outcome) : Bool :=
  o.verdict.isOk

/-- The outcome as a line of a results file. -/
def text (o : Outcome) : String :=
  match o.verdict with
  | .ok x => s!"{o.expression} = {writeFloat x}"
  | .error message => s!"{o.expression} -> ERROR: {message}"

/-- The verdict that two fields give: one of them is set and the other is not. -/
def readVerdict : Option Float → Option String → Checked (Except String Float)
  | some x, none => .ok (.ok x)
  | none, some message => .ok (.error message)
  | _, _ => .refuse (.rule "Exactly one of result or error must be set")

def ofRecord (record : Value) : Checked Outcome :=
  let line := record.required "line" (Value.toNatFrom 1)
  let expression := record.required "expression" Value.toText
  let result := record.optional "result" none (Value.orNull Value.toNumber)
  let error := record.optional "error" none (Value.orNull Value.toText)
  (line.both (expression.both (result.both error))).andThen
    fun (line, expression, result, error) =>
      (readVerdict result error).map fun verdict => ⟨line, expression, verdict⟩

end Outcome

end Abacus
