/-
Workers: the evaluation of one line of a batch.

A worker starts from the standard operators, binds the variables of the batch
one after the other and evaluates its expression.  Whatever goes wrong becomes
part of its report, so a worker always has one.
-/
import Abacus.Expression
import Abacus.Outcome

namespace Abacus

open Abacus.Text

/-- Binds variables one after the other, up to the first bad name. -/
def Config.bindAll (config : Config) : List (String × Float) → Except KeyError Config
  | [] => .ok config
  | (name, x) :: rest =>
    match config.insertVariable name x with
    | .error e => .error e
    | .ok config => config.bindAll rest

/-- A text with at least one character that is not blank. -/
abbrev FilledText := { e : String // isBlankText e.toList = false }

/-- One line of a batch, and the variables that it may mention.  The names of
the variables are not checked before the worker runs. -/
structure Worker where
  expression : FilledText
  line : AtLeast 1
  bindings : Table String Float

namespace Worker

inductive Failure where
  | name (error : KeyError)
  | expression (error : ExpressionError)

def Failure.message : Failure → String
  | name e => e.message
  | expression e => e.message

def value (w : Worker) : Except Failure Float :=
  match Config.standard.bindAll w.bindings.toList with
  | .error e => .error (.name e)
  | .ok config => (evaluate config w.expression.1).mapError .expression

def report (w : Worker) : Outcome :=
  ⟨w.line, w.expression.1, w.value.mapError Failure.message⟩

def records (w : Worker) : List Log.Record :=
  let reading :=
    match Config.standard.bindAll w.bindings.toList with
    | .error _ => []
    | .ok config => readingRecords config w.expression.1
  let ending : Log.Record :=
    match w.report.verdict with
    | .ok x => ⟨.info, s!"Worker finished on line {w.line.1}: {writeFloat x}"⟩
    | .error message =>
      ⟨.error, s!"Worker failed on line {w.line.1}: {message} ({quoted w.expression.1})"⟩
  ⟨.info, s!"Worker started on line {w.line.1}: {w.expression.1}"⟩ :: (reading ++ [ending])

/-! ## Workers from untyped values -/

/-- The wording for an expression without any character that is not blank. -/
def blankExpression : String := "Expression cannot be empty"

/-- An expression that is not blank. -/
def checkExpression (text : String) : Checked FilledText :=
  if h : isBlankText text.toList = false then .ok ⟨text, h⟩ else .refuse (.rule blankExpression)

/-- The table of variables that a field makes of a value. -/
def readVariables (v : Value) : Checked (Table String Float) :=
  (v.toEntries Value.toNumber).map Table.ofList

/-- The worker that a record describes. -/
def ofRecord (record : Value) : Checked Worker :=
  let expression := record.required "expression" fun v => v.toText.andThen checkExpression
  let line := record.required "line_number" (Value.toNatFrom 1)
  let bindings := record.optional "variables" .empty readVariables
  (expression.both (line.both bindings)).map fun (expression, line, bindings) =>
    ⟨expression, line, bindings⟩

end Worker

end Abacus
