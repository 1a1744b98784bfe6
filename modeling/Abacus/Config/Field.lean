/-
Operators and configurations from untyped values.

A configuration grows by `register` and `assign`, or is built whole by
`ofRecord`.  Each reports what is wrong and then leaves no trace.  Where the
value and the key are both bad, the value is reported.
-/
import Abacus.Config
import Abacus.Field.Conversion

namespace Abacus

namespace Operator

def readAssociativity : Value → Checked Associativity
  | .text word => match Associativity.ofName? word with
    | some a => .ok a
    | none => .refuse .notAChoice
  | _ => .refuse .notAChoice

def ofRecord (record : Value) : Checked Operator :=
  let precedence := record.required "precedence" (Value.toNatFrom 0)
  let associativity := record.optional "associativity" .left readAssociativity
  let operation := record.required "evaluate" Value.toFunction
  (precedence.both (associativity.both operation)).map fun (p, a, o) => ⟨p.1, a, o⟩

end Operator

/-- Why a configuration is not changed. -/
inductive Rejection where
  | issues (issues : List Issue)
  | conversion (error : ConversionError)
  | key (error : KeyError)

namespace Config

def register (c : Config) (symbol : String) (record : Value) : Except Rejection Config :=
  match Operator.ofRecord record with
  | .error issues => .error (.issues issues)
  | .ok op => (c.insertOperator symbol op).mapError .key

/-- Binds a variable to what a value converts to. -/
def assign (c : Config) (name : String) (value : Value) : Except Rejection Config :=
  match value.convert with
  | .error e => .error (.conversion e)
  | .ok x => (c.insertVariable name x).mapError .key

/-- The entries with their keys checked, up to the first bad key. -/
def checkKeys {α κ : Type} (check : String → Except KeyError κ) :
    List (String × α) → Except KeyError (List (κ × α))
  | [] => .ok []
  | (text, a) :: rest => do
    let key ← check text
    let others ← checkKeys check rest
    return (key, a) :: others

/-- A table of a record: its values first, and its keys when all values are good. -/
def readTable {α κ : Type} (checkKey : String → Except KeyError κ) (checkValue : Value → Checked α)
    (v : Value) : Checked (List (κ × α)) :=
  (v.toEntries checkValue).andThen fun entries =>
    match checkKeys checkKey entries with
    | .ok entries => .ok entries
    | .error e => .refuse (.rule e.message)

/-- The configuration that a record describes by a table of operators and one of
variables. -/
def ofRecord (record : Value) : Checked Config :=
  let operators := record.optional "operators" [] (readTable checkSymbol Operator.ofRecord)
  let bindings := record.optional "variables" [] (readTable checkName Value.toNumber)
  (operators.both bindings).map fun (operators, bindings) =>
    (operators.foldl (fun c (s, op) => c.withOperator s op) empty).bind bindings

end Config

end Abacus
