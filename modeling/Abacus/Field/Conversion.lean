/-
The conversion of a single value to a double.

Outside of fields a value is converted to a double on its own.  The digits of
every script count there, and an integer that is too large is refused.
-/
import Abacus.Field.Value
import Abacus.Text.Quoted

namespace Abacus

open Abacus.Text

/-- Why a value is not converted to a double. -/
inductive ConversionError where
  | unreadable (text : String)
  | tooLarge
  | notANumber
deriving DecidableEq, Repr

def ConversionError.message : ConversionError → String
  | unreadable text => s!"could not convert string to float: {quoted text}"
  | tooLarge => "int too large to convert to float"
  | notANumber => "the value is not a number"

/-- The double that a text in any script stands for. -/
def convertText (s : String) : Except ConversionError Float :=
  match readFloat? (asciiDigits s.toList) with
  | some x => .ok x
  | none => .error (.unreadable s)

def Value.convert : Value → Except ConversionError Float
  | boolean b => .ok (if b then 1.0 else 0.0)
  | integer n =>
    let x := Float.ofInt n
    if x.isInf then .error .tooLarge else .ok x
  | real x => .ok x
  | text s => convertText s
  | _ => .error .notANumber

end Abacus
