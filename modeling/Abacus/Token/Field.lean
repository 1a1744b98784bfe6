/-
Tokens from untyped values.

A token is given by its kind and one text field, whose name hangs on the kind:
the digits of an integer, the symbol of an operator, the name of an identifier.
Parentheses count as operators here.
-/
import Abacus.Field.Value
import Abacus.Token

namespace Abacus

namespace Token

inductive Kind where
  | integer
  | operator
  | identifier
deriving DecidableEq, Repr

def Kind.name : Kind → String
  | integer => "integer"
  | operator => "operator"
  | identifier => "identifier"

def Kind.ofName? : String → Option Kind
  | "integer" => some integer
  | "operator" => some operator
  | "identifier" => some identifier
  | _ => none

def kind : Token → Kind
  | operand (.literal _) => .integer
  | operand (.name _) => .identifier
  | _ => .operator

def checkDigits (text : String) : Checked Numeral :=
  match Numeral.ofText? text with
  | some n => .ok n
  | none => .refuse (if text.isEmpty then .textTooShort else .textOfWrongForm)

/-- A text of one character. -/
def checkCharacter (text : String) : Checked Token :=
  match text.toList with
  | [] => .refuse .textTooShort
  | [c] => .ok (ofChar c)
  | _ => .refuse .textTooLong

/-- A text that is not empty. -/
def checkIdentifier (text : String) : Checked Name :=
  match Name.ofText? text with
  | some n => .ok n
  | none => .refuse .textTooShort

/-- The token of a kind that a value describes. -/
def ofField (kind : Kind) (v : Value) : Checked Token :=
  match kind with
  | .integer => Checked.under "digits" <|
      (v.toText.andThen checkDigits).map fun n => operand (.literal n)
  | .operator => Checked.under "symbol" (v.toText.andThen checkCharacter)
  | .identifier => Checked.under "name" <|
      (v.toText.andThen checkIdentifier).map fun n => operand (.name n)

end Token

end Abacus
