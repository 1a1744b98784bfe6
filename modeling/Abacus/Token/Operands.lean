/-
The operands and the operators among tokens, each in the order of the tokens.
-/
import Abacus.Token

namespace Abacus

namespace Token

def operand? : Token → Option Operand
  | operand o => some o
  | _ => none

/-- The operator that a token is; a parenthesis is none. -/
def symbol? : Token → Option Symbol
  | operator s => some s
  | _ => none

def operands (tokens : List Token) : List Operand :=
  tokens.filterMap operand?

def symbols (tokens : List Token) : List Symbol :=
  tokens.filterMap symbol?

@[simp] theorem operands_nil : operands [] = [] := rfl

@[simp] theorem symbols_nil : symbols [] = [] := rfl

@[simp] theorem operands_cons (t : Token) (tokens : List Token) :
    operands (t :: tokens) = t.operand?.toList ++ operands tokens := by
  cases t <;> rfl

@[simp] theorem symbols_cons (t : Token) (tokens : List Token) :
    symbols (t :: tokens) = t.symbol?.toList ++ symbols tokens := by
  cases t <;> rfl

@[simp] theorem operands_append (front back : List Token) :
    operands (front ++ back) = operands front ++ operands back :=
  List.filterMap_append

@[simp] theorem symbols_append (front back : List Token) :
    symbols (front ++ back) = symbols front ++ symbols back :=
  List.filterMap_append

end Token

end Abacus
