/-
The tokens of an infix expression.

An operand is an integer literal or the name of a variable.  The other tokens
are operator symbols and the two parentheses.  A symbol is any character that
is no parenthesis; which symbols mean something is decided by a configuration.

Characters are Unicode scalar values, in symbols as in all texts.  A surrogate that
stands alone is no character here, so it is no symbol either.
-/
import Abacus.Decimal.Reader
import Abacus.Text.Letter

namespace Abacus

open Abacus.Text

/-- The text is a run of ASCII digits. -/
def isNumeral (text : String) : Bool :=
  !text.toList.isEmpty && text.toList.all Char.isDigit

/-- A run of ASCII digits, kept as written. -/
structure Numeral where
  digits : String
  isNumeral_digits : isNumeral digits = true
deriving DecidableEq

/-- The name of a variable.  The scanner makes names of letters only; built by
hand, a name may be any text that is not empty. -/
structure Name where
  text : String
  text_ne : text.toList ≠ []
deriving DecidableEq

/-- An operator character: any character but the parentheses. -/
structure Symbol where
  char : Char
  not_parenthesis : char ≠ '(' ∧ char ≠ ')'
deriving DecidableEq

/-- What stands for a value in an expression. -/
inductive Operand where
  | literal (numeral : Numeral)
  | name (name : Name)
deriving DecidableEq

inductive Token where
  | operand (operand : Operand)
  | operator (symbol : Symbol)
  | opening
  | closing
deriving DecidableEq

namespace Numeral

/-- The literal written with the given digits, if they are that. -/
def ofText? (text : String) : Option Numeral :=
  if h : isNumeral text = true then some ⟨text, h⟩ else none

/-- The digits without leading zeros, of which a zero keeps one. -/
def trimmed (n : Numeral) : List Char :=
  match n.digits.toList.dropWhile (· = '0') with
  | [] => ['0']
  | digits => digits

/-- The literal as expressions are printed. -/
def text (n : Numeral) : String :=
  String.ofList n.trimmed

/-- The number that the literal stands for, unless it has too many digits. -/
def value (n : Numeral) : Except TooManyDigits Nat :=
  readNatural n.digits.toList

/-- The double nearest to the literal, an infinity when it is out of range. -/
def toFloat (n : Numeral) : Float :=
  roundDecimal n.digits.toList 0

end Numeral

/-- The name that a text is, unless it is empty. -/
def Name.ofText? (text : String) : Option Name :=
  if h : text.toList ≠ [] then some ⟨text, h⟩ else none

/-- The symbol of a character, unless it is a parenthesis. -/
def Symbol.ofChar? (c : Char) : Option Symbol :=
  if h : c ≠ '(' ∧ c ≠ ')' then some ⟨c, h⟩ else none

def Symbol.text (s : Symbol) : String :=
  String.singleton s.char

def Operand.text : Operand → String
  | literal n => n.text
  | name n => n.text

namespace Token

/-- The token of a character: a parenthesis or an operator symbol. -/
def ofChar (c : Char) : Token :=
  if h₁ : c = '(' then opening
  else if h₂ : c = ')' then closing
  else operator ⟨c, h₁, h₂⟩

def text : Token → String
  | operand o => o.text
  | operator s => s.text
  | opening => "("
  | closing => ")"

/-- The token as it was written: a literal keeps its leading zeros. -/
def source : Token → String
  | operand (.literal n) => n.digits
  | operand (.name n) => n.text
  | operator s => s.text
  | opening => "("
  | closing => ")"

def isParenthesis : Token → Bool
  | opening => true
  | closing => true
  | _ => false

/-- The texts of tokens, with a space between two of them. -/
def joined (tokens : List Token) : String :=
  " ".intercalate (tokens.map text)

end Token

end Abacus
