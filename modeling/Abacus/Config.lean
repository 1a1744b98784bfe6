/-
Configurations: which symbols are operators, and what the variables stand for.

A symbol can be an operator when the scanner would not read it as anything
else: it is no digit, letter or blank, and as a symbol no parenthesis.  The name
of a variable consists of letters.  Both rules are part of the type, so every
configuration that can be built keeps them.  They are rules on Unicode scalar values,
of which symbols and names consist: a surrogate that stands alone is not asked about.

Looking something up never fails: a symbol may be no operator, and a variable
that is not bound is zero.
-/
import Abacus.Operator
import Abacus.Table
import Abacus.Text.Quoted
import Abacus.Token

namespace Abacus

open Abacus.Text

/-- The scanner reads the symbol as nothing but an operator. -/
def Symbol.isUsable (s : Symbol) : Bool :=
  !(isDigit s.char || isLetter s.char || isBlank s.char)

theorem Symbol.isUsable_iff {s : Symbol} :
    s.isUsable = true ↔ isDigit s.char = false ∧ isLetter s.char = false ∧ isBlank s.char = false := by
  rw [isUsable, Bool.not_eq_true', Bool.or_eq_false_iff, Bool.or_eq_false_iff, and_assoc]

abbrev UsableSymbol := { s : Symbol // s.isUsable = true }

/-- The text is a run of letters. -/
def isLettered (text : String) : Bool :=
  !text.toList.isEmpty && text.toList.all isLetter

/-- A text that can name a variable. -/
abbrev LetteredName := { n : String // isLettered n = true }

structure Config where
  operators : Table Symbol Operator
  bindings : Table String Float
  symbols_usable : ∀ s ∈ operators.keys, s.isUsable = true
  names_lettered : ∀ n ∈ bindings.keys, isLettered n = true

inductive KeyError where
  | notOneCharacter (text : String)
  | unusable (c : Char)
  | notLettered (text : String)
deriving DecidableEq, Repr

def KeyError.message : KeyError → String
  | notOneCharacter text => s!"Operator symbol must be a single character: {quoted text}"
  | unusable c => s!"Character cannot be used as an operator: {quoted (String.singleton c)}"
  | notLettered text => s!"Variable names must consist of letters only: {quoted text}"

def checkSymbol (text : String) : Except KeyError UsableSymbol :=
  match text.toList with
  | [c] =>
    if h : c ≠ '(' ∧ c ≠ ')' then
      if hu : (Symbol.mk c h).isUsable = true then .ok ⟨⟨c, h⟩, hu⟩ else .error (.unusable c)
    else .error (.unusable c)
  | _ => .error (.notOneCharacter text)

def checkName (text : String) : Except KeyError LetteredName :=
  if h : isLettered text = true then .ok ⟨text, h⟩ else .error (.notLettered text)

namespace Config

def empty : Config where
  operators := .empty
  bindings := .empty
  symbols_usable := by intro s hs; cases hs
  names_lettered := by intro n hn; cases hn

/-- The configuration with one operator more, or one replaced. -/
def withOperator (c : Config) (s : UsableSymbol) (op : Operator) : Config where
  operators := c.operators.insert s.1 op
  bindings := c.bindings
  symbols_usable := by
    intro x hx
    rcases Table.mem_keys_insert.mp hx with rfl | hx
    · exact s.2
    · exact c.symbols_usable x hx
  names_lettered := c.names_lettered

/-- The configuration with one variable more, or one bound anew. -/
def withVariable (c : Config) (n : LetteredName) (value : Float) : Config where
  operators := c.operators
  bindings := c.bindings.insert n.1 value
  symbols_usable := c.symbols_usable
  names_lettered := by
    intro x hx
    rcases Table.mem_keys_insert.mp hx with rfl | hx
    · exact n.2
    · exact c.names_lettered x hx

/-- The usable symbols of arithmetic. -/
def plus : UsableSymbol := ⟨⟨'+', by decide⟩, by decide⟩

def minus : UsableSymbol := ⟨⟨'-', by decide⟩, by decide⟩

def times : UsableSymbol := ⟨⟨'*', by decide⟩, by decide⟩

def slash : UsableSymbol := ⟨⟨'/', by decide⟩, by decide⟩

def caret : UsableSymbol := ⟨⟨'^', by decide⟩, by decide⟩

/-- Addition and subtraction, then multiplication and division, then
exponentiation, which alone groups to the right. -/
def standard : Config :=
  empty
    |>.withOperator plus ⟨1, .left, .sum⟩
    |>.withOperator minus ⟨1, .left, .difference⟩
    |>.withOperator times ⟨2, .left, .product⟩
    |>.withOperator slash ⟨2, .left, .division⟩
    |>.withOperator caret ⟨3, .right, .exponentiation⟩

/-- The operator that is registered under a text. -/
def operator? (c : Config) (text : String) : Option Operator :=
  match text.toList with
  | [char] => (Symbol.ofChar? char).bind c.operators.find?
  | _ => none

/-- The configuration with variables bound one after the other. -/
def bind (c : Config) (bindings : List (LetteredName × Float)) : Config :=
  bindings.foldl (fun c (n, x) => c.withVariable n x) c

def isOperator (c : Config) (text : String) : Bool :=
  (c.operator? text).isSome

/-- The value of an operand.  A variable that is not bound is zero. -/
def valueOf (c : Config) : Operand → Float
  | .literal n => n.toFloat
  | .name n => (c.bindings.find? n.text).getD 0.0

/-- An operator under a text, if the text is a usable symbol. -/
def insertOperator (c : Config) (text : String) (op : Operator) : Except KeyError Config :=
  match checkSymbol text with
  | .ok s => .ok (c.withOperator s op)
  | .error e => .error e

/-- A variable under a text, if the text is a name. -/
def insertVariable (c : Config) (text : String) (value : Float) : Except KeyError Config :=
  match checkName text with
  | .ok n => .ok (c.withVariable n value)
  | .error e => .error e

end Config

end Abacus
