/-
Reordering infix tokens so that every operator follows its operands.

Operands pass straight through.  Operators wait on a stack: an operator lets
those on top of it go that bind at least as tightly (tighter, if it groups to
the right), and then waits itself.  A parenthesis that opens waits as a barrier;
one that closes lets everything down to its barrier go.  At the end all that
wait are let go, last first.

The reordering only asks whether the parentheses match.  Whether operands and
operators alternate is found out when the tree is built.
-/
import Abacus.Token.Scan

namespace Abacus

/-- How parentheses fail to match. -/
inductive Unbalanced where
  | unopened
  | unclosed
deriving DecidableEq, Repr

def Unbalanced.message : Unbalanced → String
  | unopened => "Unbalanced parentheses: ')' without matching '('"
  | unclosed => "Unbalanced parentheses: '(' is never closed"

inductive ReorderError where
  | unbalanced (cause : Unbalanced)
  | unregistered (symbol : Symbol)
deriving DecidableEq

/-- What waits on the stack. -/
inductive Waiting where
  | operator (symbol : Symbol)
  | barrier
deriving DecidableEq

namespace Operator

/-- An operator on top of the stack goes before the incoming one is put there. -/
def yieldsTo (top incoming : Operator) : Bool :=
  match incoming.associativity with
  | .left => decide (incoming.precedence ≤ top.precedence)
  | .right => decide (incoming.precedence < top.precedence)

end Operator

/-- The operators that an incoming symbol lets go, and the stack without them.
The incoming symbol is looked up only to be compared, so an unregistered one is
found out only above a registered one; an unregistered symbol that waits lets
nothing pass. -/
def release (config : Config) (incoming : Symbol) :
    List Waiting → Except ReorderError (List Token × List Waiting)
  | .operator top :: stack =>
    match config.operators.find? top with
    | none => .ok ([], .operator top :: stack)
    | some waiting =>
      match config.operators.find? incoming with
      | none => .error (.unregistered incoming)
      | some arriving =>
        if waiting.yieldsTo arriving then
          match release config incoming stack with
          | .ok (released, stack) => .ok (.operator top :: released, stack)
          | .error e => .error e
        else .ok ([], .operator top :: stack)
  | stack => .ok ([], stack)

/-- The operators above the nearest barrier, and the stack below it. -/
def releaseGroup : List Waiting → Except ReorderError (List Token × List Waiting)
  | [] => .error (.unbalanced .unopened)
  | .barrier :: stack => .ok ([], stack)
  | .operator top :: stack =>
    match releaseGroup stack with
    | .ok (released, stack) => .ok (.operator top :: released, stack)
    | .error e => .error e

/-- All that waits at the end. -/
def releaseAll : List Waiting → Except ReorderError (List Token)
  | [] => .ok []
  | .barrier :: _ => .error (.unbalanced .unclosed)
  | .operator top :: stack =>
    match releaseAll stack with
    | .ok released => .ok (.operator top :: released)
    | .error e => .error e

/-- What one token lets out, and the stack after it. -/
def shunt (config : Config) (stack : List Waiting) :
    Token → Except ReorderError (List Token × List Waiting)
  | .operand o => .ok ([.operand o], stack)
  | .opening => .ok ([], .barrier :: stack)
  | .closing => releaseGroup stack
  | .operator s =>
    match release config s stack with
    | .ok (released, stack) => .ok (released, .operator s :: stack)
    | .error e => .error e

/-- The tokens that come out of a run that starts with a given stack. -/
def reorderFrom (config : Config) (stack : List Waiting) : List Token → Except ReorderError (List Token)
  | [] => releaseAll stack
  | token :: tokens =>
    match shunt config stack token with
    | .error e => .error e
    | .ok (released, stack) =>
      match reorderFrom config stack tokens with
      | .error e => .error e
      | .ok rest => .ok (released ++ rest)

/-- The tokens with every operator after its operands. -/
def reorder (config : Config) (tokens : List Token) : Except ReorderError (List Token) :=
  reorderFrom config [] tokens

/-- The tokens of a text with every operator after its operands. -/
def reduce (config : Config) (text : String) : Except ReorderError (List Token) :=
  reorder config (scan config text.toList)

end Abacus
