/-
Expressions as text: what they are as a tree, and what their value is.

All that can go wrong is gathered here in one type: unmatched parentheses,
tokens that are no tree, an operator that is not registered, and an operator
whose function refuses its operands.
-/
import Abacus.Log
import Abacus.Postfix
import Abacus.Tree.Build
import Abacus.Tree.Evaluate

namespace Abacus

open Abacus.Text

/-- Why an expression has no value. -/
inductive ExpressionError where
  | unbalanced (cause : Unbalanced)
  | malformed (cause : Malformed)
  | unregistered (symbol : Symbol)
  | exhausted
  | fault (fault : Fault)
deriving DecidableEq

namespace ExpressionError

/-- The wording of an error.  Of an unregistered operator only the quoted symbol
is shown. -/
def message : ExpressionError → String
  | unbalanced cause => cause.message
  | malformed cause => cause.message
  | unregistered s => quoted s.text
  | exhausted => "pop from empty list"
  | fault f => f.message

def ofReorder : ReorderError → ExpressionError
  | .unbalanced cause => unbalanced cause
  | .unregistered s => unregistered s

def ofRun : RunError → ExpressionError
  | .unregistered s => unregistered s
  | .exhausted => exhausted
  | .fault f => fault f

end ExpressionError

def parse (config : Config) (text : String) : Except ExpressionError Tree :=
  match reduce config text with
  | .error e => .error (.ofReorder e)
  | .ok tokens =>
    match build tokens with
    | .error e => .error (.malformed e)
    | .ok t => .ok t

/-- The calls that the evaluation of a text makes, and its value. -/
def trace (config : Config) (text : String) : List Call × Except ExpressionError Float :=
  match parse config text with
  | .error e => ([], .error e)
  | .ok t =>
    let run := t.run config
    (run.calls, run.result.mapError .ofRun)

def evaluate (config : Config) (text : String) : Except ExpressionError Float :=
  (trace config text).2

/-- The stages of an evaluation, each of which may be the last. -/
theorem evaluate_eq (config : Config) (text : String) :
    evaluate config text =
      match reorder config (scan config text.toList) with
      | .error e => .error (.ofReorder e)
      | .ok tokens =>
        match build tokens with
        | .error e => .error (.malformed e)
        | .ok t => (t.evaluate config).mapError .ofRun := by
  rw [evaluate, trace, parse, reduce]
  cases reorder config (scan config text.toList) with
  | error e => rfl
  | ok tokens =>
    dsimp only
    cases build tokens <;> rfl

/-- What reading a text reports: its tokens after they were reordered. -/
def readingRecords (config : Config) (text : String) : List Log.Record :=
  match reduce config text with
  | .ok tokens => [⟨.debug, s!"Postfix for {quoted text}: {Token.joined tokens}"⟩]
  | .error _ => []

end Abacus
