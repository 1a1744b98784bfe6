/-
Command-line arguments: options, and one positional argument.

A grammar says which options there are and what the positional takes.  Reading
arguments by a grammar gives the values of the options and the arguments of the
positional, or the first thing that is wrong.
-/
import Abacus.Text.Quoted

namespace Abacus

open Abacus.Text

/-- An option: the names it goes by and, if it takes a value, how the value is
read.  An option without a value asks for help. -/
structure Flag (α : Type) where
  names : List String
  read : Option (String → Except String α)

/-- How many arguments the positional takes: one, at least one, or at least one
and then all others as they are. -/
inductive Arity where
  | one
  | many
  | all
deriving DecidableEq, Repr

/-- The options and the positional that arguments are read by. -/
structure Grammar (α : Type) where
  flags : List (Flag α)
  positional : String
  arity : Arity

/-- Why arguments are refused. -/
inductive UsageError where
  | ambiguous (argument : String) (names : List String)
  | lacksValue (names : List String)
  | unwantedValue (names : List String) (value : String)
  | badValue (names : List String) (reason : String)
  | required (positional : String)
  | badChoice (positional value : String) (choices : List String)
  | unrecognized (arguments : List String)
deriving DecidableEq, Repr

def slashed (names : List String) : String :=
  "/".intercalate names

def listed (values : List String) : String :=
  ", ".intercalate values

def UsageError.message : UsageError → String
  | ambiguous argument names => s!"ambiguous option: {argument} could match {listed names}"
  | lacksValue names => s!"argument {slashed names}: expected one argument"
  | unwantedValue names value =>
    s!"argument {slashed names}: ignored explicit argument {quoted value}"
  | badValue names reason => s!"argument {slashed names}: {reason}"
  | required positional => s!"the following arguments are required: {positional}"
  | badChoice positional value choices =>
    s!"argument {positional}: invalid choice: {quoted value} (choose from {listed (choices.map quoted)})"
  | unrecognized arguments =>
    let left := " ".intercalate arguments
    s!"unrecognized arguments: {left}"

/-- Why arguments are not taken to the end: they are refused, or help is asked for. -/
inductive Halt where
  | usage (error : UsageError)
  | help
deriving DecidableEq, Repr

end Abacus
