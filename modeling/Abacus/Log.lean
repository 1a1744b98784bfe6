/-
Log records and levels.

An activity's records are a value of their own, computed beside its result: what
an activity reports never changes what it does.  A level has a number, and a
threshold lets the records through that are not below it.
-/
import Abacus.Text.Blank

namespace Abacus

open Abacus.Text

namespace Log

inductive Level where
  | debug
  | info
  | error
deriving DecidableEq, Repr

def Level.number : Level → Nat
  | debug => 10
  | info => 20
  | error => 40

def Level.name : Level → String
  | debug => "DEBUG"
  | info => "INFO"
  | error => "ERROR"

structure Record where
  level : Level
  message : String
deriving DecidableEq, Repr

def Record.text (r : Record) : String :=
  s!"{r.level.name}: {r.message}"

/-- The records that a threshold lets through. -/
def above (threshold : Nat) (records : List Record) : List Record :=
  records.filter fun r => decide (threshold ≤ r.level.number)

/-! ## Thresholds by name -/

/-- The threshold where none is given, or none that is known. -/
def defaultThreshold : Nat := 30

/-- The thresholds that have a name. -/
def thresholds : List (String × Nat) :=
  [("CRITICAL", 50), ("FATAL", 50), ("ERROR", 40), ("WARN", 30), ("WARNING", 30), ("INFO", 20),
   ("DEBUG", 10), ("NOTSET", 0)]

/-- A letter in upper case, where that is an ASCII letter.  Besides the ASCII
letters these are the dotless i and the long s. -/
def capital (c : Char) : Char :=
  if c = '\u0131' then 'I' else if c = '\u017f' then 'S' else c.toUpper

/-- The threshold of a name in any case, between any blanks. -/
def threshold (name : String) : Nat :=
  let name := String.ofList ((strip name.toList).map capital)
  ((thresholds.find? fun entry => entry.1 == name).map Prod.snd).getD defaultThreshold

/-- A logger: its threshold and the number of its handlers. -/
structure Logger where
  threshold : Nat
  handlers : Nat
deriving DecidableEq, Repr

/-- A logger is set up once, with one handler and the threshold that is then set;
later settings do not change it. -/
def obtain (existing : Option Logger) (setting : Option String) : Logger :=
  match existing with
  | some logger => logger
  | none => ⟨(setting.map threshold).getD defaultThreshold, 1⟩

end Log

end Abacus
