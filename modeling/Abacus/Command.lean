/-
The command line: arguments to requests.

Arguments name a command and are read by its grammar.  What they say is then
checked: an expression is not empty, variables are numbers under lettered
names, there are neither too few nor too many numbers, and a file exists.
-/
import Abacus.Arguments.Taken
import Abacus.Config.Field
import Abacus.Numbers
import Abacus.Request

namespace Abacus

open Abacus.Text

/-- What arguments say, before it is checked. -/
inductive Command where
  | evaluate (expression : String) (assignments : List (String × String))
  | solve (texts : List String)
  | batch (path : String) (slots : Option Int)

/-- Why arguments are no request. -/
inductive Refusal where
  | halt (halt : Halt)
  | invalid (issues : List Issue)
  | tooManyDigits (error : TooManyDigits)

namespace Command

def helpFlag {α : Type} : Flag α :=
  ⟨["-h", "--help"], none⟩

/-- The name and the value in an assignment, without the blanks around them. -/
def readAssignment (text : String) : Except String (String × String) :=
  match splitAtEquals text.toList with
  | (c :: name, some value) =>
    .ok (String.ofList (strip (c :: name)), String.ofList (strip value.toList))
  | _ => .error s!"expected NAME=VALUE, got {quoted text}"

/-- The integer that an option takes: digits of any script, between blanks. -/
def readCount (text : String) : Except String Int :=
  let refused := s!"invalid int value: {quoted text}"
  match readInt? (asciiDigits text.toList) with
  | some n =>
    if digitLimit < (text.toList.filter isDecimal).length then .error refused else .ok n
  | none => .error refused

def names : List String := ["eval", "solve", "batch"]

/-- The grammar of what stands around a command. -/
def outerGrammar : Grammar Empty :=
  ⟨[helpFlag], "command", .all⟩

def evaluateGrammar : Grammar (String × String) :=
  ⟨[helpFlag, ⟨["-v", "--var"], some readAssignment⟩], "expression", .one⟩

def solveGrammar : Grammar Empty :=
  ⟨[helpFlag], "numbers", .many⟩

def batchGrammar : Grammar Int :=
  ⟨[helpFlag, ⟨["--workers"], some readCount⟩], "file_path", .one⟩

/-- Reads the arguments of a command: the command, and what was left over. -/
def parseNamed (name : String) (arguments : List String) :
    Except Halt (Command × List String) :=
  match name with
  | "eval" => do
    let (assignments, taken, extras) ← evaluateGrammar.parse arguments
    return (.evaluate (taken.headD "") assignments, extras)
  | "solve" => do
    let (_, taken, extras) ← solveGrammar.parse arguments
    return (.solve taken, extras)
  | "batch" => do
    let (counts, taken, extras) ← batchGrammar.parse arguments
    return (.batch (taken.headD "") counts.getLast?, extras)
  | _ => .error (.usage (.badChoice outerGrammar.positional name names))

/-- Reads all arguments.  A command line with something left over is refused. -/
def parse (arguments : List String) : Except Halt Command := do
  let (_, taken, outer) ← outerGrammar.parse arguments
  let (command, inner) ← parseNamed (taken.headD "") taken.tail
  match outer ++ inner with
  | [] => return command
  | extras => throw (.usage (.unrecognized extras))

/-- Once the command is named, all hangs on its own arguments and on what is left over. -/
theorem parse_eq_match {arguments own outer : List String} {name : String} {values : List Empty}
    (read : outerGrammar.parse arguments = .ok (values, name :: own, outer)) :
    parse arguments =
      match parseNamed name own with
      | .error halt => .error halt
      | .ok (command, inner) =>
        if outer ++ inner = [] then .ok command
        else .error (.usage (.unrecognized (outer ++ inner))) := by
  rw [parse, read]
  show (parseNamed name own >>= _) = _
  cases parseNamed name own with
  | error halt => rfl
  | ok result =>
    obtain ⟨command, inner⟩ := result
    dsimp only [bind, Except.bind]
    split
    next none => exact (if_pos none).symm
    next extras some => exact (if_neg some).symm

/-! ## Checking -/

/-- An expression with at least one character. -/
def checkExpression (expression : String) : Checked String :=
  if expression.isEmpty then .refuse .textTooShort else .ok expression

/-- Assignments as bindings: a later one for a name replaces an earlier one. -/
def checkAssignments (assignments : List (String × String)) : Checked (List (LetteredName × Float)) :=
  Config.readTable checkName Value.toNumber <|
    .record ((Table.ofList assignments).toList.map fun (name, value) => (name, .text value))

/-- Numbers of which there are enough for an equation, and not too many. -/
def checkNumbers (numbers : List Nat) : Checked (List Nat) :=
  if numbers.length < 2 then .refuse .tooFew
  else if defaultLimit < numbers.length then .refuse .tooMany
  else .ok numbers

def checkFile (isFile : Path → Bool) (text : String) : Checked Path :=
  let path := Path.ofText text
  if isFile path then .ok path else .refuse .notFile

def checkSlots : Option Int → Checked (Option (AtLeast 1))
  | none => .ok none
  | some n => ((Value.integer n).toNatFrom 1).map some

def check (isFile : Path → Bool) : Command → Except Refusal Request
  | evaluate expression assignments =>
    let expression := Checked.under "expression" (checkExpression expression)
    let bindings := Checked.under "variables" (checkAssignments assignments)
    match expression.both bindings with
    | .ok (expression, bindings) => .ok (.evaluate expression bindings)
    | .error issues => .error (.invalid issues)
  | solve texts =>
    match parseNumbers (" ".intercalate texts) with
    | .error e => .error (.tooManyDigits e)
    | .ok numbers =>
      match Checked.under "numbers" (checkNumbers numbers) with
      | .ok numbers => .ok (.solve numbers)
      | .error issues => .error (.invalid issues)
  | batch path slots =>
    let path := Checked.under "file_path" (checkFile isFile path)
    let slots := Checked.under "workers" (checkSlots slots)
    match path.both slots with
    | .ok (path, slots) => .ok (.batch path slots)
    | .error issues => .error (.invalid issues)

end Command

/-- The path leads to a file that is no directory. -/
def isFileAt (find? : Path → Option (Entry Content)) (path : Path) : Bool :=
  match find? path with
  | some (.file _) => true
  | _ => false

/-- The request that arguments make among the files that are there. -/
def Request.ofArguments (find? : Path → Option (Entry Content)) (arguments : List String) :
    Except Refusal Request :=
  match Command.parse arguments with
  | .error halt => .error (.halt halt)
  | .ok command => command.check (isFileAt find?)

end Abacus
