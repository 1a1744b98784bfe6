/-
The program: reads its arguments, answers them, and carries the answer out.

Archives are not unpacked here, so one is reported as damaged.
-/
import Abacus.Exit

namespace Abacus

/-- The file at a path, if it can be read. -/
def readEntry (path : Path) : IO (Option (Entry Content)) := do
  match ← (IO.FS.readBinFile path.text).toBaseIO with
  | .ok bytes => return some (.file (.bytes bytes.toList))
  | .error _ => return none

def Issue.text (issue : Issue) : String :=
  let place := ".".intercalate issue.path
  match issue.flaw with
  | .rule message => s!"{place}: {message}"
  | .textTooShort => s!"{place}: the text is empty"
  | .tooFew => s!"{place}: there are too few"
  | .tooMany => s!"{place}: there are too many"
  | .belowMinimum => s!"{place}: the number is too small"
  | .unreadableNumber => s!"{place}: this is no number"
  | .notFile => s!"{place}: this is no file"
  | _ => s!"{place}: the value is not valid"

def Refusal.text : Refusal → String
  | .halt (.usage e) => e.message
  | .halt .help => "commands: eval EXPRESSION [-v NAME=VALUE]..., solve NUMBERS..., batch FILE [--workers N]"
  | .invalid issues => "\n".intercalate (issues.map Issue.text)
  | .tooManyDigits e => e.message

def Crash.text : Crash → String
  | .read (.damaged format) => s!"damaged {format.name} archive"
  | .read .directory => "the path is a directory"
  | .read _ => "the file cannot be read"
  | .expression e => e.message
  | .solver e => e.message
  | .name e => e.message
  | .blankLine issues => "\n".intercalate (issues.map Issue.text)
  | .occupied path => s!"{path.text} is a directory"

def Command.file? : Command → Option Path
  | .batch path _ => some (.ofText path)
  | _ => none

/-- Carries an answer out. -/
def carryOut (response : Response) : IO UInt32 := do
  match response.file with
  | some (path, text) => IO.FS.writeFile path.text text
  | none => pure ()
  IO.print response.output
  IO.eprint response.errors
  return response.status.toUInt32

/-- Reports a refusal of arguments; help alone is no failure. -/
def report (refusal : Refusal) (status : Nat) : IO UInt32 := do
  if status = 0 then IO.println refusal.text else IO.eprintln s!"error: {refusal.text}"
  return status.toUInt32

/-- Reports what nobody else does. -/
def giveUp (message : String) : IO UInt32 := do
  IO.eprintln s!"error: {message}"
  return 1

/-- What is found around the program for some arguments. -/
def settingFor (arguments : List String) : IO Setting := do
  match (Command.parse arguments).toOption.bind Command.file? with
  | some path => return settingOf (← readEntry path) path
  | none => return settingOf none (.ofText "")

def writeLog (setting : Setting) (arguments : List String) : IO Unit := do
  match Request.ofArguments setting.find? arguments with
  | .ok request =>
    let level := Log.obtain none (← IO.getEnv "ABACUS_LOG_LEVEL")
    for record in Log.above level.threshold (request.records setting) do
      IO.eprintln record.text
  | .error _ => pure ()

def runArguments (arguments : List String) : IO UInt32 := do
  let setting ← settingFor arguments
  writeLog setting arguments
  match Exit.ofArguments setting arguments with
  | .returned response => carryOut response
  | .refused refusal status => report refusal status
  | .unreported refusal => giveUp refusal.text
  | .crashed crash => giveUp crash.text

end Abacus

def main (arguments : List String) : IO UInt32 :=
  Abacus.runArguments arguments
