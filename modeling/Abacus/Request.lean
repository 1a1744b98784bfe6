/-
Requests: what the program can be asked to do, and its answers.

It evaluates one expression, searches for an equation, or evaluates a file of
expressions.  An expression that is not well formed and a file that cannot be
read as text are answered with a message and the status 1.
-/
import Abacus.Batch
import Abacus.Solver.Field
import Abacus.Solver.Records
import Abacus.Source

namespace Abacus

inductive Request where
  | evaluate (expression : String) (bindings : List (LetteredName × Float))
  | solve (numbers : List Nat)
  | batch (path : Path) (slots : Option (AtLeast 1))

/-- An answer: the exit status, what is printed and what is reported, and the
results file that is written if there is one. -/
structure Response where
  status : Nat
  output : String
  errors : String
  file : Option (Path × String)

/-- What the program does not answer but fails of. -/
inductive Crash where
  | read (error : ReadError)
  | expression (error : ExpressionError)
  | solver (error : SolverError)
  | name (error : Path.EmptyName)
  | blankLine (issues : List Issue)
  | occupied (path : Path)

def ExpressionError.isIllFormed : ExpressionError → Bool
  | unbalanced _ => true
  | malformed _ => true
  | _ => false

namespace Response

/-- An answer that prints one line. -/
def print (line : String) : Response :=
  ⟨0, line ++ "\n", "", none⟩

/-- An answer that reports one failure. -/
def fail (message : String) : Response :=
  ⟨1, "", s!"error: {message}\n", none⟩

/-- The files once the results are written. -/
def applyTo (r : Response) (tree : FileTree Content) : FileTree Content :=
  match r.file with
  | none => tree
  | some (path, text) =>
    match tree.place? path with
    | none => tree
    | some place => tree.write place (.bytes text.toUTF8.toList)

end Response

/-- What a program finds around it: the files, the number of slots for a batch
that names none, and which workers report first. -/
structure Setting where
  find? : Path → Option (Entry Content)
  slots : AtLeast 1
  schedule : Schedule

/-- One file alone, and four slots. -/
def settingOf (found : Option (Entry Content)) (path : Path) : Setting where
  find? asked := if asked.text = path.text then found else none
  slots := ⟨4, by decide⟩
  schedule := .oldestFirst

namespace Request

/-- The standard operators and the given variables. -/
def configOf (bindings : List (LetteredName × Float)) : Config :=
  Config.standard.bind bindings

def batchOf (setting : Setting) (slots : Option (AtLeast 1)) : Batch :=
  ⟨slots.getD setting.slots, .empty⟩

def answerEvaluate (expression : String) (bindings : List (LetteredName × Float)) : Except Crash Response :=
  match Abacus.evaluate (configOf bindings) expression with
  | .ok x => .ok (.print (writeFloat x))
  | .error e => if e.isIllFormed then .ok (.fail e.message) else .error (.expression e)

def answerSolve (numbers : List Nat) : Except Crash Response :=
  match Solver.standard.solve (numbers.map Int.ofNat) with
  | .ok (some e) => .ok (.print e.text)
  | .ok none => .ok (.print noEquation)
  | .error e => .error (.solver e)

/-- The line that sums up a batch. -/
def summary (results : Path) (outcomes : List Outcome) : String :=
  s!"{results.text} ({outcomes.length} expressions, {outcomes.countP fun o => !o.isOk} errors)"

def answerBatch (setting : Setting) (path : Path) (slots : Option (AtLeast 1)) :
    Except Crash Response :=
  match path.results with
  | .error e => .error (.name e)
  | .ok results =>
    match Source.load path (setting.find? path) with
    | .error e =>
      match e.message? with
      | some message => .ok (.fail message)
      | none => .error (.read e)
    | .ok expressions =>
      match setting.find? results with
      | some .directory => .error (.occupied results)
      | _ =>
        let ending := (batchOf setting slots).run setting.schedule expressions
        match ending.outcomes with
        | .error issues => .error (.blankLine issues)
        | .ok outcomes =>
          .ok { Response.print (summary results outcomes) with file := some (results, ending.file) }

def answer (setting : Setting) : Request → Except Crash Response
  | evaluate expression bindings => answerEvaluate expression bindings
  | solve numbers => answerSolve numbers
  | batch path slots => answerBatch setting path slots

def batchRecords (setting : Setting) (path : Path) (slots : Option (AtLeast 1)) :
    List Log.Record :=
  match path.results, Source.load path (setting.find? path) with
  | .ok results, .ok expressions =>
    let b := batchOf setting slots
    b.records expressions results.text (b.run setting.schedule expressions)
  | _, _ => []

def records (setting : Setting) : Request → List Log.Record
  | evaluate expression bindings => readingRecords (configOf bindings) expression
  | solve numbers => Solver.standard.records (numbers.map Int.ofNat)
  | batch path slots => batchRecords setting path slots

end Request

end Abacus
