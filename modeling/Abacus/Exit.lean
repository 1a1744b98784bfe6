/-
How the program ends.

What is wrong with arguments is reported along with the usage, and the status is 2;
help is no failure, and its status is 0.  An answer has a status of its own.  One
refusal is reported by nobody, a number with more digits than are read: like a crash it
ends the program as it is.
-/
import Abacus.Command

namespace Abacus

/-- The status with which a refusal is reported, if anybody reports it. -/
def Refusal.status? : Refusal → Option Nat
  | .halt (.usage _) => some 2
  | .halt .help => some 0
  | .invalid _ => some 2
  | .tooManyDigits _ => none

/-- An end of the program: it returns an answer, its arguments are refused and that is
reported, or something goes wrong that is not. -/
inductive Exit where
  | returned (response : Response)
  | refused (refusal : Refusal) (status : Nat)
  | unreported (refusal : Refusal)
  | crashed (crash : Crash)

namespace Exit

def ofRefusal (refusal : Refusal) : Exit :=
  match refusal.status? with
  | some status => refused refusal status
  | none => unreported refusal

def ofAnswer : Except Crash Response → Exit
  | .ok response => returned response
  | .error crash => crashed crash

def ofArguments (setting : Setting) (arguments : List String) : Exit :=
  match Request.ofArguments setting.find? arguments with
  | .error refusal => ofRefusal refusal
  | .ok request => ofAnswer (request.answer setting)

end Exit

end Abacus
