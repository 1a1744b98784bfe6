/-
What can be wrong with a field of an untyped record.

An issue is a flaw and the path to the value that has it.  A record with
several bad fields reports them all, in the order in which the record declares
its fields, so checks are combined side by side rather than one after the other.
-/

namespace Abacus

inductive Flaw where
  | missing
  | belowMinimum
  | notInteger
  | unreadableInteger
  | oversizedInteger
  | notFinite
  | fractional
  | notNumber
  | unreadableNumber
  | notText
  | textTooShort
  | textTooLong
  | textOfWrongForm
  | tooFew
  | tooMany
  | notAChoice
  | notFunction
  | notRecord
  | notList
  | notFile
  | rule (message : String)
deriving DecidableEq, Repr

/-- A flaw and where it is. -/
structure Issue where
  path : List String
  flaw : Flaw
deriving DecidableEq, Repr

/-- A value, or all that is wrong with its fields. -/
abbrev Checked (α : Type) := Except (List Issue) α

namespace Checked

/-- A single flaw of the value itself. -/
def refuse {α : Type} (flaw : Flaw) : Checked α :=
  .error [⟨[], flaw⟩]

/-- The check of a value that lies one step below. -/
def under {α : Type} (step : String) : Checked α → Checked α
  | .ok a => .ok a
  | .error issues => .error (issues.map fun issue => { issue with path := step :: issue.path })

/-- Two checks side by side, the issues of the first in front. -/
def both {α β : Type} : Checked α → Checked β → Checked (α × β)
  | .ok a, .ok b => .ok (a, b)
  | .ok _, .error issues => .error issues
  | .error issues, .ok _ => .error issues
  | .error first, .error second => .error (first ++ second)

/-- Checks of many values side by side. -/
def all {α : Type} : List (Checked α) → Checked (List α)
  | [] => .ok []
  | check :: rest =>
    match both check (all rest) with
    | .ok (a, as) => .ok (a :: as)
    | .error issues => .error issues

/-- A further check of a value that passed. -/
def andThen {α β : Type} (check : Checked α) (next : α → Checked β) : Checked β :=
  match check with
  | .ok a => next a
  | .error issues => .error issues

def map {α β : Type} (f : α → β) : Checked α → Checked β
  | .ok a => .ok (f a)
  | .error issues => .error issues

end Checked

end Abacus
