/-
The numbers in a text.

Every run of decimal digits, of whatever script, is a number; what stands
between two runs does not matter.
-/
import Abacus.Decimal.Reader

namespace Abacus

open Abacus.Text

/-- The runs of digits of any script in a text. -/
def digitRuns (text : List Char) : List (List Char) :=
  match text with
  | [] => []
  | c :: rest =>
    if isDecimal c then
      (c :: rest.takeWhile isDecimal) :: digitRuns (rest.dropWhile isDecimal)
    else digitRuns rest
termination_by text.length
decreasing_by
  all_goals simp only [List.length_cons]
  · have := (List.dropWhile_sublist isDecimal (l := rest)).length_le; omega
  · omega

/-- Reads numbers one after the other, up to the first that has too many digits. -/
def readNaturals : List (List Char) → Except TooManyDigits (List Nat)
  | [] => .ok []
  | digits :: rest =>
    match readNatural digits with
    | .error e => .error e
    | .ok n =>
      match readNaturals rest with
      | .error e => .error e
      | .ok others => .ok (n :: others)

/-- The numbers in a text: every run of digits is one. -/
def parseNumbers (text : String) : Except TooManyDigits (List Nat) :=
  readNaturals ((digitRuns text.toList).map asciiDigits)

end Abacus
