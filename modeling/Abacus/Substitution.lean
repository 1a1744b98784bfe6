/-
Putting an expression in the place of a variable.

In the text of an expression a variable is a run of letters that cannot be made
longer.  Every run that is the name of the variable is replaced by the other
expression between parentheses; longer runs that merely hold the name stay.
-/
import Abacus.Token.Scan

namespace Abacus

open Abacus.Text

/-- The text with an expression, between parentheses, in place of a variable. -/
def substitute (name : String) (expression : List Char) (text : List Char) : List Char :=
  match text with
  | [] => []
  | c :: rest =>
    if isLetter c then
      let run := c :: rest.takeWhile isLetter
      let replaced := if run = name.toList then '(' :: expression ++ [')'] else run
      replaced ++ substitute name expression (rest.dropWhile isLetter)
    else c :: substitute name expression rest
termination_by text.length
decreasing_by
  · have := (List.dropWhile_sublist isLetter (l := rest)).length_le
    simp only [List.length_cons]
    omega
  · simp only [List.length_cons]
    omega

end Abacus
