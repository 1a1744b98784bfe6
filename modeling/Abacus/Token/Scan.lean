/-
Scanning an expression into tokens.

From left to right, a digit starts a literal and a letter starts a name, each as
long as it can be; a parenthesis or a registered symbol is a token by itself; and
every other character is skipped, so blanks may stand anywhere between tokens.
-/
import Abacus.Config

namespace Abacus

open Abacus.Text

/-- The character is a token by itself. -/
def Config.isMark (config : Config) (c : Char) : Bool :=
  match Token.ofChar c with
  | .operator s => config.operators.contains s
  | _ => true

/-- The literal that starts with a digit and takes all digits that follow. -/
def Numeral.ofRun (c : Char) (h : c.isDigit = true) (rest : List Char) : Numeral where
  digits := String.ofList (c :: rest.takeWhile Char.isDigit)
  isNumeral_digits := by simp [isNumeral, h, List.all_takeWhile]

/-- The name that starts with a letter and takes all letters that follow. -/
def Name.ofRun (c : Char) (rest : List Char) : Name where
  text := String.ofList (c :: rest.takeWhile isLetter)
  text_ne := by simp

/-- The tokens of a text. -/
def scan (config : Config) (text : List Char) : List Token :=
  match text with
  | [] => []
  | c :: rest =>
    if h : c.isDigit = true then
      .operand (.literal (.ofRun c h rest)) :: scan config (rest.dropWhile Char.isDigit)
    else if config.isMark c then
      .ofChar c :: scan config rest
    else if isLetter c then
      .operand (.name (.ofRun c rest)) :: scan config (rest.dropWhile isLetter)
    else
      scan config rest
termination_by text.length
decreasing_by
  all_goals simp only [List.length_cons]
  · have := (List.dropWhile_sublist Char.isDigit (l := rest)).length_le; omega
  · omega
  · have := (List.dropWhile_sublist isLetter (l := rest)).length_le; omega
  · omega

end Abacus
