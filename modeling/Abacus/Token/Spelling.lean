/-
How tokens are spelled in a text.

A text spells tokens when it consists of their sources, one after the other, with
a gap of skipped characters in front of the first and behind each.  Between two
literals, and between two names, the gap is not empty.
-/
import Abacus.Token.Scan

namespace Abacus

open Abacus.Text

/-- The character is skipped by the scanner. -/
def Config.skips (config : Config) (c : Char) : Bool :=
  !(c.isDigit || config.isMark c || isLetter c)

namespace Token

/-- The token can be read in a text: its operator is registered, or its name is
lettered. -/
def IsReadable (config : Config) : Token → Prop
  | operand (.literal _) => True
  | operand (.name n) => isLettered n.text = true
  | operator s => config.operators.contains s = true
  | opening => True
  | closing => True

instance (config : Config) (t : Token) : Decidable (t.IsReadable config) :=
  match t with
  | operand (.literal _) => isTrue trivial
  | operand (.name n) => inferInstanceAs (Decidable (isLettered n.text = true))
  | operator s => inferInstanceAs (Decidable (config.operators.contains s = true))
  | opening => isTrue trivial
  | closing => isTrue trivial

/-- Two tokens would run into each other without a gap. -/
def RunsInto : Token → Token → Prop
  | operand (.literal _), operand (.literal _) => True
  | operand (.name _), operand (.name _) => True
  | _, _ => False

/-- The character next to the token would make it longer. -/
def continues : Token → Char → Bool
  | operand (.literal _), c => c.isDigit
  | operand (.name _), c => isLetter c
  | _, _ => false

end Token

/-- A text cut into tokens and gaps: a gap in front, and one behind each token. -/
structure Layout where
  front : List Char
  parts : List (Token × List Char)

namespace Layout

def tokens (l : Layout) : List Token :=
  l.parts.map Prod.fst

/-- The text that is cut. -/
def text (l : Layout) : List Char :=
  l.front ++ l.parts.flatMap fun (t, gap) => t.source.toList ++ gap

/-- The gaps hold what is skipped, and none is empty where its two tokens would run
into each other. -/
structure IsSpelling (config : Config) (l : Layout) : Prop where
  readable : ∀ t ∈ l.tokens, t.IsReadable config
  front_skipped : ∀ c ∈ l.front, config.skips c = true
  gaps_skipped : ∀ part ∈ l.parts, ∀ c ∈ part.2, config.skips c = true
  apart : ∀ before t gap next gap' behind,
    l.parts = before ++ (t, gap) :: (next, gap') :: behind → t.RunsInto next → gap ≠ []

/-- No token could have taken in a character on either side of it. -/
def IsMaximal (l : Layout) : Prop :=
  ∀ before t gap behind, l.parts = before ++ (t, gap) :: behind →
    (∀ c ∈ (Layout.mk l.front before).text.getLast?, t.continues c = false) ∧
      ∀ c ∈ (Layout.mk gap behind).text.head?, t.continues c = false

end Layout

end Abacus
