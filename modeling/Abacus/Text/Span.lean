/-
Character classes as sorted lists of closed code-point spans.

A class is given in two parts: a Boolean test on the ASCII characters, and a
list of spans for the code points from U+0080 on.  `Span.classOf` puts the two
together, so that a fact about ASCII characters never has to look at a table.
-/

namespace Abacus.Text

/-- A closed range of code points. -/
structure Span where
  first : Nat
  last : Nat
deriving DecidableEq, Repr

namespace Span

def holds (s : Span) (n : Nat) : Bool :=
  decide (s.first ≤ n) && decide (n ≤ s.last)

/-- The character class that is `ascii` below U+0080 and `table` from there on. -/
def classOf (ascii : Char → Bool) (table : List Span) (c : Char) : Bool :=
  if c.toNat < 0x80 then ascii c else table.any (·.holds c.toNat)

theorem classOf_of_lt {ascii : Char → Bool} {table : List Span} {c : Char}
    (h : c.toNat < 0x80) : classOf ascii table c = ascii c := by
  simp [classOf, h]

end Span

end Abacus.Text
