/-
Balanced parentheses.

What counts is only how many of each there are: every beginning of the tokens
has at most as many closing as opening parentheses, and the whole has as many.
-/
import Abacus.Token

namespace Abacus

namespace Token

/-- Somewhere more parentheses are closed than were opened. -/
def ClosesTooMany (tokens : List Token) : Prop :=
  ∃ n, (tokens.take n).count .opening < (tokens.take n).count .closing

/-- Every parenthesis has its counterpart. -/
def Balanced (tokens : List Token) : Prop :=
  ¬ClosesTooMany tokens ∧ tokens.count .closing = tokens.count .opening

end Token

end Abacus
