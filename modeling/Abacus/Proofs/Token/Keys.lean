/-
# Keys are what the scanner reads

The keys of a configuration are checked when they are given, and looked for when a
text is scanned.  The check asks for classes of characters (digits of any script,
letters, blanks); the scanner asks in a fixed order for ASCII digits, marks and
letters, and inside a run it asks for nothing else.  They agree in this:

| a text that | is scanned |
| :-- | :-- |
| can name a variable | as that name alone, and no other text is |
| has a registered symbol or a parenthesis | as often as it has it, with that token |

The second line says that a registered symbol is never part of a run and never
skipped.  A token for it can come from nowhere else either, so both are counted
alike (`count_scan_ofChar`).  Of a symbol that is not registered there is no token.
-/
import Abacus.Proofs.Token.Spelling

namespace Abacus

open Abacus.Text

variable {config : Config} {text : List Char} {c : Char}

/-! ## Names -/

end Abacus
