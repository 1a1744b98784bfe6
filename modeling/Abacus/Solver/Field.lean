/-
Solvers from untyped values.

A record may name the operators to try and the most numbers to take; each has a
default.
-/
import Abacus.Field.Value
import Abacus.Solver

namespace Abacus

/-- The most numbers that are taken unless said otherwise. -/
def defaultLimit : Nat := 12

namespace Solver

/-- The texts of a list field.  Besides the bad items, it is reported when no good
one is left. -/
def readTexts : Value → Checked (List String)
  | .list items =>
    let texts := items.mapIdx fun i v => Checked.under (toString i) v.toText
    match Checked.all texts with
    | .ok [] => .refuse .tooFew
    | .ok texts => .ok texts
    | .error issues =>
      if texts.any (·.isOk) then .error issues else .error (issues ++ [⟨[], .tooFew⟩])
  | _ => .refuse .notList

/-- Texts that are symbols, up to the first that is none. -/
def checkSymbols : List String → Except KeyError (List UsableSymbol)
  | [] => .ok []
  | text :: rest => do
    let s ← checkSymbol text
    let others ← checkSymbols rest
    return s :: others

/-- The symbols of a list field, at least one. -/
def readSymbols (v : Value) :
    Checked { symbols : List UsableSymbol // symbols ≠ [] } :=
  (readTexts v).andThen fun texts =>
    match checkSymbols texts with
    | .error e => .refuse (.rule e.message)
    | .ok [] => .refuse .tooFew
    | .ok (s :: others) => .ok ⟨s :: others, by simp⟩

/-- The symbols that are tried unless said otherwise. -/
def defaultSymbols : { symbols : List UsableSymbol // symbols ≠ [] } :=
  ⟨[Config.plus, Config.minus, Config.times], by simp⟩

/-- The search with the given symbols and limit. -/
def make (config : Config) (symbols : { symbols : List UsableSymbol // symbols ≠ [] })
    (limit : AtLeast 2) : Solver where
  symbols := symbols.1.map Subtype.val
  config := config
  limit := limit.1
  symbols_ne := fun h => symbols.2 (List.map_eq_nil_iff.mp h)
  symbols_usable := by
    intro s hs
    obtain ⟨x, _, rfl⟩ := List.mem_map.mp hs
    exact x.2
  two_le_limit := limit.2

/-- The search that a record describes, in a given configuration. -/
def ofRecord (config : Config) (record : Value) : Checked Solver :=
  let symbols := record.optional "operators" defaultSymbols readSymbols
  let limit := record.optional "max_numbers" ⟨defaultLimit, by decide⟩ (Value.toNatFrom 2)
  (symbols.both limit).map fun (symbols, limit) => make config symbols limit

def standard : Solver :=
  make .standard defaultSymbols ⟨defaultLimit, by decide⟩

end Solver

end Abacus
