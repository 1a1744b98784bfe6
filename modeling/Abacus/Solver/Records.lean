/-
What a search for an equation reports.

The search itself is announced, then every expression that is read, and then the
equation if one is found.  The records follow the search: they stop where it
stops.
-/
import Abacus.Solver

namespace Abacus

namespace Solver

/-- The candidates that are evaluated when the first without a value ends it. -/
def upToError : List Candidate → List Candidate
  | [] => []
  | c :: rest => if c.value.isOk then c :: upToError rest else [c]

/-- The left-hand sides that are evaluated when the first match ends the search. -/
def upToMatch (rights : List (Float × String)) : List Candidate → List Candidate
  | [] => []
  | c :: rest =>
    match c.value with
    | .error _ => [c]
    | .ok x => if rights.any fun right => x == right.1 then [c] else c :: upToMatch rights rest

/-- What the evaluation of candidates reports. -/
def evaluationRecords (s : Solver) (candidates : List Candidate) : List Log.Record :=
  candidates.flatMap fun c => readingRecords s.config c.text

/-- What the search in one gap reports. -/
def recordsAt (s : Solver) (left right : List Int) : List Log.Record :=
  let lefts := (s.candidates left).toOption.getD []
  let rights := (s.candidates right).toOption.getD []
  s.evaluationRecords (upToError rights) ++
    match values rights with
    | .error _ => []
    | .ok rights =>
      s.evaluationRecords (upToMatch rights lefts) ++
        match firstEqual rights lefts with
        | .ok (some e) => [⟨.info, s!"Found equation {e.text}"⟩]
        | _ => []

def recordsAmong (s : Solver) (numbers : List Int) : List Nat → List Log.Record
  | [] => []
  | gap :: gaps =>
    s.recordsAt (numbers.take gap) (numbers.drop gap) ++
      match s.solveAt (numbers.take gap) (numbers.drop gap) with
      | .ok none => recordsAmong s numbers gaps
      | _ => []

def records (s : Solver) (numbers : List Int) : List Log.Record :=
  if s.limit < numbers.length then []
  else
    let listed := ", ".intercalate (numbers.map toString)
    ⟨.info, s!"Searching equations for [{listed}]"⟩ ::
      s.recordsAmong numbers (splits numbers.length)

end Solver

end Abacus
