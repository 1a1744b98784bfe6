/-
# No line of a batch is lost

At every point of a run each line that was started is either with a worker that
runs or among the collected outcomes, and is there once.  Which of the two is up
to the schedule; both together are, in some order, what the started lines come
to (`Batch.outcomesOf`), and that depends on neither schedule nor slots.

    p.collected ++ reports of p.running  ~  outcomes of the lines 1 … p.started

`Batch.Accounted` states this with what else holds throughout: the bound on the
running workers, and what the results file holds.  A step keeps it whatever the
schedule says (`Accounted.step`), so it holds wherever a run can come
(`Accounted.reaches`).  With one slot nothing can overtake, and the law holds in
the order of the lines.
-/
import Abacus.Batch
import Mathlib.Data.List.Perm.Basic

namespace Abacus

namespace Batch

open Abacus.Text

/-- The value of an expression under the standard operators and some variables,
or the wording of why it has none. -/
def verdictOf (bindings : Table String Float) (expression : String) : Except String Float :=
  match Config.standard.bindAll bindings.toList with
  | .error e => .error e.message
  | .ok config => (evaluate config expression).mapError ExpressionError.message

/-- What the line behind some others comes to. -/
def outcomeOf (bindings : Table String Float) (before : Nat) (expression : String) : Outcome :=
  ⟨lineAfter before, expression, verdictOf bindings expression⟩

/-- What the lines of a batch come to, in their order. -/
def outcomesOf (bindings : Table String Float) (expressions : List String) : List Outcome :=
  expressions.mapIdx (outcomeOf bindings)

/-- Where a run stands: every line is still to be started, or running, or collected. -/
structure Accounted (b : Batch) (expressions : List String) (p : Progress) : Prop where
  pending : p.pending = expressions.drop p.started
  started : p.started ≤ expressions.length
  bounded : p.running.length ≤ b.slots.1
  settled : (p.collected ++ p.running.map Worker.report).Perm
    ((outcomesOf b.bindings expressions).take p.started)
  inOrder : b.slots.1 = 1 →
    p.collected ++ p.running.map Worker.report = (outcomesOf b.bindings expressions).take p.started
  written : p.written = String.join (p.collected.map fun o => o.text ++ "\n")

variable {b : Batch} {schedule : Schedule} {expressions : List String} {p q : Progress}

theorem length_outcomesOf (bindings : Table String Float) (expressions : List String) :
    (outcomesOf bindings expressions).length = expressions.length :=
  List.length_mapIdx

/-! ## What a worker reports -/

theorem value_message (w : Worker) :
    w.value.mapError Worker.Failure.message = verdictOf w.bindings w.expression.1 := by
  rw [Worker.value, verdictOf]
  cases Config.standard.bindAll w.bindings.toList with
  | error e => rfl
  | ok config =>
    dsimp only
    cases evaluate config w.expression.1 <;> rfl

theorem report_of_worker {started : Nat} {expression : String} {w : Worker}
    (h : b.worker started expression = .ok w) :
    w.report = outcomeOf b.bindings started expression ∧ w.line.1 = started + 1 := by
  unfold worker Worker.checkExpression at h
  split at h
  next filled =>
    cases h
    exact ⟨by rw [Worker.report, value_message, outcomeOf], rfl⟩
  next => cases h

theorem exists_worker {expression : String} (filled : isBlankText expression.toList = false)
    (b : Batch) (started : Nat) : ∃ w, b.worker started expression = .ok w := by
  rw [worker, Worker.checkExpression, dif_pos filled]
  exact ⟨_, rfl⟩

/-! ## What a step does -/

theorem step_cases (h : b.step schedule p = .next q) :
    q = p.collect schedule ∨
      ∃ expression rest w, p.pending = expression :: rest ∧ p.running.length < b.slots.1 ∧
        b.worker p.started expression = .ok w ∧
        q = { p with started := p.started + 1, pending := rest, running := p.running ++ [w] } := by
  unfold step at h
  split at h
  next =>
    split at h
    · cases h
    · cases h
      exact .inl rfl
  next expression rest pending =>
    split at h
    next =>
      cases h
      exact .inl rfl
    next free =>
      split at h
      · cases h
      · next w made =>
        cases h
        exact .inr ⟨expression, rest, w, pending, Nat.lt_of_not_le free, made, rfl⟩

theorem step_finished (h : b.step schedule p = .finished) : p.pending = [] ∧ p.running = [] := by
  unfold step at h
  split at h
  next pending =>
    split at h
    next none => exact ⟨pending, by simpa using none⟩
    next => cases h
  next =>
    split at h
    · cases h
    · split at h <;> cases h

/-! ## What a step keeps -/

namespace Accounted

theorem start (b : Batch) (expressions : List String) :
    Accounted b expressions (.start expressions) where
  pending := rfl
  started := Nat.zero_le _
  bounded := Nat.zero_le _
  settled := List.Perm.refl _
  inOrder := fun _ => rfl
  written := rfl

theorem takeOut (inv : Accounted b expressions p) {i : Nat} {w : Worker} (h : p.running[i]? = some w) :
    Accounted b expressions (p.takeOut i w) where
  pending := inv.pending
  started := inv.started
  bounded := Nat.le_trans (List.length_eraseIdx_le _ _) inv.bounded
  settled := by
    obtain ⟨inside, rfl⟩ := List.getElem?_eq_some_iff.mp h
    have moved := (List.getElem_cons_eraseIdx_perm inside).map Worker.report
    rw [Progress.takeOut, List.append_assoc, List.singleton_append]
    exact (moved.append_left p.collected).trans inv.settled
  inOrder := by
    intro single
    have bound := inv.bounded
    obtain ⟨inside, _⟩ := List.getElem?_eq_some_iff.mp h
    obtain ⟨v, only⟩ : ∃ v, p.running = [v] := List.length_eq_one_iff.mp (by omega)
    obtain ⟨rfl, rfl⟩ : i = 0 ∧ v = w := by
      rw [only] at h inside
      cases i with
      | zero => exact ⟨rfl, Option.some.inj h⟩
      | succ i => cases h
    have same := inv.inOrder single
    rw [only, List.map_singleton] at same
    simpa [Progress.takeOut, only] using same
  written := by
    rw [Progress.takeOut, inv.written, List.map_append, String.join_append, List.map_singleton,
      String.join_cons, String.join_nil, String.append_empty, String.append_assoc]

theorem collect (schedule : Schedule) (inv : Accounted b expressions p) :
    Accounted b expressions (p.collect schedule) := by
  have waited : Accounted b expressions { p with waits := p.waits + 1 } :=
    ⟨inv.pending, inv.started, inv.bounded, inv.settled, inv.inOrder, inv.written⟩
  exact Progress.sweep_preserves (fun _ _ _ place inv => inv.takeOut place) _ _ _ waited

theorem next {expression : String} {rest : List String} (inv : Accounted b expressions p)
    (h : p.pending = expression :: rest) :
    expressions[p.started]? = some expression ∧ rest = expressions.drop (p.started + 1) := by
  have left : expressions.drop p.started = expression :: rest := inv.pending.symm.trans h
  constructor
  · rw [← Nat.add_zero p.started, ← List.getElem?_drop, left]
    rfl
  · rw [← List.drop_drop, left]
    rfl

theorem begin {expression : String} {rest : List String} {w : Worker}
    (inv : Accounted b expressions p) (h : p.pending = expression :: rest)
    (free : p.running.length < b.slots.1) (made : b.worker p.started expression = .ok w) :
    Accounted b expressions
      { p with started := p.started + 1, pending := rest, running := p.running ++ [w] } := by
  obtain ⟨place, remain⟩ := inv.next h
  obtain ⟨inside, rfl⟩ := List.getElem?_eq_some_iff.mp place
  -- one more of the outcomes is now to be found
  have more : (outcomesOf b.bindings expressions).take (p.started + 1) =
      (outcomesOf b.bindings expressions).take p.started ++ [w.report] := by
    rw [List.take_succ_eq_append_getElem (by rwa [length_outcomesOf]), (report_of_worker made).1]
    simp [outcomesOf]
  have joined : p.collected ++ (p.running ++ [w]).map Worker.report =
      p.collected ++ p.running.map Worker.report ++ [w.report] := by
    rw [List.map_append, List.map_singleton, List.append_assoc]
  exact {
    pending := remain
    started := inside
    bounded := by simpa [Nat.succ_le_iff] using free
    settled := by
      show (p.collected ++ (p.running ++ [w]).map Worker.report).Perm _
      rw [more, joined]
      exact inv.settled.append_right [w.report]
    inOrder := by
      intro single
      show p.collected ++ (p.running ++ [w]).map Worker.report = _
      rw [more, joined, inv.inOrder single]
    written := inv.written }

theorem step (inv : Accounted b expressions p) (h : b.step schedule p = .next q) :
    Accounted b expressions q := by
  rcases step_cases h with rfl | ⟨expression, rest, w, pending, free, made, rfl⟩
  · exact inv.collect schedule
  · exact inv.begin pending free made

/-- Wherever a run can come, every line is accounted for. -/
theorem reaches (h : Reaches b schedule (.start expressions) q) : Accounted b expressions q := by
  induction h with
  | refl => exact start b expressions
  | step _ taken ih => exact ih.step taken

end Accounted

end Batch

end Abacus
