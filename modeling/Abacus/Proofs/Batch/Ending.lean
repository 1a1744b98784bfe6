/-
# How a batch ends

A batch without blank lines ends, whatever its schedule does, and what comes of
it is what its lines come to (`Batch.outcomesOf`):

    (b.run schedule expressions).outcomes = .ok (outcomesOf b.bindings expressions)

Neither the schedule nor the number of slots stands on the right.  They decide
only in which order the outcomes were collected, and so the order in the results
file; with one slot that too is the order of the lines.  `Batch.Completes` lists
all that is promised of a run.

That a run ends is an induction along its steps; all else is read off the
invariant `Accounted` at the end, where nothing is pending and nothing runs.
-/
import Abacus.Proofs.Batch.Accounted
import Mathlib.Data.List.Nodup

namespace Abacus

namespace Batch

open Abacus.Text

/-- The lines that a run starts from where it stands: at each step those that
run after it and did not before. -/
def startsFrom (b : Batch) (schedule : Schedule) (p : Progress) : List Nat :=
  match _h : b.step schedule p with
  | .next q => q.lines.filter (fun line => !p.lines.contains line) ++ b.startsFrom schedule q
  | .refused _ => []
  | .finished => []
termination_by p.work
decreasing_by exact work_lt_of_step _h

/-- What a run of a batch over some expressions promises. -/
structure Completes (b : Batch) (schedule : Schedule) (expressions : List String) : Prop where
  /-- It ends, and nothing stops it early. -/
  ends : ∃ last, Reaches b schedule (.start expressions) last ∧ b.step schedule last = .finished ∧
    b.run schedule expressions = ⟨last.collected, last.written, none⟩
  /-- There are never more workers than slots. -/
  bounded : ∀ p, Reaches b schedule (.start expressions) p → p.running.length ≤ b.slots.1
  /-- Every line is started once. -/
  started : b.startsFrom schedule (.start expressions) = List.range' 1 expressions.length
  /-- Every line is collected once. -/
  collected : ((b.run schedule expressions).collected.map fun o => o.line.1).Perm
    (List.range' 1 expressions.length)
  /-- The outcomes are those of the lines, in the order of the lines. -/
  outcomes : (b.run schedule expressions).outcomes = .ok (outcomesOf b.bindings expressions)
  /-- No other schedule and no other number of slots gives other outcomes. -/
  independent : ∀ slots other, (run ⟨slots, b.bindings⟩ other expressions).outcomes =
    (b.run schedule expressions).outcomes
  /-- The results file has a line for each outcome, as they were collected. -/
  file : (b.run schedule expressions).file =
    String.join ((b.run schedule expressions).collected.map fun o => o.text ++ "\n")
  /-- What is collected are the outcomes of the lines, each once. -/
  settled : (b.run schedule expressions).collected.Perm (outcomesOf b.bindings expressions)
  /-- With one slot they are collected in the order of the lines. -/
  inOrder : b.slots.1 = 1 → (b.run schedule expressions).collected = outcomesOf b.bindings expressions

variable {b : Batch} {schedule : Schedule} {expressions : List String} {p q : Progress}

/-! ## A run ends -/

theorem Accounted.not_refused (inv : Accounted b expressions p)
    (filled : ∀ e ∈ expressions, isBlankText e.toList = false) (issues : List Issue) :
    b.step schedule p ≠ .refused issues := by
  intro h
  unfold Batch.step at h
  split at h
  next => split at h <;> cases h
  next expression rest pending =>
    obtain ⟨place, _⟩ := inv.next pending
    obtain ⟨w, made⟩ := exists_worker (filled expression (List.mem_of_getElem? place)) b p.started
    rw [made] at h
    split at h <;> cases h

theorem exists_last (h : Reaches b schedule (.start expressions) p) :
    ∃ last, Reaches b schedule (.start expressions) last ∧
      ((b.step schedule last = .finished ∧ b.runFrom schedule p = ⟨last.collected, last.written, none⟩) ∨
        ∃ issues, b.step schedule last = .refused issues ∧
          b.runFrom schedule p = ⟨last.collected, last.written, some issues⟩) := by
  fun_induction b.runFrom schedule p with
  | case1 p q taken ih => exact ih (h.step taken)
  | case2 p issues taken => exact ⟨p, h, .inr ⟨issues, taken, rfl⟩⟩
  | case3 p taken => exact ⟨p, h, .inl ⟨taken, rfl⟩⟩

theorem exists_ending (b : Batch) (schedule : Schedule)
    (filled : ∀ e ∈ expressions, isBlankText e.toList = false) :
    ∃ last, Reaches b schedule (.start expressions) last ∧ b.step schedule last = .finished ∧
      b.run schedule expressions = ⟨last.collected, last.written, none⟩ := by
  obtain ⟨last, reached, ⟨done, ran⟩ | ⟨issues, refused, _⟩⟩ := exists_last (.refl (.start expressions))
  · exact ⟨last, reached, done, ran⟩
  · exact absurd refused ((Accounted.reaches reached).not_refused filled issues)

/-! ## Every line is started once -/

theorem lines_outcomesOf (bindings : Table String Float) (expressions : List String) :
    (outcomesOf bindings expressions).map (fun o => o.line.1) = List.range' 1 expressions.length := by
  apply List.ext_getElem
  · simp [outcomesOf]
  · intro i h₁ h₂
    simp [outcomesOf, outcomeOf, lineAfter]
    omega

theorem Accounted.line_le (inv : Accounted b expressions p) {line : Nat} (h : line ∈ p.lines) :
    line ≤ p.started := by
  obtain ⟨w, running, rfl⟩ := List.mem_map.mp h
  have accounted : w.report ∈ (outcomesOf b.bindings expressions).take p.started :=
    inv.settled.subset (List.mem_append_right _ (List.mem_map_of_mem running))
  obtain ⟨i, inside, same⟩ := List.mem_iff_getElem.mp accounted
  have line : i + 1 = w.line.1 := by
    have lines := congrArg (fun o : Outcome => o.line.1) same
    simpa [outcomesOf, outcomeOf, lineAfter, Worker.report] using lines
  rw [List.length_take] at inside
  omega

theorem Accounted.newLines (inv : Accounted b expressions p) (h : b.step schedule p = .next q) :
    (q.started = p.started ∧ q.lines.filter (fun line => !p.lines.contains line) = []) ∨
      (q.started = p.started + 1 ∧
        q.lines.filter (fun line => !p.lines.contains line) = [p.started + 1]) := by
  rcases step_cases h with rfl | ⟨expression, rest, w, pending, free, made, rfl⟩
  · left
    refine ⟨(Progress.pending_collect schedule p).2, List.filter_eq_nil_iff.mpr ?_⟩
    intro line hline
    -- who runs after a wait ran before it
    rw [Progress.lines, Progress.running_collect] at hline
    obtain ⟨w, running, rfl⟩ := List.mem_map.mp hline
    have before : w.line.1 ∈ p.lines := List.mem_map_of_mem (List.mem_of_mem_filter running)
    simpa using before
  · right
    have made := (report_of_worker made).2
    have fresh : p.started + 1 ∉ p.lines := by
      intro running
      have le := inv.line_le running
      omega
    have known : p.lines.filter (fun line => !p.lines.contains line) = [] := by
      rw [List.filter_eq_nil_iff]
      intro line hline
      simpa using hline
    refine ⟨rfl, ?_⟩
    show ((p.running ++ [w]).map fun w => w.line.1).filter (fun line => !p.lines.contains line) = _
    rw [List.map_append, List.map_singleton, made, List.filter_append, ← Progress.lines, known]
    simpa using fresh

/-- A run starts the lines that are still to be started, in order. -/
theorem startsFrom_eq (filled : ∀ e ∈ expressions, isBlankText e.toList = false)
    (inv : Accounted b expressions p) :
    b.startsFrom schedule p = List.range' (p.started + 1) (expressions.length - p.started) := by
  fun_induction b.startsFrom schedule p with
  | case1 p q taken ih =>
    have bound := (inv.step taken).started
    rw [ih (inv.step taken)]
    rcases inv.newLines taken with ⟨same, none⟩ | ⟨more, one⟩
    · rw [none, same, List.nil_append]
    · have here : expressions.length - p.started = expressions.length - (p.started + 1) + 1 := by
        omega
      rw [one, more, here, List.range'_succ, List.singleton_append]
  | case2 p issues taken => exact absurd taken (inv.not_refused filled issues)
  | case3 p taken =>
    have none := inv.pending
    rw [(step_finished taken).1, eq_comm, List.drop_eq_nil_iff] at none
    rw [Nat.sub_eq_zero_of_le none]
    rfl

/-! ## What comes of a run -/

theorem mergeSort_outcomesOf {collected : List Outcome} {bindings : Table String Float}
    (h : collected.Perm (outcomesOf bindings expressions)) :
    collected.mergeSort (fun a b => decide (a.line.1 ≤ b.line.1)) = outcomesOf bindings expressions := by
  have increasing : (outcomesOf bindings expressions).Pairwise fun a b => a.line.1 < b.line.1 := by
    rw [← List.pairwise_map, lines_outcomesOf]
    exact List.pairwise_lt_range'
  have sorted : (collected.mergeSort fun a b => decide (a.line.1 ≤ b.line.1)).Pairwise
      fun a b => decide (a.line.1 ≤ b.line.1) = true := by
    apply List.pairwise_mergeSort
    · intro a b c ab bc
      exact decide_eq_true (Nat.le_trans (of_decide_eq_true ab) (of_decide_eq_true bc))
    · intro a b
      simpa using Nat.le_total a.line.1 b.line.1
  have same := (List.mergeSort_perm collected fun a b => decide (a.line.1 ≤ b.line.1)).trans h
  refine List.Perm.eq_of_pairwise ?_ sorted (increasing.imp fun lt => decide_eq_true (Nat.le_of_lt lt)) same
  -- no two outcomes have the same line
  intro a c ha hc ac ca
  have distinct : ((outcomesOf bindings expressions).map fun o => o.line.1).Nodup := by
    rw [lines_outcomesOf]
    exact List.nodup_range'
  exact List.inj_on_of_nodup_map distinct (same.subset ha) hc
    (Nat.le_antisymm (of_decide_eq_true ac) (of_decide_eq_true ca))

theorem Accounted.collected_perm (inv : Accounted b expressions p) (h : b.step schedule p = .finished) :
    p.collected.Perm (outcomesOf b.bindings expressions) ∧
      (b.slots.1 = 1 → p.collected = outcomesOf b.bindings expressions) := by
  obtain ⟨pending, running⟩ := step_finished h
  have all : expressions.length ≤ p.started := by
    have none := inv.pending
    rwa [pending, eq_comm, List.drop_eq_nil_iff] at none
  have settled := inv.settled
  have inOrder := inv.inOrder
  rw [running, List.map_nil, List.append_nil,
    List.take_of_length_le (by rwa [length_outcomesOf])] at settled inOrder
  exact ⟨settled, inOrder⟩

theorem outcomes_run (b : Batch) (schedule : Schedule)
    (filled : ∀ e ∈ expressions, isBlankText e.toList = false) :
    (b.run schedule expressions).outcomes = .ok (outcomesOf b.bindings expressions) := by
  obtain ⟨last, reached, done, ran⟩ := exists_ending b schedule filled
  have settled := ((Accounted.reaches reached).collected_perm done).1
  rw [ran, Ending.outcomes]
  exact congrArg Except.ok (mergeSort_outcomesOf settled)

/-- A batch of lines that are not blank keeps all its promises, whatever the
schedule. -/
theorem run_completes (b : Batch) (schedule : Schedule) (expressions : List String)
    (filled : ∀ e ∈ expressions, isBlankText e.toList = false) : Completes b schedule expressions := by
  obtain ⟨last, reached, done, ran⟩ := exists_ending b schedule filled
  have inv := Accounted.reaches reached
  obtain ⟨settled, inOrder⟩ := inv.collected_perm done
  have outcomes := outcomes_run b schedule filled
  exact {
    ends := ⟨last, reached, done, ran⟩
    bounded := fun p reached => (Accounted.reaches reached).bounded
    started := startsFrom_eq filled (Accounted.start b expressions)
    collected := by
      rw [ran, ← lines_outcomesOf b.bindings]
      exact settled.map fun o => o.line.1
    outcomes := outcomes
    independent := fun slots other => (outcomes_run ⟨slots, b.bindings⟩ other filled).trans outcomes.symm
    file := by
      rw [ran]
      exact inv.written
    settled := by rwa [ran]
    inOrder := by rwa [ran] }

/-- Three lines and two slots, when the oldest worker always reports first. -/
theorem run_completes_oldestFirst :
    (∀ e ∈ ["2 + 3", "(1", "x"], isBlankText e.toList = false) ∧
      Completes ⟨⟨2, by decide⟩, .empty⟩ .oldestFirst ["2 + 3", "(1", "x"] :=
  ⟨by decide,
    run_completes ⟨⟨2, by decide⟩, .empty⟩ .oldestFirst ["2 + 3", "(1", "x"] (by decide)⟩

end Batch

end Abacus
