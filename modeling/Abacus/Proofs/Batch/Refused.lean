/-
# How a batch ends that has a blank line

A batch refuses a blank expression when it comes to start it.  By then every line in
front of it was started, and a slot is free:

    p.collected.length + p.running.length = before.length
    p.running.length < b.slots.1

What was collected stays in the results file, so of the lines in front of the blank
one at most those are missing that still run, and there are fewer of them than slots
(`Batch.StopsBehind`).  Which ones these are is up to the schedule.  With one slot
there are none.

That the blank line is where the run stops is an invariant of its own: the lines
that are started are not blank (`Reaches.filled`).  All else is read off `Accounted`
at the point where the run stops.
-/
import Abacus.Proofs.Batch.Ending
import Mathlib.Data.List.Perm.Subperm

namespace Abacus

namespace Batch

open Abacus.Text

/-- What is wrong with a blank expression. -/
def blankIssues : List Issue := [⟨["expression"], .rule Worker.blankExpression⟩]

/-- What a run promises of some lines whose first blank one stands behind others. -/
structure StopsBehind (b : Batch) (schedule : Schedule) (before : List String) (blank : String)
    (after : List String) : Prop where
  /-- It ends where the lines in front are started and the blank one is refused. -/
  ends : ∃ last, Reaches b schedule (.start (before ++ blank :: after)) last ∧
    last.started = before.length ∧ b.step schedule last = .refused blankIssues
  /-- What it says is what is wrong with the blank expression. -/
  refusal : (b.run schedule (before ++ blank :: after)).outcomes = .error blankIssues
  /-- The results file has a line for each outcome, as they were collected. -/
  file : (b.run schedule (before ++ blank :: after)).file =
    String.join ((b.run schedule (before ++ blank :: after)).collected.map fun o => o.text ++ "\n")
  /-- What is collected are outcomes of the lines in front, none of them twice. -/
  settled : (b.run schedule (before ++ blank :: after)).collected.Subperm (outcomesOf b.bindings before)
  /-- None of them twice, and no later line, means also none of their numbers. -/
  lines : ((b.run schedule (before ++ blank :: after)).collected.map fun o => o.line.1).Subperm
    (List.range' 1 before.length)
  /-- Fewer lines are missing than there are slots. -/
  missing : before.length < (b.run schedule (before ++ blank :: after)).collected.length + b.slots.1
  /-- With one slot none is missing, and they are in the order of the lines. -/
  inOrder : b.slots.1 = 1 →
    (b.run schedule (before ++ blank :: after)).collected = outcomesOf b.bindings before

variable {b : Batch} {schedule : Schedule} {expressions : List String} {p : Progress}

/-! ## What is started is not blank -/

theorem worker_of_blank {blank : String} (h : isBlankText blank.toList = true) (b : Batch) (started : Nat) :
    b.worker started blank = .error blankIssues := by
  rw [worker, Worker.checkExpression, dif_neg (by simp [h])]
  rfl

theorem filled_of_worker {started : Nat} {expression : String} {w : Worker}
    (h : b.worker started expression = .ok w) : isBlankText expression.toList = false := by
  rw [Bool.eq_false_iff]
  intro blank
  rw [worker_of_blank blank] at h
  cases h

theorem Reaches.filled (h : Reaches b schedule (.start expressions) p) :
    ∀ e ∈ expressions.take p.started, isBlankText e.toList = false := by
  induction h with
  | refl =>
    intro e he
    cases he
  | step reached taken ih =>
    rcases step_cases taken with rfl | ⟨expression, rest, w, pending, _, made, rfl⟩
    · rwa [(Progress.pending_collect schedule _).2]
    · obtain ⟨place, _⟩ := (Accounted.reaches reached).next pending
      obtain ⟨inside, rfl⟩ := List.getElem?_eq_some_iff.mp place
      intro e he
      rw [List.take_succ_eq_append_getElem inside, List.mem_append, List.mem_singleton] at he
      rcases he with he | rfl
      · exact ih e he
      · exact filled_of_worker made

theorem step_refused {issues : List Issue} (h : b.step schedule p = .refused issues) :
    ∃ expression rest, p.pending = expression :: rest ∧ p.running.length < b.slots.1 ∧
      b.worker p.started expression = .error issues := by
  unfold step at h
  split at h
  next => split at h <;> cases h
  next expression rest pending =>
    split at h
    next => cases h
    next free =>
      split at h
      next failed =>
        cases h
        exact ⟨expression, rest, pending, Nat.lt_of_not_le free, failed⟩
      next => cases h

/-! ## Where it stops -/

section Blank

variable {before after : List String} {blank : String}

/-- The blank line is not started, and so none behind it. -/
theorem Reaches.started_le (isBlank : isBlankText blank.toList = true)
    (h : Reaches b schedule (.start (before ++ blank :: after)) p) : p.started ≤ before.length := by
  by_contra further
  have member : blank ∈ (before ++ blank :: after).take p.started := by
    rw [List.take_append, List.take_cons (by omega)]
    exact List.mem_append_right _ List.mem_cons_self
  rw [h.filled blank member] at isBlank
  cases isBlank

theorem exists_refused (filled : ∀ e ∈ before, isBlankText e.toList = false)
    (isBlank : isBlankText blank.toList = true) (b : Batch) (schedule : Schedule) (after : List String) :
    ∃ last, Reaches b schedule (.start (before ++ blank :: after)) last ∧ last.started = before.length ∧
      last.running.length < b.slots.1 ∧ b.step schedule last = .refused blankIssues ∧
      b.run schedule (before ++ blank :: after) = ⟨last.collected, last.written, some blankIssues⟩ := by
  have start : Reaches b schedule (.start (before ++ blank :: after)) (.start (before ++ blank :: after)) :=
    .refl _
  obtain ⟨last, reached, ⟨done, _⟩ | ⟨issues, refused, ran⟩⟩ := exists_last start
  · have inv := (Accounted.reaches reached).pending
    have bound := reached.started_le isBlank
    rw [(step_finished done).1, eq_comm, List.drop_eq_nil_iff, List.length_append, List.length_cons] at inv
    omega
  · obtain ⟨expression, rest, pending, free, failed⟩ := step_refused refused
    obtain ⟨place, _⟩ := (Accounted.reaches reached).next pending
    have stopped : last.started = before.length := by
      by_contra other
      have inside : last.started < before.length :=
        Nat.lt_of_le_of_ne (reached.started_le isBlank) other
      rw [List.getElem?_append_left inside] at place
      obtain ⟨w, made⟩ := exists_worker (filled expression (List.mem_of_getElem? place)) b last.started
      rw [failed] at made
      cases made
    obtain rfl : blank = expression := by simpa [stopped] using place
    obtain rfl : blankIssues = issues := by
      rw [worker_of_blank isBlank] at failed
      exact Except.error.inj failed
    exact ⟨last, reached, stopped, free, refused, ran⟩

theorem take_outcomesOf (bindings : Table String Float) (before others : List String) :
    (outcomesOf bindings (before ++ others)).take before.length = outcomesOf bindings before := by
  rw [outcomesOf, List.mapIdx_append, List.take_left' (by rw [List.length_mapIdx])]
  rfl

/-- A batch with a blank line stops behind the lines in front of it, whatever the schedule. -/
theorem run_stops (b : Batch) (schedule : Schedule) (after : List String)
    (filled : ∀ e ∈ before, isBlankText e.toList = false) (isBlank : isBlankText blank.toList = true) :
    StopsBehind b schedule before blank after := by
  obtain ⟨last, reached, stopped, free, refused, ran⟩ := exists_refused filled isBlank b schedule after
  have inv := Accounted.reaches reached
  have settled := inv.settled
  have inOrder := inv.inOrder
  rw [stopped, take_outcomesOf] at settled inOrder
  have collected : last.collected.Subperm (outcomesOf b.bindings before) :=
    (List.sublist_append_left _ _).subperm.trans settled.subperm
  have counted := settled.length_eq
  rw [List.length_append, List.length_map, length_outcomesOf] at counted
  exact {
    ends := ⟨last, reached, stopped, refused⟩
    refusal := by rw [ran]; rfl
    file := by rw [ran]; exact inv.written
    settled := by rwa [ran]
    lines := by
      obtain ⟨kept, same, sublist⟩ := collected
      rw [ran, ← lines_outcomesOf b.bindings]
      exact ⟨_, same.map _, sublist.map _⟩
    missing := by
      rw [ran]
      show before.length < last.collected.length + b.slots.1
      omega
    inOrder := by
      intro single
      have none : last.running = [] := List.eq_nil_of_length_eq_zero (by omega)
      have same := inOrder single
      rw [none, List.map_nil, List.append_nil] at same
      rwa [ran] }

theorem run_stops_oldestFirst :
    (∀ e ∈ ["2 + 3", "(1"], isBlankText e.toList = false) ∧ isBlankText " \t".toList = true ∧
      StopsBehind ⟨⟨2, by decide⟩, .empty⟩ .oldestFirst ["2 + 3", "(1"] " \t" ["x"] :=
  ⟨by decide, by decide,
    run_stops ⟨⟨2, by decide⟩, .empty⟩ .oldestFirst ["x"] (by decide) (by decide)⟩

end Blank

end Batch

end Abacus
