/-
Batches: many expressions, evaluated by a bounded number of workers at a time.

The lines of a batch are started in order.  When every slot is taken, and when
no line is left to start, the batch waits until some of its running workers
report, and collects these, the latest started first: it goes through its list
of running workers backwards and takes out of it those that have reported, each
of which is written to the results file at once.  Who reports at which wait is
not up to the batch: it is the choice of a schedule, and a run takes the
schedule as an argument.

A batch that meets a blank expression stops there.  What was collected by then
stays written; the workers that still run are not waited for.
-/
import Abacus.Worker

namespace Abacus

open Abacus.Text

/-- A choice of who reports: given how many waits there were before and which
lines are running, oldest first, it says whether a line reports now.  Of running
lines at least one does. -/
structure Schedule where
  reports : Nat → List Nat → Nat → Bool
  progresses : ∀ wait running, running ≠ [] → ∃ line ∈ running, reports wait running line = true

/-- The schedule in which only the worker that has been running longest reports. -/
def Schedule.oldestFirst : Schedule where
  reports _ running line := running.head? == some line
  progresses := by
    intro wait running h
    cases running with
    | nil => exact absurd rfl h
    | cons line rest => exact ⟨line, by simp, by simp⟩

/-- How many workers may run at a time, and the variables that all expressions may mention. -/
structure Batch where
  slots : AtLeast 1
  bindings : Table String Float

/-- How far a run has come: the waits and the lines started so far, the
expressions that are still to be started, the running workers, oldest first, the
collected outcomes, in the order in which they were collected, and what the
results file holds. -/
structure Progress where
  waits : Nat
  started : Nat
  pending : List String
  running : List Worker
  collected : List Outcome
  written : String

namespace Progress

def start (expressions : List String) : Progress :=
  ⟨0, 0, expressions, [], [], ""⟩

/-- The lines that are running, oldest first. -/
def lines (p : Progress) : List Nat :=
  p.running.map fun w => w.line.1

def reportsNow (schedule : Schedule) (p : Progress) (w : Worker) : Bool :=
  schedule.reports p.waits p.lines w.line.1

/-- Takes out the running worker at an index and writes what it reports. -/
def takeOut (p : Progress) (i : Nat) (w : Worker) : Progress :=
  { p with
    running := p.running.eraseIdx i
    collected := p.collected ++ [w.report]
    written := p.written ++ w.report.text ++ "\n" }

/-- Goes through the running workers below an index, the last one first, and
takes out those that report. -/
def sweep (reports : Worker → Bool) (p : Progress) : Nat → Progress
  | 0 => p
  | i + 1 =>
    match p.running[i]? with
    | some w => sweep reports (if reports w then p.takeOut i w else p) i
    | none => sweep reports p i

/-- Waits, and collects the workers that report. -/
def collect (schedule : Schedule) (p : Progress) : Progress :=
  { p with waits := p.waits + 1 }.sweep (p.reportsNow schedule) p.running.length

/-- The steps that a run may still need. -/
def work (p : Progress) : Nat :=
  2 * p.pending.length + p.running.length

theorem sweep_succ (reports : Worker → Bool) (p : Progress) {i : Nat} (h : i < p.running.length) :
    p.sweep reports (i + 1) =
      (if reports p.running[i] then p.takeOut i p.running[i] else p).sweep reports i := by
  rw [sweep, List.getElem?_eq_getElem h]

/-- Below the index those that report are gone, and the others are as before. -/
theorem running_sweep (reports : Worker → Bool) (p : Progress) {i : Nat} (h : i ≤ p.running.length) :
    (p.sweep reports i).running =
      (p.running.take i).filter (fun w => !reports w) ++ p.running.drop i := by
  induction i generalizing p with
  | zero => rfl
  | succ i ih =>
    rw [sweep_succ reports p h, List.take_succ_eq_append_getElem h, List.filter_append]
    cases reported : reports p.running[i] with
    | true =>
      have left : (p.takeOut i p.running[i]).running = p.running.take i ++ p.running.drop (i + 1) :=
        List.eraseIdx_eq_take_drop_succ p.running i
      have bound : i ≤ p.running.length := Nat.le_of_succ_le h
      rw [if_pos rfl, ih _ (by rw [left]; simp [bound]), left]
      simp [reported, bound]
    | false =>
      rw [if_neg Bool.false_ne_true, ih p (Nat.le_of_succ_le h), List.drop_eq_getElem_cons h]
      simp [reported]

theorem running_collect (schedule : Schedule) (p : Progress) :
    (p.collect schedule).running = p.running.filter fun w => !p.reportsNow schedule w := by
  rw [collect, running_sweep _ _ (Nat.le_refl _), List.take_length, List.drop_length, List.append_nil]

/-- A sweep keeps what taking out a worker keeps. -/
theorem sweep_preserves {P : Progress → Prop}
    (kept : ∀ p i w, p.running[i]? = some w → P p → P (p.takeOut i w))
    (reports : Worker → Bool) (p : Progress) (i : Nat) (h : P p) : P (p.sweep reports i) := by
  fun_induction sweep reports p i with
  | case1 p => exact h
  | case2 p i w place ih =>
    apply ih
    split
    · exact kept p i w place h
    · exact h
  | case3 p i place ih => exact ih h

theorem pending_collect (schedule : Schedule) (p : Progress) :
    (p.collect schedule).pending = p.pending ∧ (p.collect schedule).started = p.started :=
  sweep_preserves (P := fun q => q.pending = p.pending ∧ q.started = p.started)
    (fun _ _ _ _ same => same) _ _ _ ⟨rfl, rfl⟩

/-- Collecting is progress: someone reports. -/
theorem work_collect_lt {schedule : Schedule} {p : Progress} (h : p.running ≠ []) :
    (p.collect schedule).work < p.work := by
  obtain ⟨line, hl, hr⟩ := schedule.progresses p.waits p.lines (by simpa [lines] using h)
  obtain ⟨w, hw, rfl⟩ := List.mem_map.mp hl
  have fewer : (p.running.filter fun w => !p.reportsNow schedule w).length < p.running.length := by
    apply List.length_filter_lt_length_iff_exists.mpr
    exact ⟨w, hw, by simp [reportsNow, hr]⟩
  simp only [work, running_collect, (pending_collect schedule p).1]
  omega

end Progress

namespace Batch

/-- The line behind those that are started. -/
def lineAfter (started : Nat) : AtLeast 1 :=
  ⟨started + 1, Nat.le_add_left 1 started⟩

/-- The worker for the next line. -/
def worker (b : Batch) (started : Nat) (expression : String) : Checked Worker :=
  Checked.under "expression" (Worker.checkExpression expression) |>.map fun e =>
    ⟨e, lineAfter started, b.bindings⟩

inductive Step where
  | next (p : Progress)
  | refused (issues : List Issue)
  | finished

/-- Starts the next line if there is one and a slot is free, and waits for
workers otherwise, until there is nothing left to do. -/
def step (b : Batch) (schedule : Schedule) (p : Progress) : Step :=
  match p.pending with
  | [] => if p.running.isEmpty then .finished else .next (p.collect schedule)
  | expression :: rest =>
    if b.slots.1 ≤ p.running.length then .next (p.collect schedule)
    else
      match b.worker p.started expression with
      | .error issues => .refused issues
      | .ok w =>
        .next { p with started := p.started + 1, pending := rest, running := p.running ++ [w] }

theorem work_lt_of_step {b : Batch} {schedule : Schedule} {p q : Progress}
    (h : b.step schedule p = .next q) : q.work < p.work := by
  unfold step at h
  split at h
  · split at h
    · cases h
    · next hr =>
      cases h
      exact Progress.work_collect_lt (by simpa using hr)
  · next expression rest hp =>
    split at h
    · next hs =>
      cases h
      refine Progress.work_collect_lt ?_
      intro hr
      have := b.slots.2
      simp [hr] at hs
      omega
    · split at h
      · cases h
      · cases h
        simp only [Progress.work, hp, List.length_cons, List.length_append, List.length_nil]
        omega

/-- A run that has come to one point comes to the other. -/
inductive Reaches (b : Batch) (schedule : Schedule) : Progress → Progress → Prop
  | refl (p : Progress) : Reaches b schedule p p
  | step {p q r : Progress} :
      Reaches b schedule p q → b.step schedule q = .next r → Reaches b schedule p r

/-- How a run ends: what was collected, the results file with an outcome a line as
they were collected, and what stopped the run early if anything did. -/
structure Ending where
  collected : List Outcome
  file : String
  refusal : Option (List Issue)

def runFrom (b : Batch) (schedule : Schedule) (p : Progress) : Ending :=
  match _h : b.step schedule p with
  | .next q => b.runFrom schedule q
  | .refused issues => ⟨p.collected, p.written, some issues⟩
  | .finished => ⟨p.collected, p.written, none⟩
termination_by p.work
decreasing_by exact work_lt_of_step _h

/-- Runs all expressions, which are the lines from 1 on. -/
def run (b : Batch) (schedule : Schedule) (expressions : List String) : Ending :=
  b.runFrom schedule (.start expressions)

namespace Ending

/-- The outcomes in the order of their lines, unless the run was stopped. -/
def outcomes (e : Ending) : Except (List Issue) (List Outcome) :=
  match e.refusal with
  | some issues => .error issues
  | none => .ok (e.collected.mergeSort fun a b => decide (a.line.1 ≤ b.line.1))

end Ending

/-- The log of a run that ended in a given way and wrote the file of a given name. -/
def records (b : Batch) (expressions : List String) (file : String) (ending : Ending) :
    List Log.Record :=
  ⟨.info, s!"Evaluating {expressions.length} expressions with up to {b.slots.1} workers"⟩ ::
    match ending.refusal with
    | some _ => []
    | none => [⟨.info, s!"Results written to {file}"⟩]

/-- The batch that a record describes, with a number of slots for when it names none. -/
def ofRecord (default : AtLeast 1) (record : Value) : Checked Batch :=
  let slots := record.optional "max_workers" default (Value.toNatFrom 1)
  let bindings := record.optional "variables" .empty Worker.readVariables
  (slots.both bindings).map fun (slots, bindings) => ⟨slots, bindings⟩

end Batch

end Abacus
