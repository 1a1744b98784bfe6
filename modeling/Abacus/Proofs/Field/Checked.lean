/-
# Checks side by side

A check either passes with a value or has issues.  Checks that stand side by side
pass when all of them pass, and otherwise have the issues of all of them, in order:

    (first.both second).issues = first.issues ++ second.issues

So what is wrong with a record is what is wrong with its fields, each below the
name of its field, and what is wrong with the entries of a table is what is wrong
with their values, each below its key (`issues_toEntries`).
-/
import Abacus.Field.Value

namespace Abacus

/-- The issue as it is seen one step above. -/
def Issue.below (step : String) (issue : Issue) : Issue :=
  { issue with path := step :: issue.path }

namespace Checked

variable {α β : Type}

/-- The issues of a check; there are none when it passes. -/
def issues : Checked α → List Issue
  | .ok _ => []
  | .error issues => issues

/-! ## What passes -/

theorem under_eq_ok_iff {step : String} {check : Checked α} {a : α} :
    under step check = .ok a ↔ check = .ok a := by
  cases check with
  | error issues => simp [under]
  | ok b => exact Iff.rfl

theorem both_eq_ok_iff {first : Checked α} {second : Checked β} {a : α} {b : β} :
    both first second = .ok (a, b) ↔ first = .ok a ∧ second = .ok b := by
  cases first <;> cases second <;> simp [both]

theorem map_eq_ok_iff {f : α → β} {check : Checked α} {b : β} :
    map f check = .ok b ↔ ∃ a, check = .ok a ∧ f a = b := by
  cases check <;> simp [map]

theorem andThen_eq_ok_iff {check : Checked α} {next : α → Checked β} {b : β} :
    andThen check next = .ok b ↔ ∃ a, check = .ok a ∧ next a = .ok b := by
  cases check <;> simp [andThen]

theorem all_eq_ok_iff {checks : List (Checked α)} {values : List α} :
    all checks = .ok values ↔ checks = values.map .ok := by
  induction checks generalizing values with
  | nil => cases values <;> simp [all]
  | cons check rest ih =>
    rw [all]
    cases values with
    | nil =>
      cases both check (all rest) <;> simp
    | cons a as =>
      rw [List.map_cons, List.cons.injEq, ← ih, ← both_eq_ok_iff]
      cases both check (all rest) with
      | error issues => simp
      | ok pair =>
        obtain ⟨b, bs⟩ := pair
        simp

/-! ## What does not pass -/

theorem issues_under (step : String) (check : Checked α) :
    (under step check).issues = check.issues.map (Issue.below step) := by
  cases check <;> rfl

theorem issues_both (first : Checked α) (second : Checked β) :
    (both first second).issues = first.issues ++ second.issues := by
  cases first <;> cases second <;> simp [both, issues]

theorem both_error_left (issues : List Issue) (second : Checked β) :
    both (.error issues : Checked α) second = .error (issues ++ second.issues) := by
  cases second <;> simp [both, Checked.issues]

theorem both_error_right (first : Checked α) (issues : List Issue) :
    both first (.error issues : Checked β) = .error (first.issues ++ issues) := by
  cases first <;> rfl

theorem issues_map (f : α → β) (check : Checked α) : (map f check).issues = check.issues := by
  cases check <;> rfl

theorem issues_all (checks : List (Checked α)) : (all checks).issues = checks.flatMap issues := by
  induction checks with
  | nil => rfl
  | cons check rest ih =>
    have together := issues_both check (all rest)
    rw [List.flatMap_cons, ← ih, ← together, all]
    cases both check (all rest) <;> rfl

theorem andThen_error {check : Checked α} {issues : List Issue} (h : check = .error issues)
    (next : α → Checked β) : andThen check next = .error issues := by
  rw [h, andThen]

end Checked

end Abacus
