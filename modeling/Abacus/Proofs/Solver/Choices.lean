/-
# All choices in order

The solver fills gaps with symbols, the first gap changing slowest.  The same is
done here with the places of the symbols (`places`, `fillings_eq`), and then for
both sides and all gaps of the equals sign (`choices`).  The list of choices has

| | |
| :-- | :-- |
| every choice that fits, and no other | `mem_choices_iff` |
| earlier choices before later ones | `choices_pairwise` |

so that the first of them that passes a test is one before all others that pass
it, with nothing left out (`find?_choices`).
-/
import Mathlib.Data.List.FinRange
import Abacus.Solver.Choice

namespace Abacus

open Choice (Earlier)

variable {k n count : Nat}

/-! ## Places for the gaps of one side -/

/-- All ways to give each of `n` gaps one of `k` places, the first gap changing slowest. -/
def places (k : Nat) : Nat → List (List (Fin k))
  | 0 => [[]]
  | n + 1 => (List.finRange k).flatMap fun i => (places k n).map (i :: ·)

theorem mem_places_iff {p : List (Fin k)} : p ∈ places k n ↔ p.length = n := by
  induction n generalizing p with
  | zero => rw [places, List.mem_singleton, List.length_eq_zero_iff]
  | succ n ih =>
    rw [places, List.mem_flatMap]
    constructor
    · rintro ⟨i, _, hp⟩
      obtain ⟨q, hq, rfl⟩ := List.mem_map.mp hp
      rw [List.length_cons, ih.mp hq]
    · intro length
      obtain ⟨i, q, rfl⟩ := List.exists_cons_of_length_eq_add_one length
      refine ⟨i, List.mem_finRange i, List.mem_map.mpr ⟨q, ?_, rfl⟩⟩
      exact ih.mpr (Nat.succ.inj length)

theorem places_pairwise (k n : Nat) : (places k n).Pairwise Earlier := by
  induction n with
  | zero => exact List.pairwise_singleton _ _
  | succ n ih =>
    rw [places, List.pairwise_flatMap]
    constructor
    · intro i _
      rw [List.pairwise_map]
      exact ih.imp fun earlier => .cons earlier
    · refine (List.pairwise_lt_finRange k).imp ?_
      intro i j smaller p hp q hq
      obtain ⟨p, _, rfl⟩ := List.mem_map.mp hp
      obtain ⟨q, _, rfl⟩ := List.mem_map.mp hq
      exact .rel smaller

example : places 2 2 = [[0, 0], [0, 1], [1, 0], [1, 1]] := by decide

theorem fillings_eq (symbols : List Symbol) (n : Nat) :
    fillings symbols n = (places symbols.length n).map (·.map symbols.get) := by
  induction n with
  | zero => rfl
  | succ n ih =>
    have named : symbols.flatMap (fun s => (fillings symbols n).map (s :: ·)) =
        (List.finRange symbols.length).flatMap
          fun i => (fillings symbols n).map (symbols.get i :: ·) := by
      conv_lhs => rw [← List.map_get_finRange symbols]
      rw [List.flatMap_map, List.map_get_finRange]
    rw [fillings, named, ih, places, List.map_flatMap]
    simp only [List.map_map]
    rfl

/-! ## Choices -/

/-- The choices with the equals sign in a given gap. -/
def choicesAt (k count gap : Nat) : List (Choice k) :=
  (places k (gap - 1)).flatMap fun left =>
    (places k (count - gap - 1)).map fun right => ⟨gap, left, right⟩

/-- All choices that fit, in order. -/
def choices (k count : Nat) : List (Choice k) :=
  (Solver.splits count).flatMap (choicesAt k count)

theorem mem_splits_iff {gap : Nat} : gap ∈ Solver.splits count ↔ 0 < gap ∧ gap < count := by
  rw [Solver.splits, List.mem_range'_1]
  omega

theorem splits_pairwise (count : Nat) : (Solver.splits count).Pairwise (· < ·) :=
  List.pairwise_lt_range'

theorem mem_choicesAt_iff {c : Choice k} {gap : Nat} :
    c ∈ choicesAt k count gap ↔
      c.gap = gap ∧ c.left.length = gap - 1 ∧ c.right.length = count - gap - 1 := by
  simp only [choicesAt, List.mem_flatMap, List.mem_map, mem_places_iff]
  constructor
  · rintro ⟨left, hleft, right, hright, rfl⟩
    exact ⟨rfl, hleft, hright⟩
  · rintro ⟨rfl, hleft, hright⟩
    exact ⟨c.left, hleft, c.right, hright, rfl⟩

theorem mem_choices_iff {c : Choice k} : c ∈ choices k count ↔ c.Fits count := by
  simp only [choices, List.mem_flatMap, mem_choicesAt_iff, mem_splits_iff]
  constructor
  · rintro ⟨gap, ⟨pos, less⟩, rfl, hleft, hright⟩
    exact ⟨by omega, by omega⟩
  · rintro ⟨left, right⟩
    exact ⟨c.gap, ⟨by omega, by omega⟩, rfl, by omega, by omega⟩

theorem Choice.Fits.mem_splits {c : Choice k} (fits : c.Fits count) : c.gap ∈ Solver.splits count := by
  obtain ⟨left, right⟩ := fits
  rw [mem_splits_iff]
  omega

theorem Choice.Fits.mem_choicesAt {c : Choice k} (fits : c.Fits count) : c ∈ choicesAt k count c.gap := by
  obtain ⟨left, right⟩ := fits
  rw [mem_choicesAt_iff]
  omega

theorem choicesAt_pairwise (k count gap : Nat) : (choicesAt k count gap).Pairwise Choice.Before := by
  rw [choicesAt, List.pairwise_flatMap]
  constructor
  · intro left _
    rw [List.pairwise_map]
    exact (places_pairwise k _).imp fun earlier => .inr ⟨rfl, .inr ⟨rfl, earlier⟩⟩
  · refine (places_pairwise k _).imp ?_
    intro left left' earlier c hc d hd
    obtain ⟨_, _, rfl⟩ := List.mem_map.mp hc
    obtain ⟨_, _, rfl⟩ := List.mem_map.mp hd
    exact .inr ⟨rfl, .inl earlier⟩

theorem choices_pairwise (k count : Nat) : (choices k count).Pairwise Choice.Before := by
  rw [choices, List.pairwise_flatMap]
  constructor
  · intro gap _
    exact choicesAt_pairwise k count gap
  · refine (splits_pairwise count).imp ?_
    intro gap gap' less c hc d hd
    rw [mem_choicesAt_iff] at hc hd
    exact .inl (by omega)

/-- The first choice that passes a test is before all others that fit and pass it. -/
theorem find?_choices {test : Choice k → Bool} {c : Choice k} (found : (choices k count).find? test = some c) :
    c.Fits count ∧ test c = true ∧ ∀ d : Choice k, d.Fits count → test d = true → d = c ∨ c.Before d := by
  obtain ⟨passes, before, after, split, fail⟩ := List.find?_eq_some_iff_append.mp found
  have member : c ∈ choices k count := List.mem_of_find?_eq_some found
  refine ⟨mem_choices_iff.mp member, passes, ?_⟩
  intro d fits passesToo
  have sorted := choices_pairwise k count
  rw [split, List.pairwise_append] at sorted
  have hd := mem_choices_iff.mpr fits
  rw [split, List.mem_append, List.mem_cons] at hd
  rcases hd with hd | rfl | hd
  · have failed := fail d hd
    rw [passesToo] at failed
    cases failed
  · exact .inl rfl
  · exact .inr ((List.pairwise_cons.mp sorted.2.1).1 d hd)

end Abacus
