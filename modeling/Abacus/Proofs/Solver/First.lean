/-
# The solver finds the first equation

For every solver whose symbols have operators that answer, and numbers that are
not negative and not too many, a search has an answer:

| the answer | what is true of the choices |
| :-- | :-- |
| none | no choice is an equation |
| an equation | it is the first choice that is one |

Choices are compared as `Choice.Before` says.  Equality is that of doubles, so a
side that is not a number equals nothing, not even itself.

Without negative numbers every side of every choice is read as it was meant and
has a value, so that the search is the search through `choices` (`solve_eq`).
-/
import Abacus.Proofs.Numbers
import Abacus.Proofs.Solver.Search
import Abacus.Solver.Field

namespace Abacus

/-! ## At most one choice is the first -/

namespace Choice

variable {k : Nat}

theorem Earlier.asymm {p q : List (Fin k)} (h : Earlier p q) : ¬Earlier q p := by
  intro h'
  induction h with
  | nil => cases h'
  | cons _ ih =>
    cases h' with
    | cons h' => exact ih h'
    | rel less => exact Nat.lt_irrefl _ less
  | rel less =>
    cases h' with
    | cons _ => exact Nat.lt_irrefl _ less
    | rel less' => exact Nat.lt_asymm less less'

theorem Before.asymm {c d : Choice k} (h : c.Before d) : ¬d.Before c := by
  rintro (less' | ⟨same', later'⟩)
  · rcases h with less | ⟨same, _⟩ <;> omega
  · rcases h with less | ⟨_, earlier | ⟨sameLeft, earlier⟩⟩
    · omega
    · rcases later' with earlier' | ⟨sameLeft', _⟩
      · exact earlier.asymm earlier'
      · rw [sameLeft'] at earlier
        exact earlier.asymm earlier
    · rcases later' with earlier' | ⟨_, earlier'⟩
      · rw [sameLeft] at earlier'
        exact earlier'.asymm earlier'
      · exact earlier.asymm earlier'

end Choice

namespace Solver

variable {s : Solver} {numbers : List Int}

/-- There is at most one first equation. -/
theorem IsFirst.eq {c d : Choice s.symbols.length} (hc : s.IsFirst numbers c) (hd : s.IsFirst numbers d) :
    c = d := by
  rcases hc.first d hd.equation with same | before
  · exact same.symm
  · rcases hd.first c hc.equation with same | before'
    · exact same
    · exact absurd before' before.asymm

/-! ## Sides without negative numbers -/

theorem readsSign_of_natural {config : Config} {numbers : List Nat} :
    ∀ n ∈ numbers.map Int.ofNat, config.readsSign n = false := by
  intro n hn
  obtain ⟨m, _, rfl⟩ := List.mem_map.mp hn
  have natural : ¬Int.ofNat m < 0 := Int.not_lt.mpr (Int.natCast_nonneg m)
  rw [Config.readsSign, decide_eq_false natural, Bool.false_and]

theorem hasValues_of_natural (answers : ∀ x ∈ s.symbols, s.config.AnswersAt x) {numbers : List Nat}
    {c : Choice s.symbols.length} (fits : c.Fits (numbers.map Int.ofNat).length) :
    s.HasValues (numbers.map Int.ofNat) c :=
  hasValues_of_plain fits readsSign_of_natural (fun x hx => answers x (mem_symbols_of_mem_map hx))
    fun x hx => answers x (mem_symbols_of_mem_map hx)

theorem exists_solve_of_natural (answers : ∀ x ∈ s.symbols, s.config.AnswersAt x) {numbers : List Nat}
    (few : numbers.length ≤ s.limit) : ∃ found, s.solve (numbers.map Int.ofNat) = .ok found :=
  ⟨_, solve_eq (by rwa [List.length_map]) fun _ fits _ => hasValues_of_natural answers fits⟩

/-! ## The first equation -/

theorem parseNumbers_equationOf {numbers : List Nat} {c : Choice s.symbols.length}
    (fits : c.Fits numbers.length) (short : ∀ n ∈ numbers, (decimalDigits n).length ≤ digitLimit) :
    parseNumbers (s.equationOf (numbers.map Int.ofNat) c).text = .ok numbers := by
  have left := fits.left
  have right := fits.right
  have usable (p : List (Fin s.symbols.length)) : ∀ x ∈ p.map s.symbols.get, x.isUsable = true :=
    fun x hx => s.symbols_usable x (mem_symbols_of_mem_map hx)
  have parted := parseNumbers_equation (numbers.take c.gap) (numbers.drop c.gap)
    (s.valueOf (s.lhs (numbers.map Int.ofNat) c)) (usable c.left) (usable c.right)
    (by rw [List.length_map, List.length_take]; omega) (by rw [List.length_map, List.length_drop]; omega)
    (by rwa [List.take_append_drop])
  rwa [List.take_append_drop, List.map_take, List.map_drop] at parted

/-- A search for numbers that are not negative ends.  It finds nothing just when no
choice is an equation, and otherwise the first one, whose sides have equal values
and in which the numbers can be read again. -/
theorem solve_first (s : Solver) (answers : ∀ x ∈ s.symbols, s.config.AnswersAt x) (numbers : List Nat)
    (few : numbers.length ≤ s.limit)
    (short : ∀ n ∈ numbers, (decimalDigits n).length ≤ digitLimit) :
    (∃ found, s.solve (numbers.map Int.ofNat) = .ok found) ∧
      (s.solve (numbers.map Int.ofNat) = .ok none ↔ ∀ c, ¬s.IsEquation (numbers.map Int.ofNat) c) ∧
      ∀ e, s.solve (numbers.map Int.ofNat) = .ok (some e) →
        (∃ c, s.IsFirst (numbers.map Int.ofNat) c ∧ e.lhs = s.lhs (numbers.map Int.ofNat) c ∧
          e.rhs = s.rhs (numbers.map Int.ofNat) c) ∧
        evaluate s.config e.lhs = .ok e.value ∧
        (∃ y, evaluate s.config e.rhs = .ok y ∧ (e.value == y) = true) ∧
        parseNumbers e.text = .ok numbers := by
  have valued (c : Choice s.symbols.length) (fits : c.Fits (numbers.map Int.ofNat).length) :
      s.HasValues (numbers.map Int.ofNat) c :=
    hasValues_of_natural answers fits
  have solved := solve_eq (by rwa [List.length_map]) fun c fits _ => valued c fits
  refine ⟨⟨_, solved⟩, ?_, ?_⟩
  · rw [solved, Except.ok.injEq, Option.map_eq_none_iff, List.find?_eq_none]
    constructor
    · intro none c equation
      have passes := ((isEquation_iff (valued c equation.fits)).mp equation).2
      exact none c (mem_choices_iff.mpr equation.fits) passes
    · intro none c hc passes
      have fits := mem_choices_iff.mp hc
      exact none c ((isEquation_iff (valued c fits)).mpr ⟨fits, passes⟩)
  · intro e found
    rw [solved, Except.ok.injEq, Option.map_eq_some_iff] at found
    obtain ⟨c, found, rfl⟩ := found
    obtain ⟨fits, passes, first⟩ := find?_choices found
    obtain ⟨hasLeft, hasRight⟩ := valued c fits
    have isFirst : s.IsFirst (numbers.map Int.ofNat) c := by
      refine ⟨(isEquation_iff (valued c fits)).mpr ⟨fits, passes⟩, fun d equation => ?_⟩
      exact first d equation.fits ((isEquation_iff (valued d equation.fits)).mp equation).2
    refine ⟨⟨c, isFirst, rfl, rfl⟩, evaluate_eq_valueOf hasLeft,
      ⟨_, evaluate_eq_valueOf hasRight, passes⟩, parseNumbers_equationOf ?_ short⟩
    rwa [List.length_map] at fits

theorem answersAt_standard : ∀ x ∈ standard.symbols, standard.config.AnswersAt x := by
  have registered : ∀ x ∈ standard.symbols, standard.config.operators.contains x = true := by decide
  exact fun x hx => Config.answers_standard.answersAt (registered x hx)

theorem solve_first_twoThreeFive :
    let numbers := [2, 3, 5].map Int.ofNat
    (∀ x ∈ standard.symbols, standard.config.AnswersAt x) ∧ [2, 3, 5].length ≤ standard.limit ∧
      (∀ n ∈ [2, 3, 5], (decimalDigits n).length ≤ digitLimit) ∧
      (∃ found, standard.solve numbers = .ok found) ∧
      (standard.solve numbers = .ok none ↔ ∀ c, ¬standard.IsEquation numbers c) ∧
      ∀ e, standard.solve numbers = .ok (some e) →
        (∃ c, standard.IsFirst numbers c ∧ e.lhs = standard.lhs numbers c ∧
          e.rhs = standard.rhs numbers c) ∧
        evaluate standard.config e.lhs = .ok e.value ∧
        (∃ y, evaluate standard.config e.rhs = .ok y ∧ (e.value == y) = true) ∧
        parseNumbers e.text = .ok [2, 3, 5] := by
  have few : [2, 3, 5].length ≤ standard.limit := by decide
  have short : ∀ n ∈ [2, 3, 5], (decimalDigits n).length ≤ digitLimit := by decide
  exact ⟨answersAt_standard, few, short, solve_first standard answersAt_standard [2, 3, 5] few short⟩

end Solver

end Abacus
