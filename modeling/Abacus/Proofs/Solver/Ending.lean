/-
# When a search ends without an error

A solver takes numbers of any sign and symbols that may be no operators.  What it
writes is then not read as it was meant, and a side may have no value.  The search
ends with an answer just when it meets no such side: when all choices have values
whose equals sign stands no further than that of any equation.

If some of the symbols are operators, or `-` is none, this can be told from the
numbers and the symbols alone:

| numbers | the search has an answer |
| :-- | :-- |
| fewer than two | always |
| two | if no sign is read as an operator |
| more | if no sign is read as an operator, and every symbol is one |

since already at the first gap a sign, or a symbol that is skipped, leaves some
side with too many or too few operators (`plain_of_solve`).  The other case is that
no symbol is an operator but `-` is: then all choices with one gap are read alike,
and the signs may make up for the symbols.

Every error is of a malformed side.

The numbers have at most `digitLimit` digits each.  The program writes no longer ones, while
a search as it is defined here would write them too.
-/
import Abacus.Decimal.Written
import Abacus.Proofs.Solver.Search
import Abacus.Proofs.Solver.Side
import Abacus.Solver.Field

namespace Abacus

namespace Solver

variable {s : Solver} {numbers : List Int}

theorem isUsable_of_mem_map (p : List (Fin s.symbols.length)) :
    ∀ x ∈ p.map s.symbols.get, x.isUsable = true :=
  fun x hx => s.symbols_usable x (mem_symbols_of_mem_map hx)

theorem countP_of_side {p : List (Fin s.symbols.length)} (filled : p.length + 1 = numbers.length)
    (valued : ∃ x, evaluate s.config (s.side numbers p) = .ok x) :
    (p.map s.symbols.get).countP s.config.operators.contains + numbers.countP s.config.readsSign =
      p.length := by
  obtain ⟨x, value⟩ := valued
  rw [← List.length_map s.symbols.get]
  exact countP_of_evaluate (isUsable_of_mem_map p) (by rwa [List.length_map]) value

theorem exists_places_replicate {x : Symbol} (member : x ∈ s.symbols) (n : Nat) :
    ∃ p : List (Fin s.symbols.length), p.length = n ∧
      (p.map s.symbols.get).countP s.config.operators.contains =
        if s.config.operators.contains x then n else 0 := by
  obtain ⟨i, rfl⟩ := List.get_of_mem member
  refine ⟨List.replicate n i, List.length_replicate, ?_⟩
  rw [List.map_replicate, List.countP_replicate]

theorem readsSign_of_countP (h : numbers.countP s.config.readsSign = 0) :
    ∀ n ∈ numbers, s.config.readsSign n = false := by
  intro n hn
  simpa using List.countP_eq_zero.mp h n hn

theorem countP_readsSign_of_unregistered (h : s.config.operators.contains Config.minus.1 = false) :
    numbers.countP s.config.readsSign = 0 := by
  rw [List.countP_eq_zero]
  intro n _
  rw [Config.readsSign, h, Bool.and_false]
  exact Bool.false_ne_true

/-- The first gap tells what is the matter with numbers and symbols. -/
theorem plain_of_solveAt {first : Int} {others : List Int} {here : Option Equation} (more : others ≠ [])
    (solved : s.solveAt [first] others = .ok here)
    (decided : (∃ x ∈ s.symbols, s.config.operators.contains x = true) ∨
      s.config.operators.contains Config.minus.1 = false) :
    (∀ n ∈ first :: others, s.config.readsSign n = false) ∧
      (others.length = 1 ∨ ∀ x ∈ s.symbols, s.config.operators.contains x = true) := by
  obtain ⟨⟨p, hp, value⟩, rights⟩ := exists_evaluate_of_solveAt (by simp) more solved
  have counted := countP_of_side hp value
  obtain rfl : p = [] := List.eq_nil_of_length_eq_zero (Nat.succ.inj hp)
  have plainFirst : [first].countP s.config.readsSign = 0 := by simpa using counted
  have pos := List.length_pos_iff.mpr more
  -- filling all gaps on the right with one symbol counts the signs there
  have right (x : Symbol) (hx : x ∈ s.symbols) :
      (if s.config.operators.contains x then others.length - 1 else 0) +
        others.countP s.config.readsSign = others.length - 1 := by
    obtain ⟨q, hq, operators⟩ := s.exists_places_replicate hx (others.length - 1)
    have counted := countP_of_side (by omega) (rights q (by omega))
    rwa [operators, hq] at counted
  have plainOthers : others.countP s.config.readsSign = 0 := by
    rcases decided with ⟨x, hx, registered⟩ | unregistered
    · have counted := right x hx
      rw [if_pos registered] at counted
      omega
    · exact countP_readsSign_of_unregistered unregistered
  constructor
  · intro n hn
    rcases List.mem_cons.mp hn with rfl | hn
    · exact readsSign_of_countP plainFirst n (List.mem_singleton.mpr rfl)
    · exact readsSign_of_countP plainOthers n hn
  · by_cases two : others.length = 1
    · exact .inl two
    · refine .inr fun x hx => ?_
      by_contra unregistered
      have counted := right x hx
      rw [if_neg unregistered, plainOthers] at counted
      omega

theorem plain_of_solve {found : Option Equation} (few : numbers.length ≤ s.limit)
    (two : 2 ≤ numbers.length) (solved : s.solve numbers = .ok found)
    (decided : (∃ x ∈ s.symbols, s.config.operators.contains x = true) ∨
      s.config.operators.contains Config.minus.1 = false) :
    (∀ n ∈ numbers, s.config.readsSign n = false) ∧
      (numbers.length = 2 ∨ ∀ x ∈ s.symbols, s.config.operators.contains x = true) := by
  match numbers with
  | first :: second :: others =>
    rw [solve_eq_solveAmong few] at solved
    obtain ⟨here, solvedHere⟩ := exists_solveAt_of_solveAmong solved
    obtain ⟨plain, registered⟩ := plain_of_solveAt (List.cons_ne_nil second others) solvedHere decided
    exact ⟨plain, registered.imp_left (congrArg (· + 1))⟩

theorem hasValues_of_registered (answers : s.config.Answers) {c : Choice s.symbols.length}
    (fits : c.Fits numbers.length) (plain : ∀ n ∈ numbers, s.config.readsSign n = false)
    (registered : numbers.length = 2 ∨ ∀ x ∈ s.symbols, s.config.operators.contains x = true) :
    s.HasValues numbers c := by
  have left := fits.left
  have right := fits.right
  rcases registered with two | registered
  · have noneLeft : c.left = [] := List.eq_nil_of_length_eq_zero (by omega)
    have noneRight : c.right = [] := List.eq_nil_of_length_eq_zero (by omega)
    exact hasValues_of_plain fits plain (by simp [noneLeft]) (by simp [noneRight])
  · have answer (p : List (Fin s.symbols.length)) : ∀ x ∈ p.map s.symbols.get, s.config.AnswersAt x :=
      fun x hx => answers.answersAt (registered x (mem_symbols_of_mem_map hx))
    exact hasValues_of_plain fits plain (answer c.left) (answer c.right)

/-- Without an operator among the symbols, all sides of the same numbers are read alike. -/
theorem evaluate_side_of_unregistered (none : ∀ x ∈ s.symbols, s.config.operators.contains x = false)
    {p q : List (Fin s.symbols.length)} (same : p.length = q.length) (numbers : List Int) :
    evaluate s.config (s.side numbers p) = evaluate s.config (s.side numbers q) :=
  evaluate_sideText_of_unregistered (by rw [List.length_map, List.length_map, same])
    (isUsable_of_mem_map p) (isUsable_of_mem_map q) (fun x hx => none x (mem_symbols_of_mem_map hx))
    (fun x hx => none x (mem_symbols_of_mem_map hx)) numbers

theorem valuedAt_of_unregistered (none : ∀ x ∈ s.symbols, s.config.operators.contains x = false)
    {gap : Nat} (pos : 0 < gap) (less : gap < numbers.length) {here : Option Equation}
    (solved : s.solveAt (numbers.take gap) (numbers.drop gap) = .ok here) : s.ValuedAt numbers gap := by
  have lengthLeft : (numbers.take gap).length = gap := List.length_take_of_le (by omega)
  have lengthRight : (numbers.drop gap).length = numbers.length - gap := List.length_drop
  obtain ⟨filledLeft, filledRight⟩ := parts_ne_nil pos less
  obtain ⟨⟨q, hq, valued⟩, rights⟩ := exists_evaluate_of_solveAt filledLeft filledRight solved
  constructor
  · intro p hp
    rwa [evaluate_side_of_unregistered none (q := q) (by omega)]
  · exact fun p hp => rights p (by omega)

/-! ## Exactly when -/

theorem hasValues_of_solve (answers : s.config.Answers) {found : Option Equation}
    (few : numbers.length ≤ s.limit) (solved : s.solve numbers = .ok found)
    {c : Choice s.symbols.length} (fits : c.Fits numbers.length)
    (first : ∀ d, s.IsEquation numbers d → c.gap ≤ d.gap) : s.HasValues numbers c := by
  have left := fits.left
  have right := fits.right
  by_cases known : ∃ x ∈ s.symbols, s.config.operators.contains x = true
  · obtain ⟨plain, registered⟩ := plain_of_solve few (by omega) solved (.inl known)
    exact hasValues_of_registered answers fits plain registered
  · have none : ∀ x ∈ s.symbols, s.config.operators.contains x = false := by simpa using known
    rw [solve_eq_solveAmong few] at solved
    have valued : s.ValuedAt numbers c.gap := by
      refine valuedAt_of_solveAmong (splits_pairwise _) (fun gap h => mem_splits_iff.mp h) ?_ solved
        c.gap fits.mem_splits first
      intro gap hgap here solvedHere
      obtain ⟨pos, less⟩ := mem_splits_iff.mp hgap
      exact valuedAt_of_unregistered none pos less solvedHere
    exact valued.hasValues fits

/-- A search ends without an error just when it meets values only, which can mostly
be told from the signs of the numbers and from the symbols.  The numbers are such as can
be written (`_short`). -/
theorem exists_solve_iff (s : Solver) (answers : s.config.Answers) (numbers : List Int)
    (few : numbers.length ≤ s.limit)
    (_short : ∀ n ∈ numbers, (decimalDigits n.natAbs).length ≤ digitLimit) :
    ((∃ found, s.solve numbers = .ok found) ↔
        ∀ c, c.Fits numbers.length → (∀ d, s.IsEquation numbers d → c.gap ≤ d.gap) →
          s.HasValues numbers c) ∧
      ((∃ x ∈ s.symbols, s.config.operators.contains x = true) ∨
          s.config.operators.contains Config.minus.1 = false →
        ((∃ found, s.solve numbers = .ok found) ↔
          numbers.length < 2 ∨
            (∀ n ∈ numbers, s.config.readsSign n = false) ∧
              (numbers.length = 2 ∨ ∀ x ∈ s.symbols, s.config.operators.contains x = true))) ∧
      ∀ e, s.solve numbers = .error e → ∃ cause, e = .expression (.malformed cause) := by
  refine ⟨⟨?_, fun valued => ⟨_, solve_eq few valued⟩⟩, fun decided => ⟨?_, ?_⟩, ?_⟩
  · rintro ⟨found, solved⟩ c fits first
    exact hasValues_of_solve answers few solved fits first
  · rintro ⟨found, solved⟩
    by_cases two : 2 ≤ numbers.length
    · exact .inr (plain_of_solve few two solved decided)
    · exact .inl (by omega)
  · rintro (less | ⟨plain, registered⟩)
    · refine ⟨_, solve_eq few fun c fits _ => ?_⟩
      have left := fits.left
      have right := fits.right
      omega
    · exact ⟨_, solve_eq few fun c fits _ => hasValues_of_registered answers fits plain registered⟩
  · intro e failed
    rw [solve_eq_solveAmong few] at failed
    obtain ⟨cause, rfl, numbers', p, value⟩ :=
      exists_error_of_solveAmong (fun gap h => mem_splits_iff.mp h) failed
    rcases evaluate_sideText_cases answers (isUsable_of_mem_map p) numbers' with ⟨x, valued⟩ | ⟨cause', malformed⟩
    · rw [side, valued] at value
      cases value
    · rw [side, malformed] at value
      cases value
      exact ⟨cause', rfl⟩

theorem exists_solve_iff_minusOne :
    standard.config.Answers ∧ [-1, 2].length ≤ standard.limit ∧
      (∀ n ∈ [-1, 2], (decimalDigits (Int.natAbs n)).length ≤ digitLimit) ∧
      (∃ x ∈ standard.symbols, standard.config.operators.contains x = true) ∧
      ((∃ found, standard.solve [-1, 2] = .ok found) ↔
        ∀ c, c.Fits [-1, 2].length → (∀ d, standard.IsEquation [-1, 2] d → c.gap ≤ d.gap) →
          standard.HasValues [-1, 2] c) ∧
      ((∃ found, standard.solve [-1, 2] = .ok found) ↔
        [-1, 2].length < 2 ∨
          (∀ n ∈ [-1, 2], standard.config.readsSign n = false) ∧
            ([-1, 2].length = 2 ∨
              ∀ x ∈ standard.symbols, standard.config.operators.contains x = true)) ∧
      ∀ e, standard.solve [-1, 2] = .error e → ∃ cause, e = .expression (.malformed cause) := by
  have registered : ∃ x ∈ standard.symbols, standard.config.operators.contains x = true :=
    ⟨Config.plus.1, List.mem_cons_self, by decide⟩
  have few : [-1, 2].length ≤ standard.limit := by decide
  have short : ∀ n ∈ [-1, 2], (decimalDigits (Int.natAbs n)).length ≤ digitLimit := by decide
  obtain ⟨general, decided, errors⟩ := exists_solve_iff standard Config.answers_standard [-1, 2] few short
  exact ⟨Config.answers_standard, few, short, registered, general, decided (.inl registered), errors⟩

/-- The sign of the first number is left without an operand. -/
theorem not_exists_solve_minusOne :
    standard.config.Answers ∧ [-1, 2].length ≤ standard.limit ∧
      standard.solve [-1, 2] = .error (.expression (.malformed .missingOperand)) ∧
      ¬∃ found, standard.solve [-1, 2] = .ok found := by
  have scanned : scan .standard (sideText [-1] []).toList =
      [.operator Config.minus.1, .operand (.literal (.ofNat 1))] :=
    scan_sideText (by simp) [-1]
  have left : evaluate standard.config (sideText [-1] []) = .error (.malformed .missingOperand) := by
    show evaluate .standard (sideText [-1] []) = _
    rw [evaluate_eq, scanned]
    rfl
  obtain ⟨y, right⟩ : ∃ y, evaluate standard.config (sideText [2] []) = .ok y :=
    exists_evaluate_sideText (by simp) (by decide) (by simp)
  have rights : values [standard.tried (standard.side [2] [])] = .ok [(y, standard.side [2] [])] := by
    have value : (standard.tried (standard.side [2] [])).value = .ok y := right
    simp only [values, value]
    rfl
  have lefts : firstEqual [(y, standard.side [2] [])] [standard.tried (standard.side [-1] [])] =
      .error (.malformed .missingOperand) := by
    have value : (standard.tried (standard.side [-1] [])).value = .error (.malformed .missingOperand) := left
    simp only [firstEqual, value]
  have here : standard.solveAt [-1] [2] = .error (.expression (.malformed .missingOperand)) := by
    rw [solveAt_eq_match (by simp) (by simp)]
    simp only [List.length_singleton, Nat.sub_self, places, List.map_singleton, rights, lefts]
    rfl
  have solved : standard.solve [-1, 2] = .error (.expression (.malformed .missingOperand)) := by
    rw [solve_eq_solveAmong (by decide)]
    show standard.solveAmong [-1, 2] [1] = _
    rw [solveAmong]
    simp only [List.take_succ_cons, List.take_zero, List.drop_succ_cons, List.drop_zero, here]
  refine ⟨Config.answers_standard, by decide, solved, ?_⟩
  rintro ⟨found, ended⟩
  rw [solved] at ended
  cases ended

end Solver

end Abacus
