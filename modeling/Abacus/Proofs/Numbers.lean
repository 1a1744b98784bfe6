/-
# The numbers of an equation are read back

Reading the numbers of a text takes its runs of digits, and an equation has no
other digits than those of its numbers:

    parseNumbers e.text = .ok numbers

The runs are those of the numbers because a number is always followed by
something that is no decimal digit of any script: a symbol, a blank or the end
(`digitRuns_number`).  A sign is not a digit either, so of a negative number the
magnitude is read.

Where the numbers come as several texts, a blank between two of them keeps their runs
apart (`digitRuns_intercalate`), so whether they can be read is told for each text.
-/
import Abacus.Decimal.Written
import Abacus.Numbers
import Abacus.Proofs.Solver.Side

namespace Abacus

open Abacus.Text

variable {gaps : List Symbol} {numbers : List Int} {rest : List Char}

/-! ## ASCII digits -/

theorem asciiDigits_of_isDigit {digits : List Char} (h : ∀ c ∈ digits, c.isDigit = true) :
    asciiDigits digits = digits := by
  have same : ∀ c ∈ digits, ((digitValue? c).map digitOfValue).getD c = c := by
    intro c hc
    have bounds := toNat_of_isDigit (h c hc)
    rw [digitValue?_of_isDigit (h c hc), Option.map_some, Option.getD_some, digitOfValue,
      show '0'.toNat + (c.toNat - '0'.toNat) = c.toNat from Nat.add_sub_cancel' bounds.1, Char.ofNat_toNat]
  rw [asciiDigits, List.map_congr_left same, List.map_id']

theorem digitsValue_decimalDigits (n : Nat) : digitsValue (decimalDigits n) = n := by
  rw [decimalDigits, Nat.toString_eq_repr, Nat.toList_repr]
  exact Nat.ofDigitChars_toDigits (by omega) (by omega)

theorem isDigit_of_mem_decimalDigits {n : Nat} : ∀ c ∈ decimalDigits n, c.isDigit = true :=
  fun _ hc => isDigit_of_mem_toString hc

theorem readNaturals_decimalDigits {numbers : List Nat}
    (short : ∀ n ∈ numbers, (decimalDigits n).length ≤ digitLimit) :
    readNaturals ((numbers.map decimalDigits).map asciiDigits) = .ok numbers := by
  induction numbers with
  | nil => rfl
  | cons n numbers ih =>
    have first : readNatural (asciiDigits (decimalDigits n)) = .ok n := by
      have fits := short n List.mem_cons_self
      rw [asciiDigits_of_isDigit isDigit_of_mem_decimalDigits, readNatural, if_neg (by omega),
        digitsValue_decimalDigits]
    rw [List.map_cons, List.map_cons, readNaturals, first,
      ih fun m hm => short m (List.mem_cons_of_mem n hm)]

theorem exists_readNaturals_iff {runs : List (List Char)} :
    (∃ numbers, readNaturals (runs.map asciiDigits) = .ok numbers) ↔
      ∀ run ∈ runs, run.length ≤ digitLimit := by
  induction runs with
  | nil => exact ⟨fun _ => nofun, fun _ => ⟨[], rfl⟩⟩
  | cons run runs ih =>
    have length : (asciiDigits run).length = run.length := List.length_map _
    rw [List.forall_mem_cons, ← ih, List.map_cons, readNaturals, readNatural, length]
    by_cases fits : run.length ≤ digitLimit
    · rw [if_neg (by omega)]
      cases readNaturals (runs.map asciiDigits) <;> simp [fits]
    · rw [if_pos (by omega)]
      simp [fits]

/-! ## Runs of digits -/

theorem digitRuns_skip {c : Char} (h : isDecimal c = false) (rest : List Char) :
    digitRuns (c :: rest) = digitRuns rest := by
  rw [digitRuns, if_neg (by simp [h])]

theorem digitRuns_run {run : List Char} (filled : run ≠ []) (decimal : ∀ c ∈ run, isDecimal c = true)
    (stops : ∀ c ∈ rest.head?, isDecimal c = false) :
    digitRuns (run ++ rest) = run :: digitRuns rest := by
  cases run with
  | nil => exact absurd rfl filled
  | cons c run =>
    have more : ∀ d ∈ run, isDecimal d = true := fun d hd => decimal d (List.mem_cons_of_mem c hd)
    have taken : (run ++ rest).takeWhile isDecimal = run := by
      rw [takeWhile_append_of_stops stops, List.takeWhile_eq_self_iff.mpr more]
    have dropped : (run ++ rest).dropWhile isDecimal = rest := by
      rw [dropWhile_append_of_stops stops, List.dropWhile_eq_nil_iff.mpr more, List.nil_append]
    rw [List.cons_append, digitRuns, if_pos (decimal c List.mem_cons_self), taken, dropped]

/-- No run goes past what is no digit. -/
theorem digitRuns_append_cons {c : Char} (h : isDecimal c = false) (front rest : List Char) :
    digitRuns (front ++ c :: rest) = digitRuns front ++ digitRuns rest := by
  have stops : ∀ x ∈ (c :: rest).head?, isDecimal x = false := by simp [h]
  fun_induction digitRuns front with
  | case1 => rw [List.nil_append, digitRuns_skip h, List.nil_append]
  | case2 d front decimal ih =>
    rw [List.cons_append, digitRuns, if_pos decimal, takeWhile_append_of_stops stops,
      dropWhile_append_of_stops stops, ih, List.cons_append]
  | case3 d front other ih =>
    rw [List.cons_append, digitRuns_skip (Bool.eq_false_iff.mpr other), ih]

theorem digitRuns_intercalate (texts : List String) :
    digitRuns (" ".intercalate texts).toList = texts.flatMap fun text => digitRuns text.toList := by
  rw [String.toList_intercalate, show " ".toList = [' '] from rfl]
  induction texts with
  | nil => rw [List.map_nil, List.intercalate_nil, digitRuns, List.flatMap_nil]
  | cons text texts ih =>
    cases texts with
    | nil => simp
    | cons next texts =>
      rw [List.map_cons, List.map_cons, List.intercalate_cons_cons, ← List.map_cons, List.append_assoc,
        List.singleton_append, digitRuns_append_cons (by decide), ih]
      rfl

theorem digitRuns_number (n : Int) (stops : ∀ c ∈ rest.head?, isDecimal c = false) :
    digitRuns ((toString n).toList ++ rest) = decimalDigits n.natAbs :: digitRuns rest := by
  have magnitude (m : Nat) :
      digitRuns ((toString m).toList ++ rest) = decimalDigits m :: digitRuns rest :=
    digitRuns_run (toString_ne_nil m) (fun c hc => isDecimal_of_isDigit (isDigit_of_mem_toString hc)) stops
  cases n with
  | ofNat n => exact magnitude n
  | negSucc n =>
    rw [toList_toString_negSucc, List.cons_append, digitRuns_skip (by decide), magnitude]
    rfl

theorem Symbol.isDecimal_of_isUsable {s : Symbol} (usable : s.isUsable = true) :
    isDecimal s.char = false := by
  have notDigit := (isUsable_iff.mp usable).1
  rw [Text.isDigit, Bool.or_eq_false_iff] at notDigit
  exact notDigit.1

theorem digitRuns_interleave (usable : ∀ s ∈ gaps, s.isUsable = true)
    (filled : gaps.length = numbers.length) (stops : ∀ c ∈ rest.head?, isDecimal c = false) :
    digitRuns ((interleave gaps numbers).toList ++ rest) =
      numbers.map (decimalDigits ·.natAbs) ++ digitRuns rest := by
  induction gaps generalizing numbers with
  | nil =>
    obtain rfl := List.eq_nil_of_length_eq_zero filled.symm
    rfl
  | cons s gaps ih =>
    obtain ⟨n, numbers, rfl⟩ := List.exists_cons_of_length_eq_add_one filled.symm
    have others : ∀ s ∈ gaps, s.isUsable = true := fun x hx => usable x (List.mem_cons_of_mem s hx)
    have next := interleave_stops numbers (fun x hx => x.isDecimal_of_isUsable (others x hx)) stops
    rw [toList_interleave_cons, List.cons_append, List.append_assoc,
      digitRuns_skip (s.isDecimal_of_isUsable (usable s List.mem_cons_self)), digitRuns_number n next,
      ih others (Nat.succ.inj filled)]
    rfl

theorem digitRuns_sideText (usable : ∀ s ∈ gaps, s.isUsable = true)
    (filled : gaps.length + 1 = numbers.length) (stops : ∀ c ∈ rest.head?, isDecimal c = false) :
    digitRuns ((sideText numbers gaps).toList ++ rest) =
      numbers.map (decimalDigits ·.natAbs) ++ digitRuns rest := by
  obtain ⟨first, others, rfl⟩ := List.exists_cons_of_length_eq_add_one filled.symm
  have next := interleave_stops others (fun x hx => x.isDecimal_of_isUsable (usable x hx)) stops
  rw [sideText, String.toList_append, List.append_assoc, digitRuns_number first next,
    digitRuns_interleave usable (Nat.succ.inj filled) stops]
  rfl

/-! ## Equations -/

theorem Equation.toList_text (e : Equation) :
    e.text.toList = e.lhs.toList ++ ' ' :: '=' :: ' ' :: e.rhs.toList := by
  show (e.lhs ++ " = " ++ e.rhs).toList = _
  rw [String.toList_append, String.toList_append, List.append_assoc]
  rfl

/-- An equation of numbers that are not negative has these numbers. -/
theorem parseNumbers_equation (left right : List Nat) {gapsLeft gapsRight : List Symbol} (value : Float)
    (usableLeft : ∀ s ∈ gapsLeft, s.isUsable = true) (usableRight : ∀ s ∈ gapsRight, s.isUsable = true)
    (filledLeft : gapsLeft.length + 1 = left.length) (filledRight : gapsRight.length + 1 = right.length)
    (short : ∀ n ∈ left ++ right, (decimalDigits n).length ≤ digitLimit) :
    parseNumbers (Equation.mk (sideText (left.map Int.ofNat) gapsLeft)
      (sideText (right.map Int.ofNat) gapsRight) value).text = .ok (left ++ right) := by
  have magnitudes (numbers : List Nat) :
      (numbers.map Int.ofNat).map (decimalDigits ·.natAbs) = numbers.map decimalDigits := by
    rw [List.map_map]
    rfl
  have behind : digitRuns (sideText (right.map Int.ofNat) gapsRight).toList = right.map decimalDigits := by
    rw [← List.append_nil (sideText _ _).toList,
      digitRuns_sideText usableRight (by rw [List.length_map, filledRight]) (by simp), magnitudes,
      digitRuns, List.append_nil]
  have runs : digitRuns (Equation.mk (sideText (left.map Int.ofNat) gapsLeft)
      (sideText (right.map Int.ofNat) gapsRight) value).text.toList = (left ++ right).map decimalDigits := by
    have blank : isDecimal ' ' = false := by decide
    rw [Equation.toList_text, digitRuns_sideText usableLeft (by rw [List.length_map, filledLeft])
      (by simp [blank]), magnitudes, digitRuns_skip blank, digitRuns_skip (by decide),
      digitRuns_skip blank, behind, List.map_append]
  rw [parseNumbers, runs, readNaturals_decimalDigits short]

/-! ## Several texts -/

theorem exists_parseNumbers_iff {texts : List String} :
    (∃ numbers, parseNumbers (" ".intercalate texts) = .ok numbers) ↔
      ∀ text ∈ texts, ∀ run ∈ digitRuns text.toList, run.length ≤ digitLimit := by
  rw [parseNumbers, digitRuns_intercalate, exists_readNaturals_iff]
  constructor
  · exact fun short text given run found => short run (List.mem_flatMap.mpr ⟨text, given, found⟩)
  · intro short run found
    obtain ⟨text, given, found⟩ := List.mem_flatMap.mp found
    exact short text given run found

end Abacus
