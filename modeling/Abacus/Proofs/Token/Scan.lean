/-
# What the scanner does at a character

The scanner asks three questions of a character, one after the other: is it a
digit, is it a mark, is it a letter?  No character passes two of these tests
where it would matter: a letter is no ASCII digit, and no mark of any
configuration, since the symbols of a configuration are usable.  So each kind of
character has an equation of its own (`scan_digit`, `scan_mark`, `scan_letter`,
`scan_skip`).

The scanner looks ahead only to the end of a run of digits or letters.  Where the
second of two texts starts with neither, the tokens of both together are the
tokens of the one and then of the other (`scan_append`).
-/
import Mathlib.Data.List.TakeWhile
import Abacus.Token.Scan

namespace Abacus

open Abacus.Text

/-! ## Runs at the front of a text -/

section Runs

variable {α : Type} {test : α → Bool} {b : List α}

theorem takeWhile_append_of_stops (stops : ∀ x ∈ b.head?, test x = false) (a : List α) :
    (a ++ b).takeWhile test = a.takeWhile test := by
  induction a with
  | nil =>
    cases b with
    | nil => rfl
    | cons x b => simp [stops x rfl]
  | cons x a ih => simp only [List.cons_append, List.takeWhile_cons, ih]

theorem dropWhile_append_of_stops (stops : ∀ x ∈ b.head?, test x = false) (a : List α) :
    (a ++ b).dropWhile test = a.dropWhile test ++ b := by
  induction a with
  | nil =>
    cases b with
    | nil => rfl
    | cons x b => simp [stops x rfl]
  | cons x a ih =>
    simp only [List.cons_append, List.dropWhile_cons, ih]
    split <;> rfl

theorem takeWhile_run_append (stops : ∀ x ∈ b.head?, test x = false) (a : List α) :
    (a.takeWhile test ++ b).takeWhile test = a.takeWhile test := by
  rw [takeWhile_append_of_stops stops, List.takeWhile_eq_self_iff]
  exact fun x hx => List.mem_takeWhile_imp hx

theorem dropWhile_run_append (stops : ∀ x ∈ b.head?, test x = false) (a : List α) :
    (a.takeWhile test ++ b).dropWhile test = b := by
  have all : (a.takeWhile test).dropWhile test = [] :=
    List.dropWhile_eq_nil_iff.mpr fun x hx => List.mem_takeWhile_imp hx
  rw [dropWhile_append_of_stops stops, all, List.nil_append]

theorem head?_dropWhile_stops (test : α → Bool) (a : List α) :
    ∀ x ∈ (a.dropWhile test).head?, test x = false := by
  intro x hx
  have := List.head?_dropWhile_not test a
  rw [Option.mem_def.mp hx] at this
  simpa using this

end Runs

/-! ## The three classes of characters -/

theorem toNat_of_isDigit {c : Char} (h : c.isDigit = true) : 48 ≤ c.toNat ∧ c.toNat ≤ 57 := by
  simpa [Char.isDigit, UInt32.le_iff_toNat_le] using h

theorem digitValue?_of_isDigit {c : Char} (h : c.isDigit = true) :
    digitValue? c = some (c.toNat - '0'.toNat) := by
  have bounds := toNat_of_isDigit h
  rw [digitValue?, if_pos (by omega), if_pos h]

theorem isDecimal_of_isDigit {c : Char} (h : c.isDigit = true) : isDecimal c = true := by
  rw [isDecimal, digitValue?_of_isDigit h, Option.isSome_some]

theorem isDigit_of_charIsDigit {c : Char} (h : c.isDigit = true) : Text.isDigit c = true := by
  rw [Text.isDigit, isDecimal_of_isDigit h, Bool.true_or]

theorem charIsDigit_of_isDigit {c : Char} (h : Text.isDigit c = false) : c.isDigit = false := by
  rw [Bool.eq_false_iff]
  intro digit
  rw [isDigit_of_charIsDigit digit] at h
  cases h

theorem isLetter_of_isDigit {c : Char} (h : c.isDigit = true) : isLetter c = false := by
  have bounds : 48 ≤ c.val.toNat ∧ c.val.toNat ≤ 57 := toNat_of_isDigit h
  have small : c.toNat < 0x80 := by
    show c.val.toNat < 0x80
    omega
  rw [isLetter, Span.classOf_of_lt small]
  have notUpper : c.isUpper = false := by
    rw [Bool.eq_false_iff]
    intro upper
    have least : 65 ≤ c.val.toNat := UInt32.le_iff_toNat_le.mp (of_decide_eq_true upper).1
    omega
  have notLower : c.isLower = false := by
    rw [Bool.eq_false_iff]
    intro lower
    have both := Bool.and_eq_true_iff.mp lower
    have least : 97 ≤ c.val.toNat := UInt32.le_iff_toNat_le.mp (of_decide_eq_true both.1)
    omega
  show (c.isUpper || c.isLower) = false
  rw [notUpper, notLower]
  rfl

theorem isDigit_of_isLetter {c : Char} (h : isLetter c = true) : c.isDigit = false := by
  rw [Bool.eq_false_iff]
  intro digit
  rw [isLetter_of_isDigit digit] at h
  cases h

theorem Token.ofChar_ne_operand (c : Char) (o : Operand) : ofChar c ≠ .operand o := by
  intro h
  unfold ofChar at h
  split at h
  · cases h
  · split at h <;> cases h

variable {config : Config}

theorem Config.isMark_cases {c : Char} (h : config.isMark c = true) :
    c = '(' ∨ c = ')' ∨ ∃ s : Symbol, s.char = c ∧ s.isUsable = true := by
  by_cases opens : c = '('
  · exact .inl opens
  · by_cases closes : c = ')'
    · exact .inr (.inl closes)
    · rw [isMark, Token.ofChar, dif_neg opens, dif_neg closes] at h
      exact .inr (.inr ⟨_, rfl, config.symbols_usable _ (Table.mem_keys_of_contains h)⟩)

/-- Marks are neither digits of any script nor letters nor blanks. -/
theorem Config.classes_of_isMark {c : Char} (h : config.isMark c = true) :
    Text.isDigit c = false ∧ isLetter c = false ∧ isBlank c = false := by
  rcases isMark_cases h with rfl | rfl | ⟨s, rfl, usable⟩
  · decide
  · decide
  · exact Symbol.isUsable_iff.mp usable

theorem Config.isLetter_of_isMark {c : Char} (h : config.isMark c = true) : isLetter c = false :=
  (classes_of_isMark h).2.1

theorem Config.isDigit_of_isMark {c : Char} (h : config.isMark c = true) : c.isDigit = false :=
  charIsDigit_of_isDigit (classes_of_isMark h).1

theorem Config.isBlank_of_isMark {c : Char} (h : config.isMark c = true) : isBlank c = false :=
  (classes_of_isMark h).2.2

theorem Config.isMark_of_isLetter {c : Char} (h : isLetter c = true) : config.isMark c = false := by
  rw [Bool.eq_false_iff]
  intro mark
  rw [isLetter_of_isMark mark] at h
  cases h

theorem Token.ofChar_char (s : Symbol) : ofChar s.char = .operator s := by
  rw [ofChar, dif_neg s.not_parenthesis.1, dif_neg s.not_parenthesis.2]

theorem Config.isMark_char (s : Symbol) : config.isMark s.char = config.operators.contains s := by
  rw [isMark, Token.ofChar_char]

/-! ## One equation for each kind of character -/

@[simp] theorem scan_nil : scan config [] = [] := by
  rw [scan]

theorem scan_digit {c : Char} (h : c.isDigit = true) (rest : List Char) :
    scan config (c :: rest) =
      .operand (.literal (.ofRun c h rest)) :: scan config (rest.dropWhile Char.isDigit) := by
  rw [scan, dif_pos h]

theorem scan_mark {c : Char} (digit : c.isDigit = false) (mark : config.isMark c = true)
    (rest : List Char) : scan config (c :: rest) = .ofChar c :: scan config rest := by
  rw [scan, dif_neg (by simp [digit]), if_pos mark]

theorem scan_letter {c : Char} (h : isLetter c = true) (rest : List Char) :
    scan config (c :: rest) =
      .operand (.name (.ofRun c rest)) :: scan config (rest.dropWhile isLetter) := by
  rw [scan, dif_neg (by simp [isDigit_of_isLetter h]), if_neg (by simp [Config.isMark_of_isLetter h]),
    if_pos h]

theorem scan_skip {c : Char} (digit : c.isDigit = false) (mark : config.isMark c = false)
    (letter : isLetter c = false) (rest : List Char) : scan config (c :: rest) = scan config rest := by
  rw [scan, dif_neg (by simp [digit]), if_neg (by simp [mark]), if_neg (by simp [letter])]

theorem scan_opening (rest : List Char) : scan config ('(' :: rest) = .opening :: scan config rest :=
  scan_mark (by decide) rfl rest

theorem scan_closing (rest : List Char) : scan config (')' :: rest) = .closing :: scan config rest :=
  scan_mark (by decide) rfl rest

theorem registered_of_mem_scan {text : List Char} {s : Symbol} (h : .operator s ∈ scan config text) :
    config.operators.contains s = true := by
  fun_induction scan config text with
  | case1 => cases h
  | case2 c rest digit ih => exact ih (by simpa using h)
  | case3 c rest digit mark ih =>
    rcases List.mem_cons.mp h with token | h
    · rw [Config.isMark, ← token] at mark
      exact mark
    · exact ih h
  | case4 c rest digit mark letter ih => exact ih (by simpa using h)
  | case5 c rest digit mark letter ih => exact ih h

/-- The tokens of a text hang on no more of a configuration than which of the
characters of the text are marks. -/
theorem scan_congr {other : Config} {text : List Char}
    (h : ∀ c ∈ text, config.isMark c = other.isMark c) : scan config text = scan other text := by
  fun_induction scan config text with
  | case1 => rw [scan_nil]
  | case2 c rest digit ih =>
    rw [scan_digit digit, ih fun d hd => h d (List.mem_cons_of_mem c (List.dropWhile_subset _ hd))]
  | case3 c rest digit mark ih =>
    rw [h c List.mem_cons_self] at mark
    rw [scan_mark (by simpa using digit) mark, ih fun d hd => h d (List.mem_cons_of_mem c hd)]
  | case4 c rest digit mark letter ih =>
    rw [scan_letter letter, ih fun d hd => h d (List.mem_cons_of_mem c (List.dropWhile_subset _ hd))]
  | case5 c rest digit mark letter ih =>
    rw [h c List.mem_cons_self] at mark
    rw [scan_skip (by simpa using digit) (by simpa using mark) (by simpa using letter),
      ih fun d hd => h d (List.mem_cons_of_mem c hd)]

/-! ## Texts one after the other -/

/-- A run of digits is one literal, whatever follows it. -/
theorem scan_digit_run {c : Char} (h : c.isDigit = true) (rest : List Char) {b : List Char}
    (stops : ∀ x ∈ b.head?, x.isDigit = false) :
    scan config (c :: (rest.takeWhile Char.isDigit ++ b)) =
      .operand (.literal (.ofRun c h rest)) :: scan config b := by
  rw [scan_digit h, dropWhile_run_append stops]
  simp only [Numeral.ofRun, takeWhile_run_append stops]

theorem scan_letter_run {c : Char} (h : isLetter c = true) (rest : List Char) {b : List Char}
    (stops : ∀ x ∈ b.head?, isLetter x = false) :
    scan config (c :: (rest.takeWhile isLetter ++ b)) =
      .operand (.name (.ofRun c rest)) :: scan config b := by
  rw [scan_letter h, dropWhile_run_append stops]
  simp only [Name.ofRun, takeWhile_run_append stops]

theorem Numeral.ofRun_append {c : Char} (h : c.isDigit = true) {b : List Char}
    (stops : ∀ x ∈ b.head?, x.isDigit = false) (rest : List Char) :
    Numeral.ofRun c h (rest ++ b) = .ofRun c h rest := by
  simp only [ofRun, takeWhile_append_of_stops stops]

theorem Name.ofRun_append (c : Char) {b : List Char} (stops : ∀ x ∈ b.head?, isLetter x = false)
    (rest : List Char) : Name.ofRun c (rest ++ b) = .ofRun c rest := by
  simp only [ofRun, takeWhile_append_of_stops stops]

/-- The scanner reads on where a text stops, if no run goes on there. -/
theorem scan_append {b : List Char} (digits : ∀ x ∈ b.head?, x.isDigit = false)
    (letters : ∀ x ∈ b.head?, isLetter x = false) (a : List Char) :
    scan config (a ++ b) = scan config a ++ scan config b := by
  fun_induction scan config a with
  | case1 => rfl
  | case2 c rest digit ih =>
    rw [List.cons_append, scan_digit digit, dropWhile_append_of_stops digits, ih,
      Numeral.ofRun_append digit digits, List.cons_append]
  | case3 c rest digit mark ih =>
    rw [List.cons_append, scan_mark (by simpa using digit) mark, ih, List.cons_append]
  | case4 c rest digit mark letter ih =>
    rw [List.cons_append, scan_letter letter, dropWhile_append_of_stops letters, ih,
      Name.ofRun_append c letters, List.cons_append]
  | case5 c rest digit mark letter ih =>
    rw [List.cons_append, scan_skip (by simpa using digit) (by simpa using mark)
      (by simpa using letter), ih]

theorem scan_append_closing (a b : List Char) :
    scan config (a ++ ')' :: b) = scan config a ++ .closing :: scan config b := by
  rw [scan_append (by simp) (by simp; decide), scan_closing]

end Abacus
