/-
# Lines and what they are made of

Cutting a text into lines and putting lines together again undo each other where
no line has a break in it:

    lines (ls.flatMap fun l => l ++ ['\n']) = ls          (lines_flatMap)

The lines of a text have none (`isOneLine_of_mem_lines`), since every break ends a
line, whichever of the ten characters it is.  It makes no difference to the lines whether
carriage returns are unified first (`lines_unifyBreaks`).

A line that is not blank keeps what makes it so when the blanks at its ends are
taken away (`isBlankText_strip`), and it stays a line.  Taking them away once is enough
(`strip_strip`).
-/
import Abacus.Text.Lines

namespace Abacus.Text

/-- The text has no line break. -/
def IsOneLine (text : List Char) : Prop :=
  ∀ c ∈ text, isLineBreak c = false

instance (text : List Char) : Decidable (IsOneLine text) :=
  List.decidableBAll _ text

@[simp] theorem isOneLine_nil : IsOneLine [] :=
  List.forall_mem_nil _

@[simp] theorem isOneLine_cons {c : Char} {rest : List Char} :
    IsOneLine (c :: rest) ↔ isLineBreak c = false ∧ IsOneLine rest :=
  List.forall_mem_cons

theorem IsOneLine.subset {text part : List Char} (h : IsOneLine text) (sub : part ⊆ text) :
    IsOneLine part :=
  fun c hc => h c (sub hc)

/-! ## Cutting -/

theorem lines_lineFeed (rest : List Char) : lines ('\n' :: rest) = [] :: lines rest :=
  rfl

theorem lines_cons_of_ne {c : Char} (h : c ≠ '\r') (rest : List Char) :
    lines (c :: rest) = if isLineBreak c then [] :: lines rest else prependToFirst c (lines rest) := by
  rw [lines]
  intro rest' same
  exact absurd same h

theorem lines_cons_of_inside {c : Char} (h : isLineBreak c = false) (rest : List Char) :
    lines (c :: rest) = prependToFirst c (lines rest) := by
  have other : c ≠ '\r' := by
    rintro rfl
    cases h
  rw [lines_cons_of_ne other, h]
  rfl

theorem lines_append_of_starts {line rest : List Char} {others : List (List Char)} (h : IsOneLine line)
    (starts : lines rest = [] :: others) : lines (line ++ rest) = line :: others := by
  induction line with
  | nil => exact starts
  | cons c line ih =>
    obtain ⟨inside, outside⟩ := isOneLine_cons.mp h
    rw [List.cons_append, lines_cons_of_inside inside, ih outside, prependToFirst]

theorem isOneLine_of_mem_lines {text line : List Char} (h : line ∈ lines text) : IsOneLine line := by
  fun_induction lines text generalizing line with
  | case1 => cases h
  | case2 rest ih =>
    rcases List.mem_cons.mp h with rfl | later
    · exact isOneLine_nil
    · exact ih later
  | case3 c rest _ inside ih =>
    rcases List.mem_cons.mp h with rfl | later
    · exact isOneLine_nil
    · exact ih later
  | case4 c rest _ inside ih =>
    intro d hd
    rcases mem_of_mem_prependToFirst h hd with rfl | ⟨other, member, hd⟩
    · simpa using inside
    · exact ih member d hd

theorem lines_unifyBreaks (text : List Char) : lines (unifyBreaks text) = lines text := by
  fun_induction unifyBreaks text with
  | case1 => rfl
  | case2 rest ih => rw [lines_lineFeed, ih, lines]
  | case3 c rest single ih =>
    by_cases same : c = '\r'
    · subst same
      rw [if_pos rfl, lines_lineFeed, ih, lines]
      · rfl
      · exact single
    · rw [if_neg same, lines_cons_of_ne same, lines_cons_of_ne same, ih]

/-! ## Stripping -/

theorem trimRight_sublist (outside : Char → Bool) (text : List Char) :
    (trimRight outside text).Sublist text := by
  fun_induction trimRight outside text with
  | case1 => exact .refl []
  | case2 c rest _ _ ih => exact List.nil_sublist _
  | case3 c rest _ _ ih => exact (List.nil_sublist rest).cons_cons c
  | case4 c rest d kept trimmed ih => exact (trimmed ▸ ih).cons_cons c

theorem strip_sublist (text : List Char) : (strip text).Sublist text :=
  (trimRight_sublist isBlank _).trans (List.dropWhile_sublist _)

theorem all_trimRight (outside : Char → Bool) (text : List Char) :
    (trimRight outside text).all outside = text.all outside := by
  fun_induction trimRight outside text with
  | case1 => rfl
  | case2 c rest trimmed blank ih =>
    rw [trimmed] at ih
    rw [List.all_cons, ← ih, blank]
    rfl
  | case3 c rest trimmed filled ih =>
    rw [trimmed] at ih
    rw [List.all_cons, List.all_cons, ← ih]
  | case4 c rest d kept trimmed ih =>
    rw [trimmed] at ih
    rw [List.all_cons, ih, List.all_cons]

theorem all_dropWhile (outside : Char → Bool) (text : List Char) :
    (text.dropWhile outside).all outside = text.all outside := by
  induction text with
  | nil => rfl
  | cons c rest ih =>
    rw [List.dropWhile_cons]
    split
    next blank => rw [ih, List.all_cons, blank, Bool.true_and]
    next => rfl

theorem trimRight_trimRight (outside : Char → Bool) (text : List Char) :
    trimRight outside (trimRight outside text) = trimRight outside text := by
  fun_induction trimRight outside text with
  | case1 => rfl
  | case2 c rest trimmed blank ih => rfl
  | case3 c rest trimmed filled ih => rw [trimRight, trimRight, if_neg filled]
  | case4 c rest d kept trimmed ih =>
    rw [trimmed] at ih
    rw [trimRight, ih]

theorem dropWhile_trim (outside : Char → Bool) (text : List Char) :
    (trim outside text).dropWhile outside = trim outside text := by
  rw [trim]
  induction text with
  | nil => rfl
  | cons c rest ih =>
    rw [List.dropWhile_cons]
    split
    next => exact ih
    next inside =>
      rw [trimRight]
      split
      next => rw [if_neg inside, List.dropWhile_cons, if_neg inside]
      next => rw [List.dropWhile_cons, if_neg inside]

@[simp] theorem strip_strip (text : List Char) : strip (strip text) = strip text := by
  rw [strip, strip, trim, dropWhile_trim, trim, trimRight_trimRight]

theorem isBlankText_strip (text : List Char) : isBlankText (strip text) = isBlankText text := by
  rw [isBlankText, isBlankText, strip, trim, all_trimRight, all_dropWhile]

/-! ## Lines that are filled -/

/-- The lines that are not blank, stripped. -/
def filled (ls : List (List Char)) : List (List Char) :=
  (ls.filter fun line => !isBlankText line).map strip

theorem filledLines_eq (text : List Char) : filledLines text = filled (lines text) :=
  rfl

theorem filled_empty_cons (ls : List (List Char)) : filled ([] :: ls) = filled ls :=
  rfl

theorem filled_cons_congr {ls ls' : List (List Char)} (same : filled ls = filled ls') (line : List Char) :
    filled (line :: ls) = filled (line :: ls') := by
  rw [filled, filled, List.filter_cons, List.filter_cons]
  split
  next => exact congrArg (strip line :: ·) same
  next => exact same

theorem mem_filled {ls : List (List Char)} {line : List Char} (h : line ∈ filled ls) :
    isBlankText line = false ∧ strip line = line ∧ ∃ whole ∈ ls, strip whole = line := by
  obtain ⟨whole, member, rfl⟩ := List.mem_map.mp h
  obtain ⟨given, kept⟩ := List.mem_filter.mp member
  refine ⟨?_, strip_strip whole, whole, given, rfl⟩
  rw [isBlankText_strip]
  simpa using kept

theorem filled_filled (ls : List (List Char)) : filled (filled ls) = filled ls := by
  have kept : (filled ls).filter (fun line => !isBlankText line) = filled ls := by
    apply List.filter_eq_self.mpr
    intro line member
    rw [(mem_filled member).1]
    rfl
  have stripped : (filled ls).map strip = filled ls :=
    (List.map_congr_left fun line member => (mem_filled member).2.1).trans (List.map_id' _)
  rw [filled, kept, stripped]

theorem mem_filledLines {text line : List Char} (h : line ∈ filledLines text) :
    IsOneLine line ∧ isBlankText line = false := by
  obtain ⟨kept, -, whole, inText, rfl⟩ := mem_filled h
  exact ⟨(isOneLine_of_mem_lines inText).subset (strip_sublist whole).subset, kept⟩

end Abacus.Text
