/-
# Where arguments come from

Arguments are told apart first, and then taken from left to right.  Two facts about
this are used later on.

What begins with no dash is a positional argument, so without dashes the positional
takes all arguments (`Grammar.parse_plain_many`, `Grammar.parse_plain_all`).

An option may be given several times, each time in front of a value.  The values are
then read in their order, and the first that cannot be read ends it
(`Grammar.parse_repeated_eq_ok_iff`).
-/
import Abacus.Arguments.Taken
import Mathlib.Data.List.Forall2
import Mathlib.Data.List.TakeWhile

namespace Abacus

variable {α : Type} {g : Grammar α} {argument name text value : String} {flag : Flag α}
  {arguments : List String} {items : List (Item α)} {t : Taken α}

/-! ## Telling arguments apart -/

theorem append_splitAtEquals {text before : List Char} (h : splitAtEquals text = (before, some value)) :
    text = before ++ '=' :: value.toList := by
  unfold splitAtEquals at h
  have parted := List.takeWhile_append_dropWhile (p := (· ≠ '=')) (l := text)
  split at h
  next => cases h
  next c after behind =>
    cases h
    have sign : c = '=' := by
      have stops := List.head?_dropWhile_not (· ≠ '=') text
      rw [behind] at stops
      simpa using stops
    rw [behind, sign] at parted
    rw [String.toList_ofList]
    exact parted.symm

theorem equals_notMem_splitAtEquals (text : List Char) : '=' ∉ (splitAtEquals text).1 := by
  have before : '=' ∉ text.takeWhile (· ≠ '=') := by
    intro member
    simpa using List.mem_takeWhile_imp member
  unfold splitAtEquals
  dsimp only
  split
  · exact before
  · exact before

theorem splitAtEquals_append {front value : List Char} (fresh : '=' ∉ front) :
    splitAtEquals (front ++ '=' :: value) = (front, some (String.ofList value)) := by
  have before : ∀ c ∈ front, decide (c ≠ '=') = true := by
    intro c member
    exact decide_eq_true fun same => fresh (same ▸ member)
  unfold splitAtEquals
  rw [List.takeWhile_append_of_pos before, List.dropWhile_append_of_pos before]
  simp

namespace Grammar

theorem text_classify {item : Item α} (h : g.classify argument = .ok item) : item.text = argument := by
  unfold classify at h
  dsimp only at h
  split at h
  next => cases h; rfl
  next =>
    split at h
    next => cases h; rfl
    next =>
      split at h
      next => cases h; rfl
      next =>
        split at h
        next => cases h; rfl
        next => split at h <;> cases h <;> rfl
        next => cases h

theorem classify_plain (plain : argument.toList.head? ≠ some '-') : g.classify argument = .ok (.plain argument) :=
  if_pos plain

theorem classifyAll_cons (undivided : argument ≠ "--") {item : Item α} (read : g.classify argument = .ok item)
    (told : g.classifyAll arguments = .ok items) : g.classifyAll (argument :: arguments) = .ok (item :: items) := by
  rw [classifyAll, if_neg undivided, read]
  dsimp only
  rw [told]

theorem ne_divider_of_plain (plain : argument.toList.head? ≠ some '-') : argument ≠ "--" := by
  rintro rfl
  exact plain rfl

theorem map_text_classifyAll (h : g.classifyAll arguments = .ok items) : items.map Item.text = arguments := by
  fun_induction g.classifyAll arguments generalizing items with
  | case1 =>
    cases h
    rfl
  | case2 rest =>
    cases h
    rw [List.map_cons, List.map_map, show Item.text ∘ Item.plain (α := α) = id from rfl, List.map_id]
    rfl
  | case3 argument rest _ e failed => cases h
  | case4 argument rest _ item read e failed ih => cases h
  | case5 argument rest _ item read items' told ih =>
    cases h
    rw [List.map_cons, text_classify read, ih told]

theorem classifyAll_plain (plain : ∀ a ∈ arguments, a.toList.head? ≠ some '-') :
    g.classifyAll arguments = .ok (arguments.map .plain) := by
  induction arguments with
  | nil => rfl
  | cons argument rest ih =>
    obtain ⟨first, others⟩ := List.forall_mem_cons.mp plain
    exact classifyAll_cons (ne_divider_of_plain first) (classify_plain first) (ih others)

/-! ## Taking arguments -/

theorem take_plain_many (many : g.arity = .many) {taken : List String} (pos : t.positional = some taken)
    (cont : t.continues = true) (arguments : List String) :
    g.take t (arguments.map .plain) = .ok { t with positional := some (taken ++ arguments) } := by
  induction arguments generalizing t taken with
  | nil =>
    rw [List.append_nil, ← pos]
    rfl
  | cons argument rest ih =>
    have step : t.plain g.arity argument = { t with positional := some (taken ++ [argument]) } := by
      simp [Taken.plain, pos, cont, many]
    have other : ¬(g.arity = .all ∧ t.positional = none) := by simp [many]
    rw [List.map_cons, take, if_neg other, step,
      ih (t := { t with positional := some (taken ++ [argument]) }) rfl cont, List.append_assoc,
      List.singleton_append]

/-- A positional that takes many takes all arguments without a dash in front. -/
theorem parse_plain_many (many : g.arity = .many)
    (plain : ∀ a ∈ argument :: arguments, a.toList.head? ≠ some '-') :
    g.parse (argument :: arguments) = .ok ([], argument :: arguments, []) := by
  have taken : g.take .nothing (.plain argument :: arguments.map .plain) =
      .ok ⟨[], some (argument :: arguments), true, []⟩ := by
    have other : ¬(g.arity = .all ∧ (Taken.nothing : Taken α).positional = none) := by simp [many]
    rw [take, if_neg other, take_plain_many many rfl rfl]
    rfl
  simp only [parse, classifyAll_plain plain, List.map_cons, taken]

theorem parse_all (all : g.arity = .all) (plain : argument.toList.head? ≠ some '-')
    (told : g.classifyAll arguments = .ok items) :
    g.parse (argument :: arguments) = .ok ([], argument :: arguments, []) := by
  have taken : g.take .nothing (.plain argument :: items) = .ok ⟨[], some (argument :: arguments), false, []⟩ := by
    rw [take, if_pos ⟨all, rfl⟩, map_text_classifyAll told]
    rfl
  simp only [parse, classifyAll_cons (ne_divider_of_plain plain) (classify_plain plain) told, taken]

theorem parse_plain_all (all : g.arity = .all)
    (plain : ∀ a ∈ argument :: arguments, a.toList.head? ≠ some '-') :
    g.parse (argument :: arguments) = .ok ([], argument :: arguments, []) := by
  obtain ⟨first, others⟩ := List.forall_mem_cons.mp plain
  exact parse_all all first (classifyAll_plain others)

/-! ## An option that is given several times -/

/-- An option in front of each of some values. -/
def repeated (option : String) (values : List String) : List String :=
  values.flatMap fun value => [option, value]

theorem classifyAll_repeated {option : String} (undivided : option ≠ "--") {item : Item α}
    (read : g.classify option = .ok item) {values : List String}
    (plain : ∀ v ∈ values, v.toList.head? ≠ some '-') :
    g.classifyAll (repeated option values) = .ok (values.flatMap fun value => [item, .plain value]) := by
  induction values with
  | nil => rfl
  | cons value values ih =>
    obtain ⟨first, others⟩ := List.forall_mem_cons.mp plain
    exact classifyAll_cons undivided read
      (classifyAll_cons (ne_divider_of_plain first) (classify_plain first) (ih others))

section Values

variable {read : String → Except String α} {values : List String} {t' : Taken α}

theorem take_value (takes : flag.read = some read) (rest : List (Item α)) :
    g.take t (.option flag name none text :: .plain value :: rest) =
      match t.value flag read value with
      | .error halt => .error halt
      | .ok t => g.take t rest := by
  rw [take.eq_def]
  dsimp only
  rewrite [takes]
  rfl

/-- Values that can all be read are taken in their order, and nothing else changes. -/
theorem take_repeated_eq_ok_iff (takes : flag.read = some read) :
    g.take t (values.flatMap fun value => [.option flag name none text, .plain value]) = .ok t' ↔
      ∃ as, List.Forall₂ (fun value a => read value = .ok a) values as ∧
        t' = { t with values := t.values ++ as, continues := t.continues && values.isEmpty } := by
  induction values generalizing t with
  | nil => simp [take, eq_comm]
  | cons value values ih =>
    rw [List.flatMap_cons, List.cons_append, List.singleton_append, take_value takes, Taken.value]
    cases first : read value with
    | error reason => simp [List.forall₂_cons_left_iff, first]
    | ok a =>
      dsimp only
      rw [ih]
      simp [List.forall₂_cons_left_iff, first]

/-- One positional argument in front of an option that is given several times. -/
theorem parse_repeated_eq_ok_iff (one : g.arity = .one) (plain : argument.toList.head? ≠ some '-')
    {option : String} (undivided : option ≠ "--") (known : g.classify option = .ok (.option flag name none option))
    (takes : flag.read = some read) (plainValues : ∀ v ∈ values, v.toList.head? ≠ some '-')
    {result : List α × List String × List String} :
    g.parse (argument :: repeated option values) = .ok result ↔
      ∃ as, List.Forall₂ (fun value a => read value = .ok a) values as ∧ result = (as, [argument], []) := by
  have told := classifyAll_cons (ne_divider_of_plain plain) (g.classify_plain plain)
    (classifyAll_repeated undivided known plainValues)
  have first (items : List (Item α)) :
      g.take .nothing (.plain argument :: items) = g.take ⟨[], some [argument], true, []⟩ items := by
    rw [take, if_neg (by simp [one])]
    rfl
  rw [parse, told]
  dsimp only
  rw [first]
  constructor
  · intro parsed
    split at parsed
    next => cases parsed
    next t' taken =>
      obtain ⟨as, each, rfl⟩ := (take_repeated_eq_ok_iff takes).mp taken
      cases parsed
      exact ⟨as, each, rfl⟩
  · rintro ⟨as, each, rfl⟩
    rw [(take_repeated_eq_ok_iff takes).mpr ⟨as, each, rfl⟩]
    rfl

end Values

end Grammar

end Abacus
