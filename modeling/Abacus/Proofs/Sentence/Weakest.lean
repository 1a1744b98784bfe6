/-
# The operator that binds weakest

A sequence of operands is split at one of its operators.  `IsWeakest` says which
one, without a search: none has a lower precedence, and

    it is the last one of its precedence that groups to the left, or
    it is the first one of its precedence, and none of these groups to the left.

`weakest?` finds that operator (`weakest?_isWeakest`).  What the operator stack
makes of it follows from the rule by which a waiting operator yields to an
incoming one: all operators on the left of the weakest one yield to it, and it
yields to none on its right (`IsWeakest.yields`, `IsWeakest.holds`).  This is
where associativity is needed of the incoming operator only: among operators of
one precedence the left-grouping ones let everything go that waits, and the
others nothing.
-/
import Abacus.Postfix
import Abacus.Sentence

namespace Abacus

/-! ## First and last elements that pass a test -/

section Search

variable {α : Type} {test : α → Bool} {items left right : List α} {x : α}

theorem exists_first (h : ∃ y ∈ items, test y = true) :
    ∃ left x right, items = left ++ x :: right ∧ test x = true ∧ ∀ y ∈ left, test y = false := by
  obtain ⟨x, found⟩ := Option.isSome_iff_exists.mp (List.find?_isSome.mpr h)
  obtain ⟨passes, left, right, rfl, before⟩ := List.find?_eq_some_iff_append.mp found
  exact ⟨left, x, right, rfl, passes, fun y hy => by simpa using before y hy⟩

theorem exists_last (h : ∃ y ∈ items, test y = true) :
    ∃ left x right, items = left ++ x :: right ∧ test x = true ∧ ∀ y ∈ right, test y = false := by
  obtain ⟨y, hy, passes⟩ := h
  obtain ⟨after, x, before, reversed, found, others⟩ :=
    exists_first ⟨y, List.mem_reverse.mpr hy, passes⟩
  refine ⟨before.reverse, x, after.reverse, ?_, found, ?_⟩
  · rw [← List.reverse_reverse items, reversed]
    simp
  · intro z hz
    exact others z (List.mem_reverse.mp hz)

theorem findIdx?_first (found : test x = true) (before : ∀ y ∈ left, test y = false) :
    (left ++ x :: right).findIdx? test = some left.length := by
  have absent : left.findIdx? test = none := List.findIdx?_eq_none_iff.mpr before
  simp [List.findIdx?_append, List.findIdx?_cons, absent, found]

theorem lastIndex?_last (found : test x = true) (after : ∀ y ∈ right, test y = false) :
    lastIndex? test (left ++ x :: right) = some left.length := by
  have reversed : (left ++ x :: right).reverse = right.reverse ++ x :: left.reverse := by simp
  have others : ∀ y ∈ right.reverse, test y = false := fun y hy => after y (List.mem_reverse.mp hy)
  rw [lastIndex?, reversed, findIdx?_first found others]
  simp only [Option.map_some, List.length_append, List.length_cons, List.length_reverse]
  congr 1
  omega

theorem lastIndex?_none (h : ∀ y ∈ items, test y = false) : lastIndex? test items = none := by
  have absent : items.reverse.findIdx? test = none :=
    List.findIdx?_eq_none_iff.mpr fun y hy => h y (List.mem_reverse.mp hy)
  rw [lastIndex?, absent, Option.map_none]

end Search

namespace Config

variable {config : Config} {symbols left right : List Symbol} {s o top incoming : Symbol}

/-- The precedence of a symbol; that of an unregistered one is of no interest. -/
def precedenceOf (config : Config) (s : Symbol) : Nat :=
  (config.operators.find? s).elim 0 Operator.precedence

/-- Between the symbols on its left and those on its right, the symbol binds weakest. -/
inductive IsWeakest (config : Config) (left : List Symbol) (s : Symbol) (right : List Symbol) : Prop
  | lastLeft (lowest : ∀ o ∈ left ++ s :: right, config.precedenceOf s ≤ config.precedenceOf o)
      (groups : config.groupsLeft s = true)
      (last : ∀ o ∈ right, config.precedenceOf o = config.precedenceOf s → config.groupsLeft o = false)
  | firstRight (lowest : ∀ o ∈ left ++ s :: right, config.precedenceOf s ≤ config.precedenceOf o)
      (groups : ∀ o ∈ left ++ s :: right,
        config.precedenceOf o = config.precedenceOf s → config.groupsLeft o = false)
      (first : ∀ o ∈ left, config.precedenceOf o ≠ config.precedenceOf s)

theorem exists_find? (h : config.operators.contains s = true) :
    ∃ op, config.operators.find? s = some op :=
  Option.isSome_iff_exists.mp h

theorem precedenceOf_eq {op : Operator} (h : config.operators.find? s = some op) :
    config.precedenceOf s = op.precedence := by
  rw [precedenceOf, h, Option.elim_some]

theorem hasPrecedence_iff (h : config.operators.contains s = true) (precedence : Nat) :
    config.hasPrecedence precedence s = true ↔ config.precedenceOf s = precedence := by
  obtain ⟨op, found⟩ := exists_find? h
  rw [precedenceOf_eq found]
  simp [hasPrecedence, found]

/-! ## The search finds it -/

theorem lowest_eq_none_iff (registered : ∀ o ∈ symbols, config.operators.contains o = true) :
    config.lowest symbols = none ↔ symbols = [] := by
  cases symbols with
  | nil => simp [lowest]
  | cons s symbols =>
    obtain ⟨op, found⟩ := exists_find? (registered s List.mem_cons_self)
    rw [lowest, found, Option.map_some]
    cases config.lowest symbols <;> simp

theorem lowest_spec (registered : ∀ o ∈ symbols, config.operators.contains o = true) {low : Nat}
    (h : config.lowest symbols = some low) :
    (∃ o ∈ symbols, config.precedenceOf o = low) ∧ ∀ o ∈ symbols, low ≤ config.precedenceOf o := by
  induction symbols generalizing low with
  | nil => cases h
  | cons s symbols ih =>
    have others : ∀ o ∈ symbols, config.operators.contains o = true :=
      fun o ho => registered o (List.mem_cons_of_mem s ho)
    obtain ⟨op, found⟩ := exists_find? (registered s List.mem_cons_self)
    rw [lowest, found, Option.map_some, ← precedenceOf_eq found] at h
    cases rest : config.lowest symbols with
    | none =>
      obtain rfl := (lowest_eq_none_iff others).mp rest
      rw [rest, Option.some.injEq] at h
      simp [h]
    | some q =>
      obtain ⟨⟨o, ho, least⟩, bound⟩ := ih others rest
      rw [rest, Option.some.injEq] at h
      constructor
      · rcases Nat.le_total (config.precedenceOf s) q with hle | hle
        · exact ⟨s, List.mem_cons_self, by omega⟩
        · exact ⟨o, List.mem_cons_of_mem s ho, by omega⟩
      · intro o ho
        rcases List.mem_cons.mp ho with rfl | ho
        · omega
        · have := bound o ho
          omega

theorem weakest?_isWeakest (registered : ∀ o ∈ symbols, config.operators.contains o = true)
    (filled : symbols ≠ []) :
    ∃ left s right, symbols = left ++ s :: right ∧ config.weakest? symbols = some left.length ∧
      config.IsWeakest left s right := by
  obtain ⟨low, hlow⟩ := Option.ne_none_iff_exists'.mp
    (fun absent => filled ((lowest_eq_none_iff registered).mp absent))
  obtain ⟨⟨o, ho, least⟩, bound⟩ := lowest_spec registered hlow
  let weakLeft := fun s => config.hasPrecedence low s && config.groupsLeft s
  by_cases some_left : ∃ s ∈ symbols, weakLeft s = true
  · obtain ⟨left, s, right, rfl, found, after⟩ := exists_last some_left
    have hs := registered s (by simp)
    obtain ⟨weak, groups⟩ := Bool.and_eq_true_iff.mp found
    rw [hasPrecedence_iff hs] at weak
    refine ⟨left, s, right, rfl, ?_, .lastLeft ?_ groups ?_⟩
    · rw [weakest?, hlow]
      simp only [show lastIndex? (fun s => config.hasPrecedence low s && config.groupsLeft s)
        (left ++ s :: right) = some left.length from lastIndex?_last found after]
    · rw [weak]
      exact bound
    · intro o ho same
      have lowest := (hasPrecedence_iff (registered o (by simp [ho])) low).mpr (same.trans weak)
      simpa [weakLeft, lowest] using after o ho
  · have none_left : ∀ s ∈ symbols, weakLeft s = false := by
      intro s hs
      exact Bool.eq_false_iff.mpr fun h => some_left ⟨s, hs, h⟩
    obtain ⟨left, s, right, rfl, found, before⟩ :=
      exists_first ⟨o, ho, (hasPrecedence_iff (registered o ho) low).mpr least⟩
    rw [hasPrecedence_iff (registered s (by simp))] at found
    refine ⟨left, s, right, rfl, ?_, .firstRight ?_ ?_ ?_⟩
    · rw [weakest?, hlow]
      simp only [show lastIndex? (fun s => config.hasPrecedence low s && config.groupsLeft s)
        (left ++ s :: right) = none from lastIndex?_none none_left]
      exact findIdx?_first ((hasPrecedence_iff (registered s (by simp)) low).mpr found) before
    · rw [found]
      exact bound
    · intro o ho same
      have lowest := (hasPrecedence_iff (registered o ho) low).mpr (same.trans found)
      simpa [weakLeft, lowest] using none_left o ho
    · intro o ho same
      have lowest := (hasPrecedence_iff (registered o (by simp [ho])) low).mpr (same.trans found)
      rw [before o ho] at lowest
      cases lowest

/-! ## What yields to what -/

/-- On the stack, the first symbol lets itself be output before the second is put there. -/
def yields (config : Config) (top incoming : Symbol) : Bool :=
  match config.operators.find? top, config.operators.find? incoming with
  | some waiting, some arriving => waiting.yieldsTo arriving
  | _, _ => false

/-- Only the associativity of the incoming symbol counts. -/
theorem yields_iff (htop : config.operators.contains top = true)
    (hincoming : config.operators.contains incoming = true) :
    config.yields top incoming = true ↔
      config.precedenceOf incoming < config.precedenceOf top ∨
        config.precedenceOf incoming = config.precedenceOf top ∧ config.groupsLeft incoming = true := by
  obtain ⟨waiting, waits⟩ := exists_find? htop
  obtain ⟨arriving, arrives⟩ := exists_find? hincoming
  rw [precedenceOf_eq waits, precedenceOf_eq arrives]
  simp only [yields, waits, arrives, groupsLeft, Option.any_some, Operator.yieldsTo]
  cases arriving.associativity with
  | left =>
    have isLeft : (Associativity.left == Associativity.left) = true := rfl
    simp only [decide_eq_true_eq, isLeft, and_true]
    omega
  | right =>
    have isRight : (Associativity.right == Associativity.left) = false := rfl
    simp [isRight]

/-- Everything on the left of the weakest operator yields to it. -/
theorem IsWeakest.yields (h : config.IsWeakest left s right)
    (registered : ∀ o ∈ left ++ s :: right, config.operators.contains o = true) (ho : o ∈ left) :
    config.yields o s = true := by
  rw [yields_iff (registered o (by simp [ho])) (registered s (by simp))]
  cases h with
  | lastLeft lowest groups last =>
    have := lowest o (by simp [ho])
    rcases Nat.lt_or_eq_of_le this with lower | same
    · exact .inl lower
    · exact .inr ⟨same, groups⟩
  | firstRight lowest groups first =>
    have := lowest o (by simp [ho])
    have := first o ho
    exact .inl (by omega)

/-- The weakest operator yields to nothing on its right. -/
theorem IsWeakest.holds (h : config.IsWeakest left s right)
    (registered : ∀ o ∈ left ++ s :: right, config.operators.contains o = true) (ho : o ∈ right) :
    config.yields s o = false := by
  rw [Bool.eq_false_iff, ne_eq, yields_iff (registered s (by simp)) (registered o (by simp [ho]))]
  rintro (lower | ⟨same, groupsO⟩)
  · cases h with
    | lastLeft lowest _ _ =>
      have := lowest o (by simp [ho])
      omega
    | firstRight lowest _ _ =>
      have := lowest o (by simp [ho])
      omega
  · cases h with
    | lastLeft _ _ last =>
      rw [last o ho same] at groupsO
      cases groupsO
    | firstRight _ groups _ =>
      rw [groups o (by simp [ho]) same] at groupsO
      cases groupsO

end Config

end Abacus
