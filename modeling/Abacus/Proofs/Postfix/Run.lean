/-
# Runs of the operator stack

Reordering is a run: each token lets some tokens out and leaves a stack, and at
the end the stack is emptied.  `shuntAll` is such a run without its end, and what
a run does to tokens that stand one after the other is what it does to the ones
and then, on the stack these leave, to the others (`shuntAll_append`,
`reorderFrom_append`).

Of a configuration a run only asks how the operators bind that it meets
(`reorderFrom_congr`).

A run also does not see what lies under a barrier that it leaves in place
(`shuntAll_frame`).  So tokens that can be reordered by themselves act, between
two parentheses, on every stack as one operand does: their output comes out, and
the stack is the same as before (`shuntAll_group`).
-/
import Abacus.Postfix

namespace Abacus

/-- What tokens let out one after the other, and the stack after them. -/
def shuntAll (config : Config) (stack : List Waiting) :
    List Token → Except ReorderError (List Token × List Waiting)
  | [] => .ok ([], stack)
  | token :: tokens =>
    match shunt config stack token with
    | .error e => .error e
    | .ok (released, stack) =>
      (shuntAll config stack tokens).map fun (rest, stack) => (released ++ rest, stack)

variable {config : Config} {stack stack' : List Waiting} {tokens out : List Token}

/-! ## Tokens one after the other -/

theorem shuntAll_cons {token : Token} (h : shunt config stack token = .ok (out, stack'))
    (tokens : List Token) :
    shuntAll config stack (token :: tokens) =
      (shuntAll config stack' tokens).map fun (rest, stack) => (out ++ rest, stack) := by
  rw [shuntAll, h]

theorem exists_of_shuntAll_cons {token : Token}
    (h : shuntAll config stack (token :: tokens) = .ok (out, stack')) :
    ∃ released between rest, shunt config stack token = .ok (released, between) ∧
      shuntAll config between tokens = .ok (rest, stack') ∧ out = released ++ rest := by
  rw [shuntAll] at h
  cases first : shunt config stack token with
  | error e => simp [first] at h
  | ok result =>
    obtain ⟨released, between⟩ := result
    cases others : shuntAll config between tokens with
    | error e => simp [first, others, Except.map] at h
    | ok result =>
      obtain ⟨rest, last⟩ := result
      simp only [first, others, Except.map, Except.ok.injEq, Prod.mk.injEq] at h
      obtain ⟨rfl, rfl⟩ := h
      exact ⟨released, between, rest, rfl, others, rfl⟩

theorem shuntAll_append (h : shuntAll config stack tokens = .ok (out, stack')) (more : List Token) :
    shuntAll config stack (tokens ++ more) =
      (shuntAll config stack' more).map fun (rest, stack) => (out ++ rest, stack) := by
  induction tokens generalizing stack out with
  | nil =>
    cases h
    rw [List.nil_append]
    cases shuntAll config stack' more <;> rfl
  | cons token tokens ih =>
    obtain ⟨released, between, rest, first, others, rfl⟩ := exists_of_shuntAll_cons h
    rw [List.cons_append, shuntAll_cons first, ih others]
    cases shuntAll config stack' more <;> simp [Except.map]

theorem reorderFrom_cons (config : Config) (stack : List Waiting) (token : Token) (tokens : List Token) :
    reorderFrom config stack (token :: tokens) =
      match shunt config stack token with
      | .error e => .error e
      | .ok (released, stack) => (reorderFrom config stack tokens).map (released ++ ·) := by
  rw [reorderFrom]
  cases shunt config stack token with
  | error e => rfl
  | ok result => cases h : reorderFrom config result.2 tokens <;> simp [h, Except.map]

theorem exists_of_reorderFrom_cons {token : Token}
    (h : reorderFrom config stack (token :: tokens) = .ok out) :
    ∃ released between rest, shunt config stack token = .ok (released, between) ∧
      reorderFrom config between tokens = .ok rest ∧ out = released ++ rest := by
  rw [reorderFrom_cons] at h
  cases first : shunt config stack token with
  | error e => simp [first] at h
  | ok result =>
    obtain ⟨released, between⟩ := result
    cases others : reorderFrom config between tokens with
    | error e => simp [first, others, Except.map] at h
    | ok rest =>
      simp only [first, others, Except.map, Except.ok.injEq] at h
      exact ⟨released, between, rest, rfl, others, h.symm⟩

theorem reorderFrom_append (h : shuntAll config stack tokens = .ok (out, stack')) (more : List Token) :
    reorderFrom config stack (tokens ++ more) = (reorderFrom config stack' more).map (out ++ ·) := by
  induction tokens generalizing stack out with
  | nil =>
    cases h
    rw [List.nil_append]
    cases reorderFrom config stack' more <;> rfl
  | cons token tokens ih =>
    obtain ⟨released, between, rest, first, others, rfl⟩ := exists_of_shuntAll_cons h
    simp only [List.cons_append, reorderFrom_cons, first, ih others]
    cases reorderFrom config stack' more <;> simp [Except.map]

theorem reorderFrom_of_shuntAll (h : shuntAll config stack tokens = .ok (out, stack')) :
    reorderFrom config stack tokens = (releaseAll stack').map (out ++ ·) := by
  have whole := reorderFrom_append h []
  rwa [List.append_nil] at whole

theorem shuntAll_of_reorderFrom (h : reorderFrom config stack tokens = .ok out) :
    ∃ released stack' rest, shuntAll config stack tokens = .ok (released, stack') ∧
      releaseAll stack' = .ok rest ∧ out = released ++ rest := by
  induction tokens generalizing stack out with
  | nil => exact ⟨[], stack, out, rfl, h, rfl⟩
  | cons token tokens ih =>
    obtain ⟨out', between, later, first, others, rfl⟩ := exists_of_reorderFrom_cons h
    obtain ⟨released, stack', rest, run, ended, rfl⟩ := ih others
    refine ⟨out' ++ released, stack', rest, ?_, ended, ?_⟩
    · rw [shuntAll_cons first, run]
      rfl
    · rw [List.append_assoc]

/-! ## What comes out -/

theorem release_operators {incoming : Symbol} (h : release config incoming stack = .ok (out, stack')) :
    ∀ token ∈ out, ∃ s, token = .operator s := by
  fun_induction release config incoming stack generalizing out stack' with
  | case1 => cases h; simp
  | case2 => cases h
  | case3 top stack waiting registered arriving known yields released rest run ih =>
    cases h
    simpa using ih run
  | case4 => cases h
  | case5 => cases h; simp
  | case6 => cases h; simp

theorem releaseGroup_operators (h : releaseGroup stack = .ok (out, stack')) :
    ∀ token ∈ out, ∃ s, token = .operator s := by
  fun_induction releaseGroup stack generalizing out stack' with
  | case1 => cases h
  | case2 => cases h; simp
  | case3 top stack released rest run ih =>
    cases h
    simpa using ih run
  | case4 => cases h

theorem releaseAll_operators (h : releaseAll stack = .ok out) :
    ∀ token ∈ out, ∃ s, token = .operator s := by
  fun_induction releaseAll stack generalizing out with
  | case1 => cases h; simp
  | case2 => cases h
  | case3 top stack released run ih =>
    cases h
    simpa using ih run
  | case4 => cases h

theorem shunt_out {token : Token} (h : shunt config stack token = .ok (out, stack')) :
    (∃ o, token = .operand o ∧ out = [.operand o]) ∨ ∀ token ∈ out, ∃ s, token = .operator s := by
  cases token with
  | operand o =>
    cases h
    exact .inl ⟨o, rfl, rfl⟩
  | opening =>
    cases h
    exact .inr (by simp)
  | closing => exact .inr (releaseGroup_operators h)
  | operator s =>
    rw [shunt] at h
    cases run : release config s stack with
    | error e => simp [run] at h
    | ok result =>
      obtain ⟨released, rest⟩ := result
      simp only [run, Except.ok.injEq, Prod.mk.injEq] at h
      obtain ⟨rfl, _⟩ := h
      exact .inr (release_operators run)

theorem operand_notMem_of_operators {o : Operand} (h : ∀ token ∈ out, ∃ s, token = .operator s) :
    .operand o ∉ out := by
  intro ho
  obtain ⟨s, hs⟩ := h _ ho
  cases hs

theorem operand_notMem_releaseAll {o : Operand} (h : releaseAll stack = .ok out) : .operand o ∉ out :=
  operand_notMem_of_operators (releaseAll_operators h)

theorem operand_notMem_shunt {o : Operand} {token : Token}
    (h : shunt config stack token = .ok (out, stack')) (ne : token ≠ .operand o) : .operand o ∉ out := by
  rcases shunt_out h with ⟨p, rfl, rfl⟩ | operators
  · rw [List.mem_singleton]
    exact ne.symm
  · exact operand_notMem_of_operators operators

theorem isParenthesis_of_mem_reorderFrom (h : reorderFrom config stack tokens = .ok out) :
    ∀ token ∈ out, token.isParenthesis = false := by
  induction tokens generalizing stack out with
  | nil =>
    intro token hmem
    obtain ⟨s, rfl⟩ := releaseAll_operators h token hmem
    rfl
  | cons first tokens ih =>
    obtain ⟨released, between, later, run, others, rfl⟩ := exists_of_reorderFrom_cons h
    intro token hmem
    rcases List.mem_append.mp hmem with hmem | hmem
    · rcases shunt_out run with ⟨o, rfl, rfl⟩ | operators
      · rw [List.mem_singleton.mp hmem]
        rfl
      · obtain ⟨s, rfl⟩ := operators token hmem
        rfl
    · exact ih others token hmem

/-! ## What of a configuration matters -/

theorem release_suffix {incoming : Symbol} (h : release config incoming stack = .ok (out, stack')) :
    stack' <:+ stack := by
  fun_induction release config incoming stack generalizing out stack' with
  | case1 => cases h; exact List.suffix_rfl
  | case2 => cases h
  | case3 top stack waiting registered arriving known yields released rest run ih =>
    cases h
    exact (ih run).trans (List.suffix_cons _ _)
  | case4 => cases h
  | case5 => cases h; exact List.suffix_rfl
  | case6 => cases h; exact List.suffix_rfl

theorem releaseGroup_suffix (h : releaseGroup stack = .ok (out, stack')) : stack' <:+ stack := by
  fun_induction releaseGroup stack generalizing out stack' with
  | case1 => cases h
  | case2 => cases h; exact List.suffix_cons _ _
  | case3 top stack released rest run ih =>
    cases h
    exact (ih run).trans (List.suffix_cons _ _)
  | case4 => cases h

theorem mem_of_mem_shunt {token : Token} {s : Symbol} (h : shunt config stack token = .ok (out, stack'))
    (hs : .operator s ∈ stack') : .operator s ∈ stack ∨ token = .operator s := by
  cases token with
  | operand o =>
    cases h
    exact .inl hs
  | opening =>
    cases h
    exact .inl (by simpa using hs)
  | closing => exact .inl ((releaseGroup_suffix h).subset hs)
  | operator t =>
    rw [shunt] at h
    cases run : release config t stack with
    | error e => simp [run] at h
    | ok result =>
      obtain ⟨released, rest⟩ := result
      simp only [run, Except.ok.injEq, Prod.mk.injEq] at h
      obtain ⟨-, rfl⟩ := h
      rcases List.mem_cons.mp hs with same | hs
      · cases same
        exact .inr rfl
      · exact .inl ((release_suffix run).subset hs)

theorem cases_of_map_eq {α β : Type} {f : α → β} {x y : Option α} (h : x.map f = y.map f) :
    (x = none ∧ y = none) ∨ ∃ a b, x = some a ∧ y = some b ∧ f a = f b := by
  cases x with
  | none => exact .inl ⟨rfl, Option.map_eq_none_iff.mp h.symm⟩
  | some a =>
    obtain ⟨b, there, same⟩ := Option.map_eq_some_iff.mp h.symm
    exact .inr ⟨a, b, rfl, there, same.symm⟩

/-- How tightly an operator binds, and to which side it groups. -/
def Operator.binding (op : Operator) : Nat × Associativity :=
  (op.precedence, op.associativity)

/-- A symbol is an operator in both configurations or in neither, and binds alike. -/
def Config.BindsAlike (config other : Config) (s : Symbol) : Prop :=
  (config.operators.find? s).map Operator.binding = (other.operators.find? s).map Operator.binding

section Alike

variable {other : Config}

theorem Operator.yieldsTo_congr {top top' incoming incoming' : Operator}
    (tops : top.binding = top'.binding) (arriving : incoming.binding = incoming'.binding) :
    top.yieldsTo incoming = top'.yieldsTo incoming' := by
  obtain ⟨precedence, associativity⟩ := Prod.mk.inj arriving
  rw [yieldsTo, yieldsTo, (Prod.mk.inj tops).1, precedence, associativity]

theorem release_congr {incoming : Symbol} (arriving : config.BindsAlike other incoming)
    (waiting : ∀ s, .operator s ∈ stack → config.BindsAlike other s) :
    release config incoming stack = release other incoming stack := by
  induction stack with
  | nil => rfl
  | cons top stack ih =>
    cases top with
    | barrier => rfl
    | operator top =>
      have below := ih fun s hs => waiting s (List.mem_cons_of_mem _ hs)
      rcases cases_of_map_eq (waiting top List.mem_cons_self) with ⟨here, there⟩ | ⟨op, op', here, there, tops⟩
      · rw [release, release, here, there]
      · rcases cases_of_map_eq arriving with ⟨here', there'⟩ | ⟨new, new', here', there', news⟩
        · rw [release, release, here, there, here', there']
        · rw [release, release, here, there, here', there']
          simp only [Operator.yieldsTo_congr tops news, below]

/-- Runs only ask how the operators bind that wait or are read. -/
theorem reorderFrom_congr (waiting : ∀ s, .operator s ∈ stack → config.BindsAlike other s)
    (read : ∀ s, .operator s ∈ tokens → config.BindsAlike other s) :
    reorderFrom config stack tokens = reorderFrom other stack tokens := by
  induction tokens generalizing stack with
  | nil => rfl
  | cons token tokens ih =>
    have shunted : shunt config stack token = shunt other stack token := by
      cases token with
      | operator s => rw [shunt, shunt, release_congr (read s List.mem_cons_self) waiting]
      | operand o => rfl
      | opening => rfl
      | closing => rfl
    rw [reorderFrom_cons, reorderFrom_cons, ← shunted]
    cases run : shunt config stack token with
    | error e => rfl
    | ok result =>
      obtain ⟨released, later⟩ := result
      have waiting' : ∀ s, .operator s ∈ later → config.BindsAlike other s := by
        intro s hs
        rcases mem_of_mem_shunt run hs with hs | rfl
        · exact waiting s hs
        · exact read s List.mem_cons_self
      simp only [ih waiting' fun s hs => read s (List.mem_cons_of_mem _ hs)]

end Alike

/-! ## A barrier hides what lies under it -/

section Frame

variable {own own' below : List Waiting} {incoming : Symbol} {token : Token}

theorem release_frame (h : release config incoming own = .ok (out, own')) :
    release config incoming (own ++ .barrier :: below) = .ok (out, own' ++ .barrier :: below) := by
  fun_induction release config incoming own generalizing out own' with
  | case1 top stack unregistered =>
    cases h
    simp [release, unregistered]
  | case2 => cases h
  | case3 top stack waiting registered arriving known yields released rest run ih =>
    cases h
    simp [release, registered, known, yields, ih run]
  | case4 => cases h
  | case5 top stack waiting registered arriving known holds =>
    cases h
    simp [release, registered, known, holds]
  | case6 stack bottom =>
    cases h
    cases stack with
    | nil => rfl
    | cons top stack =>
      cases top with
      | barrier => rfl
      | operator s => exact absurd rfl (bottom s stack)

theorem releaseGroup_frame (h : releaseGroup own = .ok (out, own')) :
    releaseGroup (own ++ .barrier :: below) = .ok (out, own' ++ .barrier :: below) := by
  fun_induction releaseGroup own generalizing out own' with
  | case1 => cases h
  | case2 stack =>
    cases h
    rfl
  | case3 top stack released rest run ih =>
    cases h
    simp [releaseGroup, ih run]
  | case4 => cases h

/-- A stack that can be emptied is, above a barrier, the whole of a group. -/
theorem releaseGroup_of_releaseAll (h : releaseAll own = .ok out) :
    releaseGroup (own ++ .barrier :: below) = .ok (out, below) := by
  fun_induction releaseAll own generalizing out with
  | case1 =>
    cases h
    rfl
  | case2 => cases h
  | case3 top stack released run ih =>
    cases h
    simp [releaseGroup, ih run]
  | case4 => cases h

theorem shunt_frame (h : shunt config own token = .ok (out, own')) :
    shunt config (own ++ .barrier :: below) token = .ok (out, own' ++ .barrier :: below) := by
  cases token with
  | operand o => cases h; rfl
  | opening => cases h; rfl
  | closing => exact releaseGroup_frame h
  | operator s =>
    simp only [shunt] at h ⊢
    cases run : release config s own with
    | error e => simp [run] at h
    | ok result =>
      obtain ⟨released, rest⟩ := result
      simp only [run, Except.ok.injEq, Prod.mk.injEq] at h
      obtain ⟨rfl, rfl⟩ := h
      rw [release_frame run]
      rfl

/-- A run does not see what lies under a barrier. -/
theorem shuntAll_frame (h : shuntAll config own tokens = .ok (out, own')) :
    shuntAll config (own ++ .barrier :: below) tokens = .ok (out, own' ++ .barrier :: below) := by
  induction tokens generalizing own out with
  | nil => cases h; rfl
  | cons token tokens ih =>
    obtain ⟨released, between, rest, first, others, rfl⟩ := exists_of_shuntAll_cons h
    rw [shuntAll_cons (shunt_frame first), ih others]
    rfl

end Frame

/-- Between parentheses, tokens that can be reordered act as one operand. -/
theorem shuntAll_group (h : reorder config tokens = .ok out) (stack : List Waiting) :
    shuntAll config stack (.opening :: tokens ++ [.closing]) = .ok (out, stack) := by
  obtain ⟨released, own, rest, run, ended, rfl⟩ := shuntAll_of_reorderFrom h
  have opened : shunt config stack .opening = .ok ([], .barrier :: stack) := rfl
  have inside : shuntAll config (.barrier :: stack) tokens = .ok (released, own ++ .barrier :: stack) :=
    shuntAll_frame run
  have closed : shunt config (own ++ .barrier :: stack) .closing = .ok (rest, stack) :=
    releaseGroup_of_releaseAll ended
  rw [List.cons_append, shuntAll_cons opened, shuntAll_append inside, shuntAll_cons closed]
  simp [shuntAll, Except.map]

end Abacus
