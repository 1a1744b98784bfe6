/-
# A group acts as one operand

What stands between two parentheses that match is reordered by itself: whatever
waits on the stack when the group opens, waits there when it has closed, and in
between only the tokens of the group came out.

    reorder (front ( inside ) back)  =  reorder (front v back), with v replaced by reorder inside

That holds of all tokens whose parentheses match on their own, whether or not they
are a sentence, and in front and behind anything may stand, parentheses without
counterpart among it: the two runs then fail alike.

The barrier that the group puts on the stack is what hides the stack from it
(`shuntAll_group`), and a barrier is no operator, so that no configuration can have
it let go.  The induction is on the tokens around the groups, of which there may be
several (`reorderFrom_replace`).
-/
import Abacus.Proofs.Postfix.Verdict
import Abacus.Proofs.Tree.Graft

namespace Abacus

open Token (replace)

variable {config : Config}

/-! ## Groups in the place of an operand -/

theorem reorderFrom_replace {inner out : List Token} (h : reorder config inner = .ok out)
    (o : Operand) (stack : List Waiting) (tokens : List Token) :
    reorderFrom config stack (replace o (.opening :: inner ++ [.closing]) tokens) =
      (reorderFrom config stack tokens).map (replace o out) := by
  induction tokens generalizing stack with
  | nil =>
    rw [Token.replace_nil, reorderFrom]
    cases run : releaseAll stack with
    | error e => rfl
    | ok released => rw [Except.map, Token.replace_of_notMem (operand_notMem_releaseAll run)]
  | cons token tokens ih =>
    by_cases same : token = .operand o
    · subst same
      rw [Token.replace_cons_self, reorderFrom_append (shuntAll_group h stack), ih]
      simp only [reorderFrom_cons, shunt]
      cases reorderFrom config stack tokens <;> simp [Except.map]
    · rw [Token.replace_cons_of_ne same, reorderFrom_cons, reorderFrom_cons]
      cases first : shunt config stack token with
      | error e => rfl
      | ok result =>
        obtain ⟨released, between⟩ := result
        simp only [ih]
        cases reorderFrom config between tokens with
        | error e => rfl
        | ok rest =>
          simp [Except.map, Token.replace_append, Token.replace_of_notMem (operand_notMem_shunt first same)]

theorem reorder_replace {inner out : List Token} (h : reorder config inner = .ok out)
    (o : Operand) (tokens : List Token) :
    reorder config (replace o (.opening :: inner ++ [.closing]) tokens) =
      (reorder config tokens).map (replace o out) :=
  reorderFrom_replace h o [] tokens

/-! ## One group -/

section Group

variable {front inside back : List Token} {o : Operand}

theorem replace_only (fresh : .operand o ∉ front ++ back) (others : List Token) :
    replace o others (front ++ .operand o :: back) = front ++ others ++ back := by
  rw [List.mem_append, not_or] at fresh
  rw [Token.replace_append, Token.replace_cons_self, Token.replace_of_notMem fresh.1,
    Token.replace_of_notMem fresh.2, List.append_assoc]

theorem count_operand_of_reorder {tokens out : List Token} (h : reorder config tokens = .ok out) (o : Operand) :
    out.count (.operand o) = tokens.count (.operand o) := by
  rw [(reorder_perm h).count_eq, Token.unparenthesized, List.count_filter rfl]

theorem exists_place_of_reorder {out : List Token} (fresh : .operand o ∉ front ++ back)
    (h : reorder config (front ++ .operand o :: back) = .ok out) :
    ∃ before after, out = before ++ .operand o :: after ∧ .operand o ∉ before ++ after := by
  have once : out.count (.operand o) = 1 := by
    have none := List.count_eq_zero.mpr fresh
    rw [List.count_append] at none
    rw [count_operand_of_reorder h, List.count_append, List.count_cons_self]
    omega
  obtain ⟨before, after, rfl⟩ :=
    List.append_of_mem (List.count_pos_iff.mp (Nat.lt_of_lt_of_eq Nat.zero_lt_one once.symm))
  refine ⟨before, after, rfl, List.count_eq_zero.mp ?_⟩
  rw [List.count_append, List.count_cons_self] at once
  rw [List.count_append]
  omega

/-- Tokens between parentheses that match do what a fresh operand does in their
place, and come out where it would: all of them, one after the other. -/
theorem reorder_group (config : Config)
    (registered : ∀ s, Token.operator s ∈ inside → config.operators.contains s = true)
    (balanced : Token.Balanced inside) (fresh : .operand o ∉ front ++ back) :
    ∃ group, reorder config inside = .ok group ∧
      (∀ e, reorder config (front ++ .opening :: inside ++ .closing :: back) = .error e ↔
        reorder config (front ++ .operand o :: back) = .error e) ∧
      ∀ out, reorder config (front ++ .operand o :: back) = .ok out →
        ∃ before after, out = before ++ .operand o :: after ∧ .operand o ∉ before ++ after ∧
          reorder config (front ++ .opening :: inside ++ .closing :: back) =
            .ok (before ++ group ++ after) := by
  obtain ⟨group, run⟩ := (reorder_balanced registered).1.mpr balanced
  have grouped : reorder config (front ++ .opening :: inside ++ .closing :: back) =
      (reorder config (front ++ .operand o :: back)).map (replace o group) := by
    rw [← reorder_replace run, replace_only fresh]
    simp
  refine ⟨group, run, ?_, ?_⟩
  · intro e
    rw [grouped]
    cases reorder config (front ++ .operand o :: back) <;> simp [Except.map]
  · intro out whole
    obtain ⟨before, after, rfl, other⟩ := exists_place_of_reorder fresh whole
    refine ⟨before, after, rfl, other, ?_⟩
    rw [grouped, whole, Except.map, replace_only other]

/-- The tokens of `x^(` and of `-y)`, between which a group is inside another one. -/
def openFront : List Token :=
  [.operand (.name ⟨"x", List.cons_ne_nil 'x' []⟩), .operator Config.caret.1, .opening]

def closeBack : List Token :=
  [.operator Config.minus.1, .operand (.name ⟨"y", List.cons_ne_nil 'y' []⟩), .closing]

theorem reorder_group_strayTokens :
    let v : Operand := .name ⟨"v", by decide⟩
    (∀ s, Token.operator s ∈ strayTokens → Config.standard.operators.contains s = true) ∧
      Token.Balanced strayTokens ∧ .operand v ∉ openFront ++ closeBack ∧
      ∃ group, reorder .standard strayTokens = .ok group ∧
        (∀ e, reorder .standard (openFront ++ .opening :: strayTokens ++ .closing :: closeBack) = .error e ↔
          reorder .standard (openFront ++ .operand v :: closeBack) = .error e) ∧
        ∀ out, reorder .standard (openFront ++ .operand v :: closeBack) = .ok out →
          ∃ before after, out = before ++ .operand v :: after ∧ .operand v ∉ before ++ after ∧
            reorder .standard (openFront ++ .opening :: strayTokens ++ .closing :: closeBack) =
              .ok (before ++ group ++ after) := by
  intro v
  have balanced : Token.Balanced strayTokens := by
    rw [← Token.mismatch_eq_none_iff]
    rfl
  have fresh : .operand v ∉ openFront ++ closeBack := by decide
  exact ⟨registered_strayTokens, balanced, fresh,
    reorder_group .standard registered_strayTokens balanced fresh⟩

end Group

end Abacus
