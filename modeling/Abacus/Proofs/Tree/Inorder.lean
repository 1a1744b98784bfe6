/-
# A tree reads as its phrase

Read with every operator between its two operands, the tree of a phrase gives the
phrase back, but for the parentheses:

    p.tree config = some t  →  t.inorder = Token.unparenthesized p.tokens

Which operator binds weakest is no matter: wherever a chain is split, what stands left of
the split is read before it and what stands right of it behind (`Chain.inorder_treeFrom`).
So precedence and associativity decide the shape of the tree alone, and neither the order of
its leaves nor that of its operators.
-/
import Abacus.Proofs.Postfix.Permutation
import Abacus.Sentence

namespace Abacus

variable {config : Config}

/-- The tokens of a tree, every operator between those of its two operands. -/
def Tree.inorder : Tree → List Token
  | leaf o => [.operand o]
  | branch s l r => l.inorder ++ .operator s :: r.inorder

/-! ## Chains -/

/-- The tokens of trees with a symbol in front of each. -/
def Chain.inorderRest (rest : List (Symbol × Tree)) : List Token :=
  rest.flatMap fun (s, t) => .operator s :: t.inorder

theorem Chain.inorderRest_cons (s : Symbol) (t : Tree) (rest : List (Symbol × Tree)) :
    inorderRest ((s, t) :: rest) = .operator s :: (t.inorder ++ inorderRest rest) :=
  rfl

theorem Chain.inorderRest_append (front back : List (Symbol × Tree)) :
    inorderRest (front ++ back) = inorderRest front ++ inorderRest back :=
  List.flatMap_append

theorem Chain.treeFrom_cases {first t : Tree} {rest : List (Symbol × Tree)}
    (h : treeFrom config first rest = some t) :
    rest = [] ∧ t = first ∨ ∃ before s next after left right, rest = before ++ (s, next) :: after ∧
      treeFrom config first before = some left ∧ treeFrom config next after = some right ∧
      t = .branch s left right := by
  rw [treeFrom] at h
  split at h
  next empty =>
    cases h
    exact .inl ⟨List.isEmpty_iff.mp empty, rfl⟩
  next =>
    split at h
    next => cases h
    next i _ =>
      split at h
      next => cases h
      next s next present =>
        split at h
        next left right hleft hright =>
          cases h
          obtain ⟨inside, found⟩ := List.getElem?_eq_some_iff.mp present
          refine .inr ⟨rest.take i, s, next, rest.drop (i + 1), left, right, ?_, hleft, hright, rfl⟩
          rw [← found, List.getElem_cons_drop, List.take_append_drop]
        next => cases h

theorem Chain.inorder_treeFrom {first t : Tree} {rest : List (Symbol × Tree)}
    (h : treeFrom config first rest = some t) : t.inorder = first.inorder ++ inorderRest rest := by
  induction n : rest.length using Nat.strongRecOn generalizing first t rest with
  | ind n ih =>
    rcases treeFrom_cases h with ⟨rfl, rfl⟩ | ⟨before, s, next, after, left, right, rfl, hleft, hright, rfl⟩
    · rw [inorderRest, List.flatMap_nil, List.append_nil]
    · rw [List.length_append, List.length_cons] at n
      rw [Tree.inorder, ih before.length (by omega) hleft rfl, ih after.length (by omega) hright rfl,
        inorderRest_append, inorderRest_cons, List.append_assoc]

/-! ## Phrases -/

theorem Token.unparenthesized_group (tokens rest : List Token) :
    unparenthesized (.opening :: tokens ++ .closing :: rest) =
      unparenthesized tokens ++ unparenthesized rest := by
  rw [List.cons_append, unparenthesized, List.filter_cons, List.filter_append, List.filter_cons]
  rfl

theorem Phrase.inorder_chain {p : Phrase} {c : Chain} (h : p.chain config = some c) :
    c.first.inorder ++ Chain.inorderRest c.rest = Token.unparenthesized p.tokens := by
  induction p generalizing c with
  | operand o =>
    cases h
    rfl
  | group inner ih =>
    rw [chain] at h
    split at h
    next t tree =>
      cases h
      obtain ⟨ci, inside, tree⟩ := Option.bind_eq_some_iff.mp tree
      rw [tokens, Token.unparenthesized_group, ← ih inside, Chain.inorder_treeFrom tree]
      rfl
    next => cases h
  | operandThen o s rest ih =>
    obtain ⟨cr, behind, rfl⟩ := Option.map_eq_some_iff.mp h
    rw [Chain.inorderRest_cons, ih behind]
    rfl
  | groupThen inner s rest ihi ihr =>
    rw [chain] at h
    split at h
    next t cr tree behind =>
      cases h
      obtain ⟨ci, inside, tree⟩ := Option.bind_eq_some_iff.mp tree
      rw [tokens, Token.unparenthesized_group, ← ihi inside, Chain.inorder_treeFrom tree,
        Chain.inorderRest_cons, ihr behind]
      rfl
    next => cases h

/-- The tree of a phrase reads as the phrase without parentheses. -/
theorem Phrase.inorder_tree {p : Phrase} {t : Tree} (h : p.tree config = some t) :
    t.inorder = Token.unparenthesized p.tokens := by
  obtain ⟨c, chain, tree⟩ := Option.bind_eq_some_iff.mp h
  rw [Chain.inorder_treeFrom tree, inorder_chain chain]

end Abacus
