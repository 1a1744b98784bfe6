/-
# Trees and their tokens

A tree has one list of tokens, in which every operator follows its two operands,
and building reads exactly these lists:

    build tokens = .ok t  ↔  tokens = t.tokens

From left to right (`build_tokens`) the statement to prove by induction on the
tree is about a tree in front of other tokens and inside open frames: its tokens
are read off from the end and leave what the whole tree, settled into the frames,
leaves.  From right to left (`tokens_of_build`) the induction is on the tokens;
what it keeps is that the tokens not yet read, followed by those of the open
frames, are always the same list.
-/
import Abacus.Tree.Build
import Abacus.Tree.Meaning

namespace Abacus

namespace Tree

theorem tokens_eq_postorder (t : Tree) : t.tokens = t.postorder := by
  rw [tokens, walk_eq_nodes, postorder]

@[simp] theorem tokens_leaf (o : Operand) : (leaf o).tokens = [.operand o] := by
  rw [tokens_eq_postorder]
  rfl

@[simp] theorem tokens_branch (s : Symbol) (l r : Tree) :
    (branch s l r).tokens = l.tokens ++ r.tokens ++ [.operator s] := by
  simp only [tokens_eq_postorder, postorder, nodes, List.map_append, List.map_cons, List.map_nil]
  rfl

theorem tokens_ne_nil (t : Tree) : t.tokens ≠ [] := by
  cases t with
  | leaf o => rw [tokens_leaf]; exact List.cons_ne_nil _ _
  | branch s l r => rw [tokens_branch]; exact List.append_ne_nil_of_right_ne_nil _ (List.cons_ne_nil _ _)

end Tree

/-! ## Every tree is read back -/

/-- How growing goes on when a tree is settled: the whole is done, or the frames
that are left read on. -/
def growOn (before : List Token) : Tree ⊕ List Frame → Except Malformed (Tree × List Token)
  | .inl whole => .ok (whole, before)
  | .inr frames => grow frames before

theorem grow_operand (o : Operand) (frames : List Frame) (before : List Token) :
    grow frames (.operand o :: before) = growOn before (settle (.leaf o) frames) := by
  rw [grow]
  cases settle (.leaf o) frames <;> rfl

/-- The tokens of a tree, read from the end, do what the whole tree does when it
is settled into the frames around it. -/
theorem grow_tokens (t : Tree) (frames : List Frame) (before : List Token) :
    grow frames (t.tokens.reverse ++ before) = growOn before (settle t frames) := by
  induction t generalizing frames before with
  | leaf o =>
    rw [Tree.tokens_leaf, List.reverse_singleton, List.singleton_append, grow_operand]
  | branch s l r ihl ihr =>
    -- the operator opens a frame, which the right subtree fills first
    have opened : (Tree.branch s l r).tokens.reverse ++ before =
        .operator s :: (r.tokens.reverse ++ (l.tokens.reverse ++ before)) := by
      simp
    rw [opened, grow, ihr, settle, growOn, ihl, settle]

theorem build_tokens (t : Tree) : build t.tokens = .ok t := by
  have grown : grow [] t.tokens.reverse = .ok (t, []) := by
    simpa [settle, growOn] using grow_tokens t [] []
  have filled : t.tokens.isEmpty = false := by
    simpa using t.tokens_ne_nil
  simp [build, filled, grown]

/-! ## Only the tokens of a tree are read -/

/-- The tokens that a frame has taken so far. -/
def Frame.tokens : Frame → List Token
  | both s => [.operator s]
  | left s r => r.tokens ++ [.operator s]

theorem tokens_of_settle (t : Tree) (frames : List Frame) :
    Sum.elim Tree.tokens (List.flatMap Frame.tokens) (settle t frames) =
      t.tokens ++ frames.flatMap Frame.tokens := by
  fun_induction settle t frames with
  | case1 t => simp
  | case2 t s frames => simp [Frame.tokens]
  | case3 t s r frames ih => rw [ih]; simp [Frame.tokens]

/-- Nothing is lost or moved while a tree grows. -/
theorem tokens_of_grow {frames : List Frame} {reversed : List Token} {t : Tree} {before : List Token}
    (h : grow frames reversed = .ok (t, before)) :
    before.reverse ++ t.tokens = reversed.reverse ++ frames.flatMap Frame.tokens := by
  fun_induction grow frames reversed with
  | case1 => cases h
  | case2 frames s reversed ih =>
    rw [ih h]
    simp [Frame.tokens]
  | case3 frames o reversed whole settled =>
    cases h
    have taken := tokens_of_settle (.leaf o) frames
    rw [settled, Sum.elim_inl] at taken
    simp [taken]
  | case4 frames o reversed filled settled ih =>
    have taken := tokens_of_settle (.leaf o) frames
    rw [settled, Sum.elim_inr] at taken
    simp [ih h, taken]
  | case5 => cases h

theorem tokens_of_build {tokens : List Token} {t : Tree} (h : build tokens = .ok t) :
    tokens = t.tokens := by
  unfold build at h
  split at h
  · cases h
  · split at h
    · cases h
    · next grown =>
      cases h
      simpa using (tokens_of_grow grown).symm
    · cases h

theorem build_eq_ok_iff {tokens : List Token} {t : Tree} :
    build tokens = .ok t ↔ tokens = t.tokens :=
  ⟨tokens_of_build, fun h => h ▸ build_tokens t⟩

theorem Tree.tokens_injective {t u : Tree} (h : t.tokens = u.tokens) : t = u := by
  have built : build u.tokens = .ok t := h ▸ build_tokens t
  rw [build_tokens] at built
  exact (Except.ok.inj built).symm

/-! ## Building and walking are inverse -/

/-- Tokens are built into the tree whose walk they are, and into none otherwise. -/
theorem build_inverse_walk (tokens : List Token) (t : Tree) :
    (build tokens = .ok t ↔ tokens = t.walk.map Tree.root) ∧
      build (t.walk.map Tree.root) = .ok t ∧
      (∀ u : Tree, u.walk.map Tree.root = t.walk.map Tree.root → u = t) ∧
      ((∃ cause, build tokens = .error cause) ↔ ∀ u : Tree, tokens ≠ u.walk.map Tree.root) := by
  refine ⟨build_eq_ok_iff, build_tokens t, fun u same => Tree.tokens_injective same, ?_⟩
  constructor
  · rintro ⟨cause, failed⟩ u rfl
    have built : build (u.walk.map Tree.root) = .ok u := build_tokens u
    rw [failed] at built
    cases built
  · intro none
    cases built : build tokens with
    | ok u => exact absurd (tokens_of_build built) (none u)
    | error cause => exact ⟨cause, rfl⟩

end Abacus
