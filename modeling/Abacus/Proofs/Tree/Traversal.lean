/-
# A walk ends, and comes by every node once

The walk keeps a stack of stops and goes on as long as there is one.  A round takes the
top stop off (`Tree.round`):

| the stop | what is visited | what is put on the stack |
| :-- | :-- | :-- |
| a leaf | the leaf | nothing |
| a branch to be opened | nothing | its subtrees, the left one on top, and itself as opened |
| an opened branch | the branch | nothing |

So a round may leave a higher stack than it found, and that there is an end is an induction
on the tree and not on the stack: whatever lies below, a tree on top is used up in
`3 * size / 2` rounds, which visit its nodes in post-order (`Rounds.tree`).  A node occurs in
a tree as often as there are places that lead to equal subtrees, so that each is visited
once is said of the places (`Tree.places`).

The printer follows the walk with a stack of its own.  When it comes to a branch the two
parts on top are the texts of its subtrees (`exists_printParts_before`), and of the whole
walk one part is left.
-/
import Abacus.Proofs.Tree.Printed
import Mathlib.Data.List.Nodup

namespace Abacus

namespace Tree

variable {t : Tree} {stack between last : List Stop} {seen more : List Tree} {n m : Nat}

/-! ## Rounds -/

/-- One round of a walk: the node it visits, if it visits one, and the stack that it leaves. -/
def round : List Stop → Option (Option Tree × List Stop)
  | [] => none
  | ⟨leaf o, _⟩ :: stack => some (some (leaf o), stack)
  | ⟨branch s l r, true⟩ :: stack => some (some (branch s l r), stack)
  | ⟨branch s l r, false⟩ :: stack =>
    some (none, ⟨l, false⟩ :: ⟨r, false⟩ :: ⟨branch s l r, true⟩ :: stack)

/-- So many rounds lead from a stack to another one and visit these nodes. -/
inductive Rounds : Nat → List Stop → List Tree → List Stop → Prop
  | done (stack : List Stop) : Rounds 0 stack [] stack
  | visit {n : Nat} {stack between last : List Stop} {node : Tree} {seen : List Tree} :
      round stack = some (some node, between) → Rounds n between seen last →
        Rounds (n + 1) stack (node :: seen) last
  | descend {n : Nat} {stack between last : List Stop} {seen : List Tree} :
      round stack = some (none, between) → Rounds n between seen last →
        Rounds (n + 1) stack seen last

theorem walkFrom_of_round {visited : Option Tree} (h : round stack = some (visited, between)) :
    walkFrom stack = visited.toList ++ walkFrom between := by
  unfold round at h
  split at h
  next => cases h
  next => cases h; rw [walkFrom]; rfl
  next => cases h; rw [walkFrom]; rfl
  next => cases h; rw [walkFrom]; rfl

namespace Rounds

theorem walkFrom_eq (h : Rounds n stack seen last) : walkFrom stack = seen ++ walkFrom last := by
  induction h with
  | done stack => rfl
  | visit taken _ ih => rw [walkFrom_of_round taken, ih]; rfl
  | descend taken _ ih => rw [walkFrom_of_round taken, ih]; rfl

theorem trans (h : Rounds n stack seen between) (h' : Rounds m between more last) :
    Rounds (n + m) stack (seen ++ more) last := by
  induction h with
  | done stack => rwa [Nat.zero_add]
  | visit taken _ ih =>
    rw [Nat.add_right_comm]
    exact visit taken (ih h')
  | descend taken _ ih =>
    rw [Nat.add_right_comm]
    exact descend taken (ih h')

/-- A tree that is to be opened is used up, whatever lies below it. -/
theorem tree (t : Tree) (stack : List Stop) :
    ∃ n, 2 * n + 1 = 3 * t.size ∧ Rounds n (⟨t, false⟩ :: stack) t.nodes stack := by
  induction t generalizing stack with
  | leaf o => exact ⟨1, rfl, visit rfl (done stack)⟩
  | branch s l r ihl ihr =>
    obtain ⟨n, left, onLeft⟩ := ihl (⟨r, false⟩ :: ⟨branch s l r, true⟩ :: stack)
    obtain ⟨m, right, onRight⟩ := ihr (⟨branch s l r, true⟩ :: stack)
    have atRoot : Rounds 1 (⟨branch s l r, true⟩ :: stack) [branch s l r] stack := visit rfl (done stack)
    refine ⟨n + m + 1 + 1, by rw [size]; omega, ?_⟩
    exact descend rfl ((onLeft.trans onRight).trans atRoot)

end Rounds

/-! ## Places -/

/-- A subtree of a branch. -/
inductive Side where
  | left
  | right
deriving DecidableEq

/-- The subtree that a place leads down to. -/
def subtreeAt? : Tree → List Side → Option Tree
  | t, [] => some t
  | leaf _, _ :: _ => none
  | branch _ l _, .left :: place => l.subtreeAt? place
  | branch _ _ r, .right :: place => r.subtreeAt? place

/-- The places of all nodes, in post-order. -/
def places : Tree → List (List Side)
  | leaf _ => [[]]
  | branch _ l r => l.places.map (.left :: ·) ++ r.places.map (.right :: ·) ++ [[]]

theorem map_subtreeAt?_places (t : Tree) : t.places.map t.subtreeAt? = t.nodes.map some := by
  induction t with
  | leaf o => rfl
  | branch s l r ihl ihr =>
    have left : (subtreeAt? (branch s l r) ∘ (Side.left :: ·)) = l.subtreeAt? := rfl
    have right : (subtreeAt? (branch s l r) ∘ (Side.right :: ·)) = r.subtreeAt? := rfl
    rw [places, nodes, List.map_append, List.map_append, List.map_append, List.map_append,
      List.map_map, List.map_map, left, right, ihl, ihr]
    rfl

theorem mem_places_iff {place : List Side} : place ∈ t.places ↔ (t.subtreeAt? place).isSome = true := by
  induction t generalizing place with
  | leaf o => cases place <;> simp [places, subtreeAt?]
  | branch s l r ihl ihr =>
    cases place with
    | nil => simp [places, subtreeAt?]
    | cons side place => cases side <;> simp [places, subtreeAt?, ihl, ihr]

theorem nodup_places (t : Tree) : t.places.Nodup := by
  induction t with
  | leaf o => exact List.nodup_singleton _
  | branch s l r ihl ihr =>
    have left : (l.places.map (Side.left :: ·)).Nodup := ihl.map List.cons_injective
    have right : (r.places.map (Side.right :: ·)).Nodup := ihr.map List.cons_injective
    rw [places, List.nodup_append', List.nodup_append']
    refine ⟨⟨left, right, ?apart⟩, List.nodup_singleton _, ?below⟩
    case apart => simp [List.disjoint_left]
    case below => simp

/-! ## The printer keeps step -/

theorem printParts_walk (t : Tree) : printParts [] t.walk = some [t.rendering] := by
  have printed := t.printParts_nodes [] []
  rwa [List.append_nil, ← walk_eq_nodes] at printed

theorem cut_append {α : Type} {xs ys before after : List α} {x : α} (h : xs ++ ys = before ++ x :: after) :
    (∃ rest, xs = before ++ x :: rest) ∨ ∃ rest, before = xs ++ rest ∧ ys = rest ++ x :: after := by
  obtain ⟨rest, front, back⟩ | ⟨rest, front, back⟩ := List.append_eq_append_iff.mp h
  · exact .inr ⟨rest, front, back⟩
  · cases rest with
    | nil => exact .inr ⟨[], by simpa using front.symm, by simpa using back.symm⟩
    | cons y rest =>
      obtain ⟨rfl, -⟩ := List.cons.inj back
      exact .inl ⟨rest, front⟩

/-- In front of a branch the nodes leave the texts of its subtrees on top, the right one first. -/
theorem exists_printParts_before {before after : List Tree} {s : Symbol} {l r : Tree}
    (h : t.nodes = before ++ branch s l r :: after) (parts : List String) :
    ∃ others, printParts parts before = some (r.rendering :: l.rendering :: others) := by
  induction t generalizing before after parts with
  | leaf o =>
    obtain ⟨-, one⟩ | ⟨-, one⟩ := List.singleton_eq_append_iff.mp h
    · cases one
    · cases one
  | branch s' l' r' ihl ihr =>
    rw [nodes, List.append_assoc] at h
    obtain ⟨rest, inLeft⟩ | ⟨behindLeft, rfl, later⟩ := cut_append h
    · exact ihl inLeft parts
    obtain ⟨rest, inRight⟩ | ⟨behind, rfl, root⟩ := cut_append later
    · rw [printParts_nodes]
      exact ihr inRight (l'.rendering :: parts)
    · -- both subtrees are printed, and it is the root itself that comes next
      obtain ⟨rfl, same⟩ : behind = [] ∧ branch s l r = branch s' l' r' := by
        obtain ⟨none, one⟩ | ⟨-, one⟩ := List.singleton_eq_append_iff.mp root
        · exact ⟨none, (List.cons.inj one).1⟩
        · cases one
      cases same
      rw [List.append_nil, printParts_nodes, ← List.append_nil r.nodes, printParts_nodes]
      exact ⟨parts, rfl⟩

/-! ## The whole walk -/

/-- A tree is walked: the walk ends, it visits the tree in post-order, every node once, and
the printer that follows it never lacks a part and is left with the text of the tree. -/
structure IsWalked (t : Tree) : Prop where
  /-- Three rounds for two nodes use up the stack. -/
  ends : ∃ rounds, 2 * rounds + 1 = 3 * t.size ∧ Rounds rounds [⟨t, false⟩] t.walk []
  /-- What is visited is the left subtree, the right one and the root. -/
  postorder : t.walk = t.nodes
  /-- Each place of the tree is visited once, and nothing else. -/
  once : t.places.Nodup ∧ (∀ place, place ∈ t.places ↔ (t.subtreeAt? place).isSome = true) ∧
    t.walk.map some = t.places.map t.subtreeAt?
  /-- A branch finds the texts of its subtrees when its turn comes. -/
  parts : ∀ before s l r after, t.walk = before ++ branch s l r :: after →
    ∃ others, printParts [] before = some (r.rendering :: l.rendering :: others)
  /-- One part is left at the end, which is what is printed. -/
  whole : printParts [] t.walk = some [t.rendering]
  text : t.text = t.rendering

theorem isWalked (t : Tree) : t.IsWalked where
  ends := by
    obtain ⟨rounds, counted, through⟩ := Rounds.tree t []
    have visited : t.walk = t.nodes := by
      rw [walk, through.walkFrom_eq, walkFrom, List.append_nil]
    exact ⟨rounds, counted, by rwa [visited]⟩
  postorder := t.walk_eq_nodes
  once := ⟨t.nodup_places, fun _ => mem_places_iff, by rw [t.walk_eq_nodes, map_subtreeAt?_places]⟩
  parts := by
    intro before s l r after cut
    rw [walk_eq_nodes] at cut
    exact exists_printParts_before cut []
  whole := t.printParts_walk
  text := t.text_eq_rendering

end Tree

end Abacus
