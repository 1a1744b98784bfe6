/-
Paths: where a file is, and what its name says about it.

A path is read from text leniently: repeated slashes count once and a component
`.` counts not at all, but `..` is kept.  Exactly two slashes in front are kept
as well.

A suffix of a name is a dot and what follows it up to the next dot.  Dots in
front of a name begin no suffix, and a name that ends in a dot has none.
-/
import Abacus.Text.Pieces
import Abacus.Text.Quoted

namespace Abacus

open Abacus.Text

/-- Where a path starts. -/
inductive Root where
  | relative
  | absolute
  | doubled
deriving DecidableEq, Repr

/-- What stands in front of the components. -/
def Root.text : Root → String
  | relative => ""
  | absolute => "/"
  | doubled => "//"

/-- The start of a path that is given as text. -/
def Root.ofText (text : List Char) : Root :=
  match (text.takeWhile (· = '/')).length with
  | 0 => relative
  | 2 => doubled
  | _ => absolute

/-- The text can be a component of a path. -/
def isComponent (text : List Char) : Bool :=
  !text.isEmpty && text != ['.'] && !text.contains '/'

/-- A start and the components that lead on from it. -/
structure Path where
  root : Root
  components : List String
  components_plain : ∀ c ∈ components, isComponent c.toList = true

/-! ## Names and suffixes -/

/-- The last suffix of a name, empty when there is none. -/
def lastSuffix (name : List Char) : List Char :=
  let reversed := name.reverse
  let tail := reversed.takeWhile (· ≠ '.')
  match tail, reversed.dropWhile (· ≠ '.') with
  | _ :: _, dot :: _ :: _ => dot :: tail.reverse
  | _, _ => []

/-- All suffixes of a name. -/
def suffixes (name : List Char) : List (List Char) :=
  if name.getLast? = some '.' then []
  else (pieces '.' (name.dropWhile (· = '.'))).tail.map ('.' :: ·)

/-- A dot is shown as an underscore. -/
def underscored (c : Char) : Char :=
  if c = '.' then '_' else c

/-- The name of the results file for a file of a given name: the dots of the
suffixes become underscores. -/
def resultsName (name : List Char) : List Char :=
  let tail := (suffixes name).flatten
  name.take (name.length - tail.length) ++ tail.map underscored ++ "_results.txt".toList

theorem mem_of_mem_suffixes {name : List Char} {c : Char} (h : c ∈ (suffixes name).flatten) :
    c = '.' ∨ c ∈ name := by
  obtain ⟨s, hs, hc⟩ := List.mem_flatten.mp h
  unfold suffixes at hs
  split at hs
  · simp at hs
  · obtain ⟨piece, hp, rfl⟩ := List.mem_map.mp hs
    rcases List.mem_cons.mp hc with rfl | hc
    · exact .inl rfl
    · exact .inr ((List.dropWhile_sublist _).subset (mem_of_mem_pieces (List.mem_of_mem_tail hp) hc))

theorem isComponent_resultsName {name : List Char} (h : isComponent name = true) :
    isComponent (resultsName name) = true := by
  have hn : '/' ∉ name := by
    simp [isComponent] at h
    exact h.2
  have hs : '/' ∉ resultsName name := by
    intro hm
    rcases List.mem_append.mp hm with hm | hm
    · rcases List.mem_append.mp hm with hm | hm
      · exact hn (List.mem_of_mem_take hm)
      · obtain ⟨c, hc, he⟩ := List.mem_map.mp hm
        unfold underscored at he
        split at he
        · exact absurd he (by decide)
        · subst he
          rcases mem_of_mem_suffixes hc with h | h
          · exact absurd h (by decide)
          · exact hn h
    · exact absurd hm (by decide)
  have hl : 12 ≤ (resultsName name).length := by
    simp only [resultsName, List.length_append]
    have : "_results.txt".toList.length = 12 := by decide
    omega
  simp only [isComponent, Bool.and_eq_true, Bool.not_eq_true', bne_iff_ne, ne_eq]
  refine ⟨⟨?_, ?_⟩, by simpa using hs⟩
  · cases hr : resultsName name with
    | nil => simp [hr] at hl
    | cons _ _ => rfl
  · intro he
    simp [he] at hl

namespace Path

def ofText (text : String) : Path where
  root := .ofText text.toList
  components := ((pieces '/' text.toList).filter isComponent).map String.ofList
  components_plain := by
    intro c hc
    obtain ⟨piece, hp, rfl⟩ := List.mem_map.mp hc
    simpa using (List.mem_filter.mp hp).2

def text (p : Path) : String :=
  let whole := p.root.text ++ "/".intercalate p.components
  if whole.isEmpty then "." else whole

def name? (p : Path) : Option String :=
  p.components.getLast?

/-- The last component, or no text. -/
def name (p : Path) : List Char :=
  (p.name?.getD "").toList

/-- The path with another last component. -/
def withName (p : Path) (name : String) (h : isComponent name.toList = true) : Path where
  root := p.root
  components := p.components.dropLast ++ [name]
  components_plain := by
    intro c hc
    rcases List.mem_append.mp hc with hc | hc
    · exact p.components_plain c (List.dropLast_subset _ hc)
    · rw [List.mem_singleton.mp hc]
      exact h

structure EmptyName where
  path : Path

def EmptyName.message (e : EmptyName) : String :=
  s!"PosixPath({quoted e.path.text}) has an empty name"

/-- The path of the results file, which stands next to the file itself. -/
def results (p : Path) : Except EmptyName Path :=
  match h : p.name? with
  | none => .error ⟨p⟩
  | some name =>
    .ok <| p.withName (String.ofList (resultsName name.toList)) <| by
      have : isComponent name.toList = true :=
        p.components_plain name (List.mem_of_getLast? h)
      simpa using isComponent_resultsName this

theorem exists_results_of_name {p : Path} (named : p.name ≠ []) : ∃ results, p.results = .ok results := by
  unfold Path.results
  split
  next none =>
    rw [name, none] at named
    exact absurd rfl named
  next => exact ⟨_, rfl⟩

end Path

end Abacus
