/-
Trees of files, and how a path leads through one.

A tree lists its files and directories by their components, seen from the place
where relative paths start; the directories above an entry are there with it.  A
path is followed one component at a time: `..` leads one up, every step starts
in a directory, and nothing is known about what lies outside the tree.
-/
import Abacus.Path

namespace Abacus

inductive Entry (α : Type) where
  | file (content : α)
  | directory

/-- Entries by their places.  Of two entries for one place the later counts. -/
structure FileTree (α : Type) where
  entries : List (List String × Entry α)

namespace FileTree

variable {α : Type}

/-- The place is above one that has an entry. -/
def isAbove (t : FileTree α) (place : List String) : Bool :=
  t.entries.any fun entry => place.isPrefixOf entry.1 && entry.1 != place

def entryAt? (t : FileTree α) (place : List String) : Option (Entry α) :=
  match t.entries.reverse.find? fun entry => entry.1 == place with
  | some (_, entry) => some entry
  | none => if place.isEmpty || t.isAbove place then some .directory else none

def isDirectory (t : FileTree α) (place : List String) : Bool :=
  match t.entryAt? place with
  | some .directory => true
  | _ => false

/-- The place that components lead to from a directory, if they lead through
directories of the tree. -/
def follow (t : FileTree α) (place : List String) : List String → Option (List String)
  | [] => some place
  | step :: rest =>
    if !t.isDirectory place then none
    else if step = ".." then if place.isEmpty then none else t.follow place.dropLast rest
    else t.follow (place ++ [step]) rest

def place? (t : FileTree α) (path : Path) : Option (List String) :=
  if path.root = .relative then t.follow [] path.components else none

def find? (t : FileTree α) (path : Path) : Option (Entry α) :=
  (t.place? path).bind t.entryAt?

/-- The tree with a file more, or one replaced. -/
def write (t : FileTree α) (place : List String) (content : α) : FileTree α :=
  ⟨t.entries ++ [(place, .file content)]⟩

/-- The files of the tree, each place once. -/
def files (t : FileTree α) : List (List String × α) :=
  (t.entries.map Prod.fst).eraseDups.filterMap fun place =>
    match t.entryAt? place with
    | some (.file content) => some (place, content)
    | _ => none

end FileTree

end Abacus
