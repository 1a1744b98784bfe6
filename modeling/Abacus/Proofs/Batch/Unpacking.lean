/-
# A text behind an archive

From an archive the first member with the name of a text is taken.  Its name is used
three times:

| | which member it means |
| :-- | :-- |
| among the members | the first whose name ends in `.txt` |
| for unpacking | in a zip archive the last of that name |
| for reading | the file at that name, seen from the place of unpacking |

Unpacking leaves out of a name whatever would lead out of the place, and reading does not.
So the text is found where the name stays inside (`Path.StaysInside`), and only there
(`FileTree.find?_single_eq_file_iff`): each `..` that is left out makes the place that the
name leads to shorter than the place of the file.

    reading the archive = reading the member by itself

holds just when the name stays inside, and the last member of that name reads as the
first one does (`Source.read_zip_eq_iff`).
-/
import Abacus.Proofs.Batch.Results
import Mathlib.Data.List.Count

namespace Abacus

open Abacus.Text

/-! ## A tree with one file -/

namespace FileTree

variable {α : Type} {t : FileTree α} {here there place reached steps : List String} {content : α}

/-- The tree with one file, and the directories above it. -/
def single (place : List String) (content : α) : FileTree α :=
  ⟨[(place, .file content)]⟩

theorem entryAt?_single : (single place content).entryAt? there =
    if place = there then some (.file content) else if there <+: place then some .directory else none := by
  unfold entryAt? single isAbove
  by_cases same : place = there
  · simp [same]
  · cases there with
    | nil => simp [same]
    | cons step rest => simp [same]

theorem isDirectory_single (above : there <+: place) (other : place ≠ there) :
    (single place content).isDirectory there = true := by
  rw [isDirectory, entryAt?_single, if_neg other, if_pos above]

theorem follow_single (here : List String) (inside : ".." ∉ steps) :
    (single (here ++ steps) content).follow here steps = some (here ++ steps) := by
  induction steps generalizing here with
  | nil => rw [follow, List.append_nil]
  | cons step steps ih =>
    obtain ⟨down, later⟩ := not_or.mp (mt List.mem_cons.mpr inside)
    have above : (single (here ++ step :: steps) content).isDirectory here = true :=
      isDirectory_single (List.prefix_append here _) (by simp)
    rw [follow, above, if_neg (Ne.symm down), List.append_cons]
    exact ih _ later

/-- A step up takes back what another step has added. -/
theorem length_of_follow (h : t.follow here steps = some reached) :
    reached.length + steps.count ".." = here.length + (steps.filter (· ≠ "..")).length := by
  induction steps generalizing here with
  | nil =>
    rw [follow] at h
    cases h
    simp
  | cons step steps ih =>
    rw [follow] at h
    split at h
    next => cases h
    next =>
      split at h
      next up =>
        subst up
        split at h
        next => cases h
        next below =>
          have back := ih h
          have filled : 0 < here.length := List.length_pos_iff.mpr (by simpa using below)
          rw [List.length_dropLast] at back
          rw [List.count_cons_self, List.filter_cons_of_neg (by simp)]
          omega
      next down =>
        have on := ih h
        rw [List.length_append, List.length_singleton] at on
        rw [List.count_cons_of_ne down, List.filter_cons_of_pos (by simpa using down), List.length_cons]
        omega

end FileTree

/-- Nothing on the path leads out of where it starts. -/
structure Path.StaysInside (p : Path) : Prop where
  relative : p.root = .relative
  never_up : ".." ∉ p.components

instance (p : Path) : Decidable p.StaysInside :=
  decidable_of_iff (p.root = .relative ∧ ".." ∉ p.components) ⟨fun h => ⟨h.1, h.2⟩, fun h => ⟨h.1, h.2⟩⟩

/-- A file that was put where all that leads out is left out is found by its path just when
nothing on the path leads out. -/
theorem FileTree.find?_single_eq_file_iff {α : Type} {p : Path} {content found : α} :
    (single (p.components.filter (· ≠ "..")) content).find? p = some (.file found) ↔
      p.StaysInside ∧ found = content := by
  rw [find?, place?]
  constructor
  · intro h
    split at h
    next relative =>
      obtain ⟨reached, followed, there⟩ := Option.bind_eq_some_iff.mp h
      rw [entryAt?_single] at there
      split at there
      next same =>
        cases there
        refine ⟨⟨relative, ?_⟩, rfl⟩
        have lengths := length_of_follow followed
        rw [← same, List.length_nil] at lengths
        exact List.count_eq_zero.mp (by omega)
      next => split at there <;> cases there
    next => cases h
  · rintro ⟨inside, rfl⟩
    have kept : p.components.filter (· ≠ "..") = p.components := by
      rw [List.filter_eq_self]
      intro step member
      exact decide_eq_true fun up => inside.never_up (up ▸ member)
    have arrives : (single p.components found).follow [] p.components = some p.components :=
      follow_single [] inside.never_up
    rw [if_pos inside.relative, kept, arrives, Option.bind_some, entryAt?_single, if_pos rfl]

/-! ## The member that is read -/

namespace Archive

variable {members : List Member} {m last : Member}

/-- The member is the last of its name among those that are stored. -/
def IsLastOfName (members : List Member) (name : String) (last : Member) : Prop :=
  ∃ before after, members = before ++ last :: after ∧ last.name = name ∧ ∀ n ∈ after, n.name ≠ name

theorem isLastOfName_iff {name : String} :
    IsLastOfName members name last ↔ members.reverse.find? (·.name == name) = some last := by
  rw [List.find?_eq_some_iff_append, IsLastOfName]
  constructor
  · rintro ⟨before, after, rfl, named, fresh⟩
    refine ⟨by simpa using named, after.reverse, before.reverse, by simp, ?_⟩
    intro n member
    simpa using fresh n (List.mem_reverse.mp member)
  · rintro ⟨named, front, behind, reversed, fresh⟩
    refine ⟨behind.reverse, front.reverse, ?_, by simpa using named, ?_⟩
    · rw [← members.reverse_reverse, reversed]
      simp
    · intro n member
      simpa using fresh n (List.mem_reverse.mp member)

end Archive

namespace Source

open Archive

variable {path : Path} {format : Format} {members : List Member} {m last : Member} {text : List Char}
  {bytes : List UInt8}

theorem unpackedContent_zip (isLast : IsLastOfName members m.name last) :
    unpackedContent .zip members m = last.content := by
  rw [unpackedContent, isLastOfName_iff.mp isLast]
  rfl

theorem exists_isLastOfName (member : m ∈ members) : ∃ last, IsLastOfName members m.name last := by
  have found : (members.reverse.find? (·.name == m.name)).isSome = true := by
    rw [List.find?_isSome]
    exact ⟨m, List.mem_reverse.mpr member, beq_self_eq_true m.name⟩
  obtain ⟨last, found⟩ := Option.isSome_iff_exists.mp found
  exact ⟨last, isLastOfName_iff.mpr found⟩

theorem readMembers_eq (first : members.find? Member.isText = some m) :
    readMembers path format members =
      readPlain
        ((FileTree.single (unpackedAt m.name) (unpackedContent format members m)).find? (.ofText m.name)) := by
  rw [readMembers, first]
  rfl

theorem readMembers_of_staysInside (first : members.find? Member.isText = some m)
    (inside : (Path.ofText m.name).StaysInside) :
    readMembers path format members = decode (unpackedContent format members m) := by
  have found := FileTree.find?_single_eq_file_iff.mpr ⟨inside, Eq.refl (unpackedContent format members m)⟩
  rw [readMembers_eq first, unpackedAt, found, readPlain]

/-- A member whose name leads out is not found, or a directory is found in its place. -/
theorem readMembers_of_leadsOut (path : Path) (format : Format) (first : members.find? Member.isText = some m)
    (leadsOut : ¬(Path.ofText m.name).StaysInside) :
    readMembers path format members = .error .directory ∨ readMembers path format members = .error .notFound := by
  rw [readMembers_eq first, unpackedAt]
  cases there : FileTree.find? _ (Path.ofText m.name) with
  | none => exact .inr rfl
  | some entry =>
    cases entry with
    | file bytes => exact absurd (FileTree.find?_single_eq_file_iff.mp there).1 leadsOut
    | directory => exact .inl rfl

/-! ## Behind an archive and by itself -/

theorem ofName?_zip {name : List Char} (zipped : lastSuffix name = ".zip".toList) :
    ofName? name = some (.archive .zip) := by
  rw [ofName?, zipped, if_neg (by simp), if_pos rfl]

theorem read_zip (zipped : lastSuffix path.name = ".zip".toList) :
    read path (some (.file (.archive .zip members bytes))) = readMembers path .zip members := by
  rw [read, ofName?_zip zipped]
  dsimp only
  rw [readArchive, if_pos rfl]

/-- A zip archive is read as its first text by itself just when the name of that member
stays inside, and the last member of the name reads as the first one does. -/
theorem read_zip_eq_iff {zipPath textPath : Path} (zipped : lastSuffix zipPath.name = ".zip".toList)
    (plain : lastSuffix textPath.name = ".txt".toList) (first : members.find? Member.isText = some m)
    (decoded : decodeUtf8 m.content = .ok text) :
    read zipPath (some (.file (.archive .zip members bytes))) =
        read textPath (some (.file (.bytes m.content))) ↔
      (Path.ofText m.name).StaysInside ∧
        ∀ last, IsLastOfName members m.name last → decode last.content = decode m.content := by
  rw [read_zip zipped, read_plain plain]
  constructor
  · intro same
    have inside : (Path.ofText m.name).StaysInside := by
      by_contra leadsOut
      rw [decode, decoded] at same
      rcases readMembers_of_leadsOut zipPath .zip first leadsOut with missed | missed
      · cases missed.symm.trans same
      · cases missed.symm.trans same
    refine ⟨inside, ?_⟩
    intro last isLast
    rw [← same, readMembers_of_staysInside first inside, unpackedContent_zip isLast]
  · rintro ⟨inside, same⟩
    obtain ⟨last, isLast⟩ := exists_isLastOfName (List.mem_of_find?_eq_some first)
    rw [readMembers_of_staysInside first inside, unpackedContent_zip isLast, same last isLast]

/-- The text `a.txt` between a member that is no text and a deeper one. -/
def oneText : List Member := [⟨"a.bin", [0xff]⟩, ⟨"d/./a.txt", [0x31]⟩, ⟨"d/a.txt", [0x32]⟩]

theorem read_zip_eq_iff_oneText :
    let zipPath : Path := .ofText "a.zip"
    let textPath : Path := .ofText "a.txt"
    let m : Member := ⟨"d/./a.txt", [0x31]⟩
    lastSuffix zipPath.name = ".zip".toList ∧ lastSuffix textPath.name = ".txt".toList ∧
      oneText.find? Member.isText = some m ∧ decodeUtf8 m.content = .ok ['1'] ∧
      ∀ bytes, read zipPath (some (.file (.archive .zip oneText bytes))) =
        read textPath (some (.file (.bytes m.content))) := by
  intro zipPath textPath m
  have zipped : lastSuffix zipPath.name = ".zip".toList := by decide
  have plain : lastSuffix textPath.name = ".txt".toList := by decide
  have first : oneText.find? Member.isText = some m := by rfl
  have decoded : decodeUtf8 m.content = .ok ['1'] := by
    simp [m, decodeUtf8, decodeFrom, Lead.ofByte?, readContinuations]
  refine ⟨zipped, plain, first, decoded, fun _ => (read_zip_eq_iff zipped plain first decoded).mpr ⟨?_, ?_⟩⟩
  · decide
  · intro last isLast
    obtain rfl : m = last := by
      have found := isLastOfName_iff.mp isLast
      exact Option.some.inj found
    rfl

/-- Two texts of one name. -/
def sameName : List Member := [⟨"a.txt", [0x31]⟩, ⟨"a.txt", [0x32]⟩]

/-- Of two members of one name the second is read. -/
theorem read_zip_sameName :
    let zipPath : Path := .ofText "a.zip"
    let textPath : Path := .ofText "a.txt"
    let m : Member := ⟨"a.txt", [0x31]⟩
    sameName.find? Member.isText = some m ∧ decodeUtf8 m.content = .ok ['1'] ∧
      ∀ bytes, read zipPath (some (.file (.archive .zip sameName bytes))) ≠
        read textPath (some (.file (.bytes m.content))) := by
  intro zipPath textPath m
  have decoded : decodeUtf8 m.content = .ok ['1'] := by
    simp [m, decodeUtf8, decodeFrom, Lead.ofByte?, readContinuations]
  have first : decode m.content = .ok ['1'] := by
    rw [decode, decoded]
    rfl
  have second : decode [0x32] = .ok ['2'] := by
    simp [decode, decodeUtf8, decodeFrom, Lead.ofByte?, readContinuations, unifyBreaks]
  have taken : readMembers zipPath .zip sameName = decode [0x32] :=
    readMembers_of_staysInside (m := m) (by rfl) (by decide)
  refine ⟨by rfl, decoded, fun bytes => ?_⟩
  rw [read_zip (by decide), read_plain (by decide), taken, first, second]
  simp

end Source

end Abacus
