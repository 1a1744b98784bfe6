/-
# A results file stands beside its file

The name of a results file is made from the name of the file:

| name | cut where | name of the results |
| :-- | :-- | :-- |
| `ops.tar.xz` | `ops` and `.tar.xz` | `ops_tar_xz_results.txt` |
| `.ops..7z` | `.ops` and `..7z` | `.ops__7z_results.txt` |
| `ops.tar.` | nowhere | `ops.tar._results.txt` |

The suffixes are found by cutting the name at its dots, and are then cut off by their
length alone.  That this cuts at the right place is `take_append_flatten_suffixes`; what
comes of it is said without suffixes, character by character (`undotted`).

The name grows by twelve characters, so no path is the path of its own results, and in no
tree of files do the two lead to one place.  The results are written to no other place than
theirs, so a batch leaves its file as it was (`find?_applyTo_answer`).
-/
import Abacus.Proofs.FileTree
import Abacus.Request

namespace Abacus

open Abacus.Text

/-! ## Names -/

/-- The name with every dot behind its first other character shown as an underscore.  A name
that ends in a dot stays as it is. -/
def undotted (name : List Char) : List Char :=
  if name.getLast? = some '.' then name
  else name.mapIdx fun i c => if (name.take i).any (· ≠ '.') then underscored c else c

theorem length_undotted (name : List Char) : (undotted name).length = name.length := by
  rw [undotted]
  split
  next => rfl
  next => exact List.length_mapIdx

/-- The suffixes of a name that does not end in a dot are the end of it.  In front of them are
dots and then a stem without dots. -/
theorem exists_stem {name : List Char} (h : name.getLast? ≠ some '.') :
    ∃ stem, '.' ∉ stem ∧ name.dropWhile (· = '.') = stem ++ (suffixes name).flatten := by
  obtain ⟨stem, others, cut, free, whole⟩ := exists_pieces '.' (name.dropWhile (· = '.'))
  exact ⟨stem, free, by rw [suffixes, if_neg h, cut, List.tail_cons, ← whole]⟩

theorem underscored_of_ne {c : Char} (h : c ≠ '.') : underscored c = c :=
  if_neg h

theorem map_underscored_of_notMem {text : List Char} (h : '.' ∉ text) : text.map underscored = text := by
  rw [List.map_congr_left fun c member => underscored_of_ne (ne_of_mem_of_not_mem member h), List.map_id']

theorem mapIdx_underscored (name : List Char) :
    (name.mapIdx fun i c => if (name.take i).any (· ≠ '.') then underscored c else c) =
      name.takeWhile (· = '.') ++ (name.dropWhile (· = '.')).map underscored := by
  induction name with
  | nil => rfl
  | cons c name ih =>
    by_cases dot : c = '.'
    · simpa [List.mapIdx_cons, dot] using ih
    · have all : (name.mapIdx fun _ d => underscored d) = name.map underscored := by
        apply List.ext_getElem <;> simp
      simpa [List.mapIdx_cons, dot, underscored_of_ne] using all

theorem take_eq_of_stem {name stem : List Char}
    (rest : name.dropWhile (· = '.') = stem ++ (suffixes name).flatten) :
    name.take (name.length - (suffixes name).flatten.length) = name.takeWhile (· = '.') ++ stem := by
  have cut : ∀ front back : List Char, (front ++ back).take ((front ++ back).length - back.length) = front := by
    simp
  have parts := cut (name.takeWhile (· = '.') ++ stem) (suffixes name).flatten
  rwa [List.append_assoc, ← rest, List.takeWhile_append_dropWhile] at parts

theorem take_append_flatten_suffixes (name : List Char) :
    name.take (name.length - (suffixes name).flatten.length) ++ (suffixes name).flatten = name := by
  by_cases ends : name.getLast? = some '.'
  · simp [suffixes, ends]
  · obtain ⟨stem, -, rest⟩ := exists_stem ends
    rw [take_eq_of_stem rest, List.append_assoc, ← rest, List.takeWhile_append_dropWhile]

theorem resultsName_eq (name : List Char) :
    resultsName name = undotted name ++ "_results.txt".toList := by
  refine congrArg (· ++ "_results.txt".toList) ?_
  by_cases ends : name.getLast? = some '.'
  · simp [suffixes, undotted, ends]
  · obtain ⟨stem, free, rest⟩ := exists_stem ends
    rw [undotted, if_neg ends, mapIdx_underscored, take_eq_of_stem rest, rest, List.map_append,
      map_underscored_of_notMem free, List.append_assoc]

example : resultsName ".ops..7z".toList = ".ops__7z_results.txt".toList := by decide

theorem length_resultsName (name : List Char) : (resultsName name).length = name.length + 12 := by
  rw [resultsName_eq, List.length_append, length_undotted]
  rfl

/-! ## Paths -/

namespace Path

variable {p results : Path}

def parent (p : Path) : Path where
  root := p.root
  components := p.components.dropLast
  components_plain := fun c member => p.components_plain c (List.dropLast_subset _ member)

theorem components_parent (p : Path) : p.parent.components = p.components.dropLast :=
  rfl

theorem results_eq_ok (h : p.results = .ok results) :
    ∃ front last, p.components = front ++ [last] ∧ results.root = p.root ∧
      results.components = front ++ [String.ofList (resultsName last.toList)] := by
  unfold Path.results at h
  split at h
  next => cases h
  next last named =>
    cases h
    obtain ⟨front, whole⟩ := List.getLast?_eq_some_iff.mp named
    refine ⟨front, last, whole, rfl, ?_⟩
    change p.components.dropLast ++ _ = _
    rw [whole, List.dropLast_concat]

theorem ext_components (root : results.root = p.root) (components : results.components = p.components) :
    results = p := by
  cases results
  cases p
  cases root
  cases components
  rfl

theorem name_of_components {front : List String} {last : String} (h : p.components = front ++ [last]) :
    p.name = last.toList := by
  rw [name, name?, h, List.getLast?_concat, Option.getD_some]

end Path

/-! ## Places -/

/-- A file and its results are at two places. -/
theorem FileTree.place?_results_ne {α : Type} {t : FileTree α} {p results : Path} {there : List String}
    (beside : p.results = .ok results) (led : t.place? p = some there) : t.place? results ≠ some there := by
  obtain ⟨front, last, whole, root, named⟩ := Path.results_eq_ok beside
  rw [place?] at led ⊢
  rw [root, named]
  split at led
  next relative =>
    rw [whole] at led
    rw [if_pos relative]
    have longer := length_resultsName last.toList
    refine follow_ne ?down ?apart led
    case down =>
      intro up
      have lengths : _ = 2 := congrArg String.length up
      rw [String.length_ofList, longer] at lengths
      omega
    case apart =>
      intro same
      have lengths := congrArg String.length same
      rw [String.length_ofList, longer, String.length_toList] at lengths
      omega
  next => cases led

/-! ## The batch -/

namespace Request

variable {setting : Setting} {p : Path} {slots : Option (AtLeast 1)} {response : Response}
  {tree : FileTree Content}

theorem file_of_answer_batch (h : answer setting (.batch p slots) = .ok response) :
    response.file = none ∨ ∃ results text, p.results = .ok results ∧
      setting.find? results ≠ some .directory ∧ response.file = some (results, text) := by
  rw [answer, answerBatch] at h
  split at h
  next => cases h
  next results beside =>
    split at h
    next e _ =>
      split at h
      next =>
        cases h
        exact .inl rfl
      next => cases h
    next =>
      split at h
      next => cases h
      next free =>
        dsimp only at h
        split at h
        next => cases h
        next =>
          cases h
          exact .inr ⟨results, _, beside, free, rfl⟩

/-- A file is there as it was when its batch is answered. -/
theorem find?_applyTo_answer {slots : AtLeast 1} {schedule : Schedule} {asked : Option (AtLeast 1)}
    {content : Content} (answered : answer ⟨tree.find?, slots, schedule⟩ (.batch p asked) = .ok response)
    (held : tree.find? p = some (.file content)) :
    (response.applyTo tree).find? p = some (.file content) := by
  rcases file_of_answer_batch answered with nothing | ⟨results, text, beside, free, written⟩
  · rwa [Response.applyTo, nothing]
  · rw [Response.applyTo, written]
    dsimp only
    cases led : tree.place? results with
    | none => exact held
    | some place =>
      have noDirectory : tree.isDirectory place = false := by
        rw [Bool.eq_false_iff, ne_eq, FileTree.isDirectory_iff]
        intro directory
        exact free (Option.bind_eq_some_iff.mpr ⟨place, led, directory⟩)
      have other : tree.place? p ≠ some place := fun same => FileTree.place?_results_ne beside same led
      exact FileTree.find?_write noDirectory other held

end Request

namespace Path

variable {p results : Path}

/-- What the path of its results promises a file. -/
structure NamesResults (p results : Path) : Prop where
  /-- The results stand beside the file. -/
  parent : results.parent = p.parent
  name : results.name = undotted p.name ++ "_results.txt".toList
  /-- The suffixes are the end of the name that is cut off by their length. -/
  tail : p.name.take (p.name.length - (suffixes p.name).flatten.length) ++ (suffixes p.name).flatten = p.name
  ne : results ≠ p
  /-- In no tree do the two lead to one place. -/
  apart : ∀ (tree : FileTree Content) place, tree.place? p = some place → tree.place? results ≠ some place
  /-- Whatever a batch for the file answers, the file is there as it was. -/
  kept : ∀ (tree : FileTree Content) slots schedule asked response content,
    Request.answer ⟨tree.find?, slots, schedule⟩ (.batch p asked) = .ok response →
      tree.find? p = some (.file content) → (response.applyTo tree).find? p = some (.file content)

/-- Every path with a name has results, and their path keeps its promises. -/
theorem exists_namesResults (p : Path) (named : p.name ≠ []) :
    ∃ results, p.results = .ok results ∧ p.NamesResults results := by
  obtain ⟨results, beside⟩ := exists_results_of_name named
  obtain ⟨front, last, whole, root, components⟩ := results_eq_ok beside
  have name : results.name = resultsName p.name := by
    rw [name_of_components components, name_of_components whole, String.toList_ofList]
  refine ⟨results, beside, ?_⟩
  exact {
    parent := by
      refine ext_components root ?_
      rw [components_parent, components_parent, components, whole, List.dropLast_concat, List.dropLast_concat]
    name := by rw [name, resultsName_eq]
    tail := take_append_flatten_suffixes p.name
    ne := by
      rintro rfl
      have lengths := congrArg List.length name
      rw [length_resultsName] at lengths
      omega
    apart := fun tree place led => FileTree.place?_results_ne beside led
    kept := fun tree slots schedule asked response content answered held =>
      Request.find?_applyTo_answer answered held }

/-- The results of a batch that was itself given a hidden file: `.ops__7z_results.txt`. -/
def hiddenResults : Path := ⟨.relative, ["..", ".ops__7z_results.txt"], by decide⟩

theorem exists_namesResults_hiddenResults :
    hiddenResults.name ≠ [] ∧
      (hiddenResults.results.map text).toOption = some "../.ops__7z_results_txt_results.txt" ∧
      ∃ results, hiddenResults.results = .ok results ∧ hiddenResults.NamesResults results :=
  ⟨by decide, by rfl, exists_namesResults hiddenResults (by decide)⟩

end Path

end Abacus
