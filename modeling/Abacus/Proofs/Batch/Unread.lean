/-
# Files that cannot be read

A batch for a file that cannot be read is meant to say so: it returns the status 1, reports
why, and leaves the files alone.  It does for every failure that has a wording
(`ReadError.message?`), and not all have one.

| | has a wording |
| :-- | :-- |
| the bytes are no text, in the file or in the member | yes |
| the name has no suffix by which a file is read | yes |
| no member has the name of a text | yes |
| the file is no archive of the format that its name says | no |
| the name of the member leads out of where it is unpacked | no |

So the promise is kept for a file when its name says that it is no archive, or it is one and
the name of the text in it stays inside (`Source.Unpacks`).  What is read has an answer with
the status 0, unless a directory has the name of the results file
(`Exit.answersFile_iff`).
-/
import Abacus.Exit
import Abacus.Proofs.Batch.Unpacking

namespace Abacus

open Abacus.Text

namespace Source

open Archive

variable {path : Path} {format : Format} {members : List Member} {content : Content} {e : ReadError}

/-- If the name of the file says that it is an archive, it is one, and the name of the text
in it stays inside. -/
def Unpacks (path : Path) (content : Content) : Prop :=
  ∀ format, ofName? path.name = some (.archive format) →
    ∃ members bytes, content = .archive format members bytes ∧
      ∀ m, members.find? Member.isText = some m → (Path.ofText m.name).StaysInside

/-! ## Failures that have a wording -/

theorem isSome_message?_of_decode {bytes : List UInt8} (failed : decode bytes = .error e) :
    e.message?.isSome = true := by
  unfold decode at failed
  split at failed
  next => cases failed
  next =>
    cases failed
    rfl

theorem readMembers_reported_iff :
    (∀ e, readMembers path format members = .error e → e.message?.isSome = true) ↔
      ∀ m, members.find? Member.isText = some m → (Path.ofText m.name).StaysInside := by
  constructor
  · intro reported m first
    by_contra leadsOut
    rcases readMembers_of_leadsOut path format first leadsOut with failed | failed
    · cases reported _ failed
    · cases reported _ failed
  · intro inside e failed
    cases first : members.find? Member.isText with
    | none =>
      rw [readMembers, first] at failed
      cases failed
      rfl
    | some m =>
      rw [readMembers_of_staysInside first (inside m first)] at failed
      exact isSome_message?_of_decode failed

theorem readArchive_eq (path : Path) (format : Format) (content : Content) :
    (∃ members bytes, content = .archive format members bytes ∧
        readArchive path format (some (.file content)) = readMembers path format members) ∨
      (∀ members bytes, content ≠ .archive format members bytes) ∧
        readArchive path format (some (.file content)) = .error (.damaged format) := by
  cases content with
  | bytes bytes => exact .inr ⟨fun _ _ => nofun, rfl⟩
  | archive actual members bytes =>
    by_cases same : actual = format
    · subst same
      exact .inl ⟨members, bytes, rfl, by rw [readArchive, if_pos rfl]⟩
    · refine .inr ⟨?_, by rw [readArchive, if_neg same]⟩
      intro members' bytes' equal
      cases equal
      exact same rfl

theorem read_reported_iff :
    (∀ e, read path (some (.file content)) = .error e → e.message?.isSome = true) ↔ Unpacks path content := by
  rw [read, Unpacks]
  cases named : ofName? path.name with
  | none => simp [ReadError.message?]
  | some source =>
    cases source with
    | plain =>
      refine iff_of_true ?_ ?_
      · intro e failed
        cases content with
        | bytes bytes => exact isSome_message?_of_decode failed
        | archive actual members bytes => exact isSome_message?_of_decode failed
      · intro format same
        cases same
    | archive format =>
      simp only [Option.some.injEq, Source.archive.injEq, forall_eq']
      rcases readArchive_eq path format content with ⟨members, bytes, rfl, unpacked⟩ | ⟨other, damaged⟩
      · simp [unpacked, readMembers_reported_iff]
      · simp [damaged, other, ReadError.message?]

theorem load_eq_error_iff {found : Option (Entry Content)} :
    load path found = .error e ↔ read path found = .error e := by
  rw [load]
  cases read path found <;> simp [Except.map]

theorem isBlankText_of_mem_load {found : Option (Entry Content)} {expressions : List String}
    (loaded : load path found = .ok expressions) : ∀ e ∈ expressions, isBlankText e.toList = false := by
  rw [load] at loaded
  cases text : read path found with
  | error e =>
    rw [text] at loaded
    cases loaded
  | ok text' =>
    rw [text] at loaded
    cases loaded
    exact fun e member => (isOneLine_of_mem_expressions member).2

end Source

/-! ## Answers of a batch -/

namespace Request

variable {setting : Setting} {path results : Path} {slots : Option (AtLeast 1)}
  {expressions : List String} {e : ReadError}

theorem answer_batch_unread (beside : path.results = .ok results)
    (unread : Source.load path (setting.find? path) = .error e) :
    answer setting (.batch path slots) =
      match e.message? with
      | some message => .ok (.fail message)
      | none => .error (.read e) := by
  rewrite [answer, answerBatch, beside, unread]
  rfl

theorem exists_answer_batch (beside : path.results = .ok results)
    (loaded : Source.load path (setting.find? path) = .ok expressions)
    (free : setting.find? results ≠ some .directory) (slots : Option (AtLeast 1)) :
    ∃ response, answer setting (.batch path slots) = .ok response ∧ response.status = 0 := by
  rw [answer, answerBatch, beside, loaded]
  dsimp only
  split
  next directory => exact absurd directory free
  next =>
    rw [Batch.outcomes_run (batchOf setting slots) setting.schedule (Source.isBlankText_of_mem_load loaded)]
    exact ⟨_, rfl, rfl⟩

end Request

/-! ## What is promised of a file -/

/-- The program returns the status 0 or 1.  If the file is not read it returns 1, reports the
wording of the failure and leaves the files as they are. -/
structure Exit.AnswersFile (exit : Exit) (loaded : Except ReadError (List String)) : Prop where
  returned : ∃ response, exit = .returned response ∧ (response.status = 0 ∨ response.status = 1)
  unread : ∀ e, loaded = .error e → ∃ message response, e.message? = some message ∧
    exit = .returned response ∧ response.status = 1 ∧ response.errors = s!"error: {message}\n" ∧
      ∀ tree, response.applyTo tree = tree

namespace Exit

variable {setting : Setting} {arguments : List String} {path results : Path}
  {slots : Option (AtLeast 1)} {content : Content} {e : ReadError}

theorem answersFile_fail {message : String} (worded : e.message? = some message) :
    (returned (.fail message)).AnswersFile (.error e) where
  returned := ⟨_, rfl, .inr rfl⟩
  unread := by
    intro e' same
    cases same
    exact ⟨message, _, worded, rfl, rfl, rfl, fun tree => rfl⟩

theorem not_answersFile_crashed (crash : Crash) (loaded : Except ReadError (List String)) :
    ¬(crashed crash).AnswersFile loaded := by
  rintro ⟨⟨response, same, -⟩, -⟩
  cases same

/-- The promise is kept for a file just when every failure to read it has a wording, and the
results of a file that is read can be written. -/
theorem answersFile_iff (made : Request.ofArguments setting.find? arguments = .ok (.batch path slots))
    (held : setting.find? path = some (.file content)) (beside : path.results = .ok results) :
    (ofArguments setting arguments).AnswersFile (Source.load path (setting.find? path)) ↔
      Source.Unpacks path content ∧
        ((∃ expressions, Source.load path (setting.find? path) = .ok expressions) →
          setting.find? results ≠ some .directory) := by
  have reported : Source.Unpacks path content ↔
      ∀ e, Source.load path (setting.find? path) = .error e → e.message?.isSome = true := by
    simp only [Source.load_eq_error_iff, held, Source.read_reported_iff]
  rw [ofArguments, made, reported]
  dsimp only
  cases loaded : Source.load path (setting.find? path) with
  | error e =>
    rw [Request.answer_batch_unread beside loaded]
    cases worded : e.message? with
    | none =>
      refine iff_of_false (not_answersFile_crashed _ _) ?_
      rintro ⟨each, -⟩
      cases worded ▸ each e rfl
    | some message =>
      refine iff_of_true (answersFile_fail worded) ⟨?_, ?_⟩
      · intro e' same
        cases same
        exact Option.isSome_of_eq_some worded
      · rintro ⟨expressions, same⟩
        cases same
  | ok expressions =>
    by_cases directory : setting.find? results = some .directory
    · rw [Request.answer_batch_of_directory beside loaded directory]
      refine iff_of_false (not_answersFile_crashed _ _) ?_
      rintro ⟨-, free⟩
      exact free ⟨expressions, rfl⟩ directory
    · obtain ⟨response, answered, status⟩ := Request.exists_answer_batch beside loaded directory slots
      rw [answered]
      refine iff_of_true ⟨⟨response, rfl, .inl status⟩, ?_⟩ ⟨?_, fun _ => directory⟩
      · intro e same
        cases same
      · intro e same
        cases same

theorem find?_settingOf (found : Option (Entry Content)) (path : Path) : (settingOf found path).find? path = found :=
  if_pos rfl

/-- The archive without members, which is an end record alone. -/
def noText : Content := .archive .zip [] ([0x50, 0x4b, 0x05, 0x06] ++ List.replicate 18 0)

theorem answersFile_iff_noText :
    let path : Path := .ofText "a.zip"
    let setting := settingOf (some (.file noText)) path
    Request.ofArguments setting.find? ["batch", "a.zip"] = .ok (.batch path none) ∧
      setting.find? path = some (.file noText) ∧ path.results = .ok (.ofText "a_zip_results.txt") ∧
      (ofArguments setting ["batch", "a.zip"]).AnswersFile (Source.load path (setting.find? path)) := by
  intro path setting
  have made : Request.ofArguments setting.find? ["batch", "a.zip"] = .ok (.batch path none) := by rfl
  have held : setting.find? path = some (.file noText) := find?_settingOf _ path
  have beside : path.results = .ok (.ofText "a_zip_results.txt") := by rfl
  refine ⟨made, held, beside, (answersFile_iff made held beside).mpr ⟨?_, ?_⟩⟩
  · intro format named
    have zipped : lastSuffix path.name = ".zip".toList := by decide
    cases (Source.ofName?_zip zipped).symm.trans named
    refine ⟨_, _, rfl, ?_⟩
    intro m first
    cases first
  · intro _ occupied
    cases occupied

/-- A file that is no archive is not answered if its name says that it is one. -/
theorem not_answersFile_damaged :
    let path : Path := .ofText "a.zip"
    let setting := settingOf (some (.file (.bytes [0x78]))) path
    Request.ofArguments setting.find? ["batch", "a.zip"] = .ok (.batch path none) ∧
      setting.find? path = some (.file (.bytes [0x78])) ∧
      ofArguments setting ["batch", "a.zip"] = .crashed (.read (.damaged .zip)) ∧
      ¬(ofArguments setting ["batch", "a.zip"]).AnswersFile (Source.load path (setting.find? path)) := by
  intro path setting
  have ends : ofArguments setting ["batch", "a.zip"] = .crashed (.read (.damaged .zip)) := by rfl
  refine ⟨by rfl, find?_settingOf _ path, ends, ?_⟩
  rw [ends]
  exact not_answersFile_crashed _ _

end Exit

end Abacus
