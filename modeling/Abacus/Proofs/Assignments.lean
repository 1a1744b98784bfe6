/-
# Which assignments of a command line count

Variables are given to an evaluation one by one, each behind an option of its own:

    eval EXPRESSION -v NAME=VALUE -v NAME=VALUE …

Their form is looked at one by one.  What they say is gathered in a table first, where
a later mention of a name replaces the value and keeps the place, and only the table is
checked.  So of several mentions of a name the last one counts, and the value of the
others is never read:

| | must have a name and an equals sign | must have a value that is a number |
| :-- | :-- | :-- |
| the last mention of a name | yes | yes |
| any other mention | yes | no |

Hence the arguments are accepted when each of them has the form of an assignment
(`assignedName?_eq_some_iff`) and each last mention would be accepted alone
(`accepts_assigning_iff`).  That every mention would be accepted alone is more than is
asked for (`accepts_assigning_overridden`).
-/
import Abacus.Command
import Abacus.Proofs.Arguments
import Abacus.Proofs.Config.Steps
import Mathlib.Data.List.Induction

namespace Abacus

open Abacus.Text

/-! ## Tables of pairs -/

section Pairs

variable {κ ν : Type} [DecidableEq κ] {pairs : List (κ × ν)} {k : κ} {v : ν}

theorem Table.lookup_eq_some_iff {entries : List (κ × ν)} (distinct : (entries.map Prod.fst).Nodup) :
    lookup k entries = some v ↔ (k, v) ∈ entries := by
  induction entries with
  | nil => simp [lookup]
  | cons entry rest ih =>
    obtain ⟨key, value⟩ := entry
    obtain ⟨fresh, others⟩ := List.nodup_cons.mp distinct
    rw [lookup, List.mem_cons, ← ih others]
    split
    next same =>
      subst same
      have absent : lookup key rest ≠ some v := fun found => fresh (mem_keys_of_lookup found)
      simp [absent, eq_comm]
    next other => simp [Ne.symm other]

theorem Table.mem_toList_iff {t : Table κ ν} : (k, v) ∈ t.toList ↔ t.find? k = some v :=
  (lookup_eq_some_iff t.keys_nodup).symm

theorem Table.ofList_append_singleton (pairs : List (κ × ν)) (pair : κ × ν) :
    ofList (pairs ++ [pair]) = (ofList pairs).insert pair.1 pair.2 := by
  rw [ofList, List.foldl_append]
  rfl

theorem Table.keys_ofList (pairs : List (κ × ν)) : (ofList pairs).keys = (pairs.map Prod.fst).eraseDups := by
  induction pairs using List.reverseRecOn with
  | nil => rfl
  | append_singleton pairs pair ih =>
    rw [ofList_append_singleton, keys_insert, ih, List.map_append, List.eraseDups_append]
    by_cases known : pair.1 ∈ pairs.map Prod.fst
    · simp [List.removeAll, known]
    · simp [List.removeAll, known, List.eraseDups_cons]

/-- Under a key stands the value of the last pair that has it. -/
theorem Table.mem_toList_ofList : (k, v) ∈ (ofList pairs).toList ↔
    ∃ before after, pairs = before ++ (k, v) :: after ∧ k ∉ after.map Prod.fst := by
  rw [mem_toList_iff]
  induction pairs using List.reverseRecOn with
  | nil => simp [ofList]
  | append_singleton pairs pair ih =>
    obtain ⟨key, value⟩ := pair
    rw [ofList_append_singleton, find?_insert]
    constructor
    · intro found
      split at found
      next same =>
        cases found
        obtain rfl : key = k := same
        exact ⟨pairs, [], rfl, List.not_mem_nil⟩
      next other =>
        obtain ⟨before, after, rfl, fresh⟩ := ih.mp found
        refine ⟨before, after ++ [(key, value)], by simp, ?_⟩
        rw [List.map_append, List.mem_append, not_or]
        exact ⟨fresh, by simpa using Ne.symm other⟩
    · rintro ⟨before, after, parted, fresh⟩
      rcases List.eq_nil_or_concat' after with rfl | ⟨after, last, rfl⟩
      · obtain ⟨-, same⟩ := List.append_inj' parted rfl
        cases same
        exact if_pos rfl
      · rw [← List.cons_append, ← List.append_assoc] at parted
        obtain ⟨rfl, same⟩ := List.append_inj' parted rfl
        cases same
        rw [List.map_append, List.mem_append, not_or] at fresh
        rw [if_neg fun same => fresh.2 (by simp [← same])]
        exact ih.mpr ⟨before, after, rfl, fresh.1⟩

end Pairs

theorem exists_append_of_forall₂ {β γ : Type} {related : β → γ → Prop} {xs : List β} {ys zs : List γ}
    (beside : List.Forall₂ related xs (ys ++ zs)) :
    ∃ front behind, xs = front ++ behind ∧ List.Forall₂ related front ys ∧ List.Forall₂ related behind zs :=
  ⟨_, _, (List.take_append_drop ys.length xs).symm, List.forall₂_take_append xs ys zs beside,
    List.forall₂_drop_append xs ys zs beside⟩

namespace Command

variable {expression text : String} {texts : List String} {find? : Path → Option (Entry Content)}
  {assignment : String × String} {assignments : List (String × String)}
  {binding : LetteredName × Float} {bindings : List (LetteredName × Float)} {request : Request}

/-! ## Assignments as they are given -/

/-- The arguments that evaluate an expression under some assignments. -/
def assigning (expression : String) (texts : List String) : List String :=
  "eval" :: expression :: Grammar.repeated "-v" texts

/-- The name that an assignment is for, if it has the form of one. -/
def assignedName? (text : String) : Option String :=
  (readAssignment text).toOption.map Prod.fst

/-- The assignment is among some others, and none behind it is for its name. -/
def AssignsLast (texts : List String) (text : String) : Prop :=
  ∃ before after name, texts = before ++ text :: after ∧ assignedName? text = some name ∧
    ∀ later ∈ after, assignedName? later ≠ some name

/-- The arguments make a request. -/
def Accepts (find? : Path → Option (Entry Content)) (arguments : List String) : Prop :=
  ∃ request, Request.ofArguments find? arguments = .ok request

/-- An assignment is a name that is not empty, an equals sign and a value; the blanks around
the name do not belong to it. -/
theorem assignedName?_eq_some_iff {name : String} :
    assignedName? text = some name ↔
      ∃ front value, front ≠ [] ∧ '=' ∉ front ∧ text.toList = front ++ '=' :: value ∧
        name = String.ofList (strip front) := by
  unfold assignedName? readAssignment
  constructor
  · intro named
    split at named
    next c front value parted =>
      cases named
      have fresh := equals_notMem_splitAtEquals text.toList
      rw [parted] at fresh
      exact ⟨c :: front, value.toList, List.cons_ne_nil c front, fresh, append_splitAtEquals parted, rfl⟩
    next => cases named
  · rintro ⟨front, value, filled, fresh, whole, rfl⟩
    obtain ⟨c, front, rfl⟩ := List.exists_cons_of_ne_nil filled
    rw [whole, splitAtEquals_append fresh]
    rfl

theorem AssignsLast.mem (h : AssignsLast texts text) : text ∈ texts := by
  obtain ⟨before, after, -, rfl, -⟩ := h
  exact List.mem_append_right before List.mem_cons_self

theorem assignedName?_of_read (read : readAssignment text = .ok assignment) :
    assignedName? text = some assignment.1 := by
  rw [assignedName?, read]
  rfl

theorem exists_read_iff : (∃ assignment, readAssignment text = .ok assignment) ↔ (assignedName? text).isSome := by
  rw [assignedName?]
  cases readAssignment text with
  | error reason => simp [Except.toOption]
  | ok assignment => simp [Except.toOption]

/-- Assignments beside the texts that they are read from. -/
abbrev Reads (texts : List String) (assignments : List (String × String)) : Prop :=
  List.Forall₂ (fun text assignment => readAssignment text = .ok assignment) texts assignments

theorem Reads.names (reads : Reads texts assignments) :
    texts.filterMap assignedName? = assignments.map Prod.fst := by
  induction reads with
  | nil => rfl
  | cons read _ ih => rw [List.filterMap_cons, assignedName?_of_read read, ih, List.map_cons]

theorem Reads.mem_toList_ofList (reads : Reads texts assignments) :
    assignment ∈ (Table.ofList assignments).toList ↔
      ∃ text, AssignsLast texts text ∧ readAssignment text = .ok assignment := by
  obtain ⟨name, value⟩ := assignment
  -- a name is missing among the assignments just when no text is for it
  have missing {texts : List String} {assignments : List (String × String)} (reads : Reads texts assignments) :
      name ∉ assignments.map Prod.fst ↔ ∀ text ∈ texts, assignedName? text ≠ some name := by
    rw [← reads.names, List.mem_filterMap]
    simp
  rw [Table.mem_toList_ofList]
  constructor
  · rintro ⟨before, after, rfl, fresh⟩
    obtain ⟨front, _, rfl, -, here⟩ := exists_append_of_forall₂ reads
    obtain ⟨text, behind, read, later, rfl⟩ := List.forall₂_cons_right_iff.mp here
    exact ⟨text, ⟨front, behind, name, rfl, assignedName?_of_read read, (missing later).mp fresh⟩, read⟩
  · rintro ⟨text, ⟨front, behind, name', rfl, named, fresh⟩, read⟩
    obtain rfl : name = name' := Option.some.inj ((assignedName?_of_read read).symm.trans named)
    obtain ⟨before, _, rfl, -, here⟩ := exists_append_of_forall₂ reads.flip
    obtain ⟨assignment, after, read', later, rfl⟩ := List.forall₂_cons_right_iff.mp here
    obtain rfl : (name, value) = assignment := Except.ok.inj (read.symm.trans read')
    exact ⟨before, after, rfl, (missing later.flip).mpr fresh⟩

/-! ## From arguments to bindings -/

/-- An assignment is checked by itself: its name is lettered and its value is a number. -/
structure Binds (assignment : String × String) (binding : LetteredName × Float) : Prop where
  name : assignment.1 = binding.1.1
  value : (Value.text assignment.2).toNumber = .ok binding.2

theorem names_of_binds (binds : List.Forall₂ Binds assignments bindings) :
    assignments.map Prod.fst = bindings.map fun binding => binding.1.1 := by
  induction binds with
  | nil => rfl
  | cons bound _ ih => rw [List.map_cons, List.map_cons, bound.name, ih]

theorem checkAssignments_eq_ok_iff :
    checkAssignments assignments = .ok bindings ↔
      List.Forall₂ Binds (Table.ofList assignments).toList bindings := by
  rw [checkAssignments, readTable_eq_ok_iff, List.forall₂_map_left_iff]
  constructor
  · exact List.Forall₂.imp fun _ _ ⟨lettered, converted⟩ => ⟨checkName_eq_ok_iff.mp lettered, converted⟩
  · exact List.Forall₂.imp fun _ _ bound => ⟨checkName_eq_ok_iff.mpr bound.name, bound.value⟩

theorem checkExpression_eq_ok_iff {checked : String} :
    checkExpression expression = .ok checked ↔ expression ≠ "" ∧ checked = expression := by
  unfold checkExpression
  split
  next empty => simp [Checked.refuse, String.isEmpty_iff.mp empty]
  next filled =>
    rw [Except.ok.injEq, eq_comm]
    exact (and_iff_right (fun empty => filled (String.isEmpty_iff.mpr empty))).symm

theorem parse_evaluate {arguments : List String} {command : Command}
    (outer : outerGrammar.parse ("eval" :: arguments) = .ok ([], "eval" :: arguments, [])) :
    parse ("eval" :: arguments) = .ok command ↔
      ∃ assignments taken, evaluateGrammar.parse arguments = .ok (assignments, taken, []) ∧
        command = .evaluate (taken.headD "") assignments := by
  rw [parse_eq_match outer, parseNamed]
  cases evaluateGrammar.parse arguments with
  | error halt => simp [bind, Except.bind]
  | ok result =>
    obtain ⟨assignments, taken, extras⟩ := result
    dsimp only [bind, Except.bind, pure, Except.pure, List.nil_append]
    cases extras with
    | nil => simp [eq_comm]
    | cons extra extras => simp

theorem parse_assigning (plain : ∀ a ∈ expression :: texts, a.toList.head? ≠ some '-') {command : Command} :
    parse (assigning expression texts) = .ok command ↔
      ∃ assignments, Reads texts assignments ∧ command = .evaluate expression assignments := by
  obtain ⟨first, others⟩ := List.forall_mem_cons.mp plain
  -- around the command nothing is known of its options
  have told : outerGrammar.classifyAll (expression :: Grammar.repeated "-v" texts) =
      .ok (.plain expression :: texts.flatMap fun text => [.unknown "-v", .plain text]) :=
    Grammar.classifyAll_cons (Grammar.ne_divider_of_plain first) (Grammar.classify_plain first)
      (Grammar.classifyAll_repeated (by simp) rfl others)
  rw [assigning, parse_evaluate (Grammar.parse_all rfl (by simp) told)]
  have known : evaluateGrammar.classify "-v" =
      .ok (.option ⟨["-v", "--var"], some readAssignment⟩ "-v" none "-v") := by rfl
  simp only [Grammar.parse_repeated_eq_ok_iff (g := evaluateGrammar) rfl first (by simp) known rfl others]
  constructor
  · rintro ⟨assignments, taken, ⟨_, reads, same⟩, rfl⟩
    cases same
    exact ⟨assignments, reads, rfl⟩
  · rintro ⟨assignments, reads, rfl⟩
    exact ⟨assignments, [expression], ⟨assignments, reads, rfl⟩, rfl⟩

theorem check_evaluate_eq_ok_iff {isFile : Path → Bool} :
    check isFile (.evaluate expression assignments) = .ok request ↔
      expression ≠ "" ∧ ∃ bindings, List.Forall₂ Binds (Table.ofList assignments).toList bindings ∧
        request = .evaluate expression bindings := by
  rw [check]
  constructor
  · intro checked
    split at checked
    next _ bindings both =>
      cases checked
      obtain ⟨expressed, bound⟩ := Checked.both_eq_ok_iff.mp both
      obtain ⟨filled, rfl⟩ := checkExpression_eq_ok_iff.mp (Checked.under_eq_ok_iff.mp expressed)
      exact ⟨filled, bindings, checkAssignments_eq_ok_iff.mp (Checked.under_eq_ok_iff.mp bound), rfl⟩
    next => cases checked
  · rintro ⟨filled, bindings, binds, rfl⟩
    rw [Checked.both_eq_ok_iff.mpr
      ⟨Checked.under_eq_ok_iff.mpr (checkExpression_eq_ok_iff.mpr ⟨filled, rfl⟩),
        Checked.under_eq_ok_iff.mpr (checkAssignments_eq_ok_iff.mpr binds)⟩]

theorem ofArguments_assigning_iff (plain : ∀ a ∈ expression :: texts, a.toList.head? ≠ some '-') :
    Request.ofArguments find? (assigning expression texts) = .ok request ↔
      ∃ assignments, Reads texts assignments ∧ expression ≠ "" ∧
        ∃ bindings, List.Forall₂ Binds (Table.ofList assignments).toList bindings ∧
          request = .evaluate expression bindings := by
  rw [Request.ofArguments]
  constructor
  · intro made
    split at made
    next => cases made
    next command parsed =>
      obtain ⟨assignments, reads, rfl⟩ := (parse_assigning plain).mp parsed
      exact ⟨assignments, reads, check_evaluate_eq_ok_iff.mp made⟩
  · rintro ⟨assignments, reads, checked⟩
    rw [(parse_assigning plain).mpr ⟨assignments, reads, rfl⟩]
    exact check_evaluate_eq_ok_iff.mpr checked

/-- One assignment alone stands for itself. -/
theorem ofArguments_assigning_one_iff (find? : Path → Option (Entry Content)) (request : Request)
    (plain : ∀ a ∈ [expression, text], a.toList.head? ≠ some '-') :
    Request.ofArguments find? (assigning expression [text]) = .ok request ↔
      ∃ assignment, readAssignment text = .ok assignment ∧ expression ≠ "" ∧
        ∃ binding, Binds assignment binding ∧ request = .evaluate expression [binding] := by
  rw [ofArguments_assigning_iff plain]
  constructor
  · rintro ⟨assignments, reads, filled, bindings, binds, rfl⟩
    obtain ⟨assignment, _, read, rest, rfl⟩ := List.forall₂_cons_left_iff.mp reads
    obtain rfl := List.forall₂_nil_left_iff.mp rest
    obtain ⟨binding, _, bound, others, rfl⟩ := List.forall₂_cons_left_iff.mp binds
    obtain rfl := List.forall₂_nil_left_iff.mp others
    exact ⟨assignment, read, filled, binding, bound, rfl⟩
  · rintro ⟨assignment, read, filled, binding, bound, rfl⟩
    exact ⟨[assignment], .cons read .nil, filled, [binding], .cons bound .nil, rfl⟩

theorem plain_of_mem (plain : ∀ a ∈ expression :: texts, a.toList.head? ≠ some '-') (member : text ∈ texts) :
    ∀ a ∈ [expression, text], a.toList.head? ≠ some '-' := by
  obtain ⟨first, others⟩ := List.forall_mem_cons.mp plain
  exact List.forall_mem_cons.mpr ⟨first, List.forall_mem_singleton.mpr (others text member)⟩

/-! ## Together and alone -/

theorem exists_assignsLast (given : texts ≠ []) (named : ∀ a ∈ texts, (assignedName? a).isSome) :
    ∃ text, AssignsLast texts text := by
  obtain ⟨name, last⟩ := Option.isSome_iff_exists.mp (named _ (List.getLast_mem given))
  exact ⟨texts.getLast given, texts.dropLast, [], name, (List.dropLast_append_getLast given).symm, last, nofun⟩

theorem exists_binds_iff (reads : Reads texts assignments) :
    (∃ bindings, List.Forall₂ Binds (Table.ofList assignments).toList bindings) ↔
      ∀ a, AssignsLast texts a → ∃ assignment, readAssignment a = .ok assignment ∧
        ∃ binding, Binds assignment binding := by
  rw [exists_forall₂_iff]
  constructor
  · intro bound a last
    obtain ⟨assignment, -, read⟩ := exists_of_mem_forall₂ reads last.mem
    exact ⟨assignment, read, bound assignment (reads.mem_toList_ofList.mpr ⟨a, last, read⟩)⟩
  · intro bound assignment counts
    obtain ⟨a, last, read⟩ := reads.mem_toList_ofList.mp counts
    obtain ⟨_, read', bound⟩ := bound a last
    obtain rfl := Except.ok.inj (read.symm.trans read')
    exact bound

theorem accepts_assigning (plain : ∀ a ∈ expression :: texts, a.toList.head? ≠ some '-') :
    Accepts find? (assigning expression texts) ↔
      (∀ a ∈ texts, (assignedName? a).isSome) ∧ expression ≠ "" ∧
        ∀ a, AssignsLast texts a → ∃ assignment, readAssignment a = .ok assignment ∧
          ∃ binding, Binds assignment binding := by
  constructor
  · rintro ⟨request, made⟩
    obtain ⟨assignments, reads, filled, bindings, binds, -⟩ := (ofArguments_assigning_iff plain).mp made
    have each := exists_forall₂_iff.mp ⟨assignments, reads⟩
    exact ⟨fun a member => exists_read_iff.mp (each a member), filled,
      (exists_binds_iff reads).mp ⟨bindings, binds⟩⟩
  · rintro ⟨named, filled, bound⟩
    obtain ⟨assignments, (reads : Reads texts assignments)⟩ :=
      exists_forall₂_iff.mpr fun a member => exists_read_iff.mpr (named a member)
    obtain ⟨bindings, binds⟩ := (exists_binds_iff reads).mpr bound
    exact ⟨_, (ofArguments_assigning_iff plain).mpr ⟨assignments, reads, filled, bindings, binds, rfl⟩⟩

/-- Assignments are accepted together when each has the form of one and those that are
the last for their names are accepted alone.  The variables are then in the order in
which their names come first, and each has the value that the last assignment for it
gives it alone. -/
theorem accepts_assigning_iff (find? : Path → Option (Entry Content)) (given : texts ≠ [])
    (plain : ∀ a ∈ expression :: texts, a.toList.head? ≠ some '-') :
    (Accepts find? (assigning expression texts) ↔
      (∀ a ∈ texts, (assignedName? a).isSome) ∧
        ∀ a, AssignsLast texts a → Accepts find? (assigning expression [a])) ∧
    ∀ request, Request.ofArguments find? (assigning expression texts) = .ok request →
      ∃ bindings, request = .evaluate expression bindings ∧
        bindings.map (fun binding => binding.1.1) = (texts.filterMap assignedName?).eraseDups ∧
        ∀ binding ∈ bindings, ∃ a, AssignsLast texts a ∧ assignedName? a = some binding.1.1 ∧
          Request.ofArguments find? (assigning expression [a]) = .ok (.evaluate expression [binding]) := by
  have alone {a : String} (last : AssignsLast texts a) {request : Request} :=
    ofArguments_assigning_one_iff find? request (plain_of_mem plain last.mem)
  constructor
  · rw [accepts_assigning plain]
    refine and_congr_right fun named => ?_
    constructor
    · rintro ⟨filled, bound⟩ a last
      obtain ⟨assignment, read, binding, bound⟩ := bound a last
      exact ⟨_, (alone last).mpr ⟨assignment, read, filled, binding, bound, rfl⟩⟩
    · intro accepted
      refine ⟨?_, ?_⟩
      · -- some assignment counts, and the expression stands beside it
        obtain ⟨a, last⟩ := exists_assignsLast given named
        obtain ⟨_, made⟩ := accepted a last
        obtain ⟨-, -, filled, -⟩ := (alone last).mp made
        exact filled
      · intro a last
        obtain ⟨_, made⟩ := accepted a last
        obtain ⟨assignment, read, -, binding, bound, -⟩ := (alone last).mp made
        exact ⟨assignment, read, binding, bound⟩
  · intro request made
    obtain ⟨assignments, reads, filled, bindings, binds, rfl⟩ := (ofArguments_assigning_iff plain).mp made
    refine ⟨bindings, rfl, ?_, ?_⟩
    · rw [reads.names, ← Table.keys_ofList]
      exact (names_of_binds binds).symm
    · intro binding member
      obtain ⟨assignment, counts, bound⟩ := exists_of_mem_forall₂ binds.flip member
      obtain ⟨a, last, (read : readAssignment a = .ok assignment)⟩ := reads.mem_toList_ofList.mp counts
      exact ⟨a, last, (assignedName?_of_read read).trans (congrArg some bound.name),
        (alone last).mpr ⟨assignment, read, filled, binding, bound, rfl⟩⟩

/-- The first value for `x` is no number, and the second counts. -/
def assignedTwice : List String := ["x=abc", " y = 2", "x =1"]

theorem accepts_assigning_iff_assignedTwice :
    let find? : Path → Option (Entry Content) := fun _ => none
    assignedTwice ≠ [] ∧ (∀ a ∈ "x + y" :: assignedTwice, a.toList.head? ≠ some '-') ∧
      (∀ a, AssignsLast assignedTwice a → Accepts find? (assigning "x + y" [a])) ∧
      ∃ bindings, Request.ofArguments find? (assigning "x + y" assignedTwice) = .ok (.evaluate "x + y" bindings) ∧
        bindings.map (fun binding => binding.1.1) = ["x", "y"] := by
  intro find?
  have given : assignedTwice ≠ [] := by simp [assignedTwice]
  have plain : ∀ a ∈ "x + y" :: assignedTwice, a.toList.head? ≠ some '-' := by decide
  obtain ⟨request, made⟩ : Accepts find? (assigning "x + y" assignedTwice) := ⟨_, rfl⟩
  have counted := accepts_assigning_iff find? given plain
  obtain ⟨bindings, rfl, names, -⟩ := counted.2 request made
  exact ⟨given, plain, (counted.1.mp ⟨_, made⟩).2, bindings, made, names⟩

/-- What is accepted together need not be accepted alone. -/
theorem accepts_assigning_overridden :
    let find? : Path → Option (Entry Content) := fun _ => none
    (∀ a ∈ "1" :: ["x=abc", "x=1"], a.toList.head? ≠ some '-') ∧
      ¬(Accepts find? (assigning "1" ["x=abc", "x=1"]) ↔
        ∀ a ∈ ["x=abc", "x=1"], Accepts find? (assigning "1" [a])) := by
  intro find?
  refine ⟨by decide, ?_⟩
  intro same
  have accepted : Accepts find? (assigning "1" ["x=abc", "x=1"]) := ⟨_, rfl⟩
  obtain ⟨request, made⟩ := same.mp accepted "x=abc" List.mem_cons_self
  have refused : (Request.ofArguments find? (assigning "1" ["x=abc"])).isOk = false := by rfl
  rw [made] at refused
  cases refused

end Command

end Abacus
