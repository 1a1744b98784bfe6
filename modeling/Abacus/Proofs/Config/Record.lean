/-
# What a record describes

A configuration takes its keys and its values from untyped input.  A key is taken
when it is the text of a usable symbol (`checkSymbol_eq_ok_iff`) or a lettered
name (`checkName_eq_ok_iff`), and a table of a record is taken when each of its
entries has a good value and a good key (`readTable_eq_ok_iff`).  What is then
bound comes from the entries, and every entry is bound (`Table.Holds`).  One
operator or one variable at a time is taken under the same two conditions
(`register_eq_ok_iff`, `assign_eq_ok_iff`).

Where a value of a table is bad its keys are not looked at.  Then what is reported
of the table is what is wrong with its values, each below its key, and nothing
else (`readTable_of_bad_value`); the other table of the record is reported beside
it (`ofRecord_of_bad_operator`, `ofRecord_of_bad_number`).
-/
import Mathlib.Data.List.Forall2
import Abacus.Config.Field
import Abacus.Proofs.Field.Checked

namespace Abacus

open Abacus.Text

/-! ## Keys -/

theorem Symbol.toList_text (s : Symbol) : s.text.toList = [s.char] := by
  simp [text]

theorem checkSymbol_eq_ok_iff {text : String} {s : UsableSymbol} :
    checkSymbol text = .ok s ↔ text = s.1.text := by
  constructor
  · intro h
    unfold checkSymbol at h
    split at h
    next c single =>
      split at h
      next =>
        split at h
        next =>
          cases h
          exact String.toList_inj.mp (by rw [single, Symbol.toList_text])
        next => cases h
      next => cases h
    next => cases h
  · rintro rfl
    obtain ⟨⟨c, h⟩, usable⟩ := s
    rw [checkSymbol, Symbol.toList_text]
    dsimp only
    rw [dif_pos h, dif_pos usable]

theorem checkName_eq_ok_iff {text : String} {n : LetteredName} : checkName text = .ok n ↔ text = n.1 := by
  constructor
  · intro h
    unfold checkName at h
    split at h
    next => cases h; rfl
    next => cases h
  · rintro rfl
    rw [checkName, dif_pos n.2]

/-! ## Operators -/

theorem Operator.exists_precedence {record : Value} {op : Operator} (h : ofRecord record = .ok op) :
    ∃ v n, record.field? "precedence" = some v ∧ v.toInt = .ok n ∧ 0 ≤ n ∧ (op.precedence : Int) = n := by
  rw [ofRecord, Checked.map_eq_ok_iff] at h
  obtain ⟨⟨p, a, o⟩, fields, rfl⟩ := h
  have precedence := (Checked.both_eq_ok_iff.mp fields).1
  rw [Value.required, Checked.under_eq_ok_iff] at precedence
  cases found : record.field? "precedence" with
  | none =>
    rw [found] at precedence
    cases precedence
  | some v =>
    rw [found] at precedence
    dsimp only at precedence
    obtain ⟨n, whole, least⟩ := Checked.andThen_eq_ok_iff.mp precedence
    split at least
    next nonnegative =>
      cases least
      exact ⟨v, n, rfl, whole, by omega, by simp; omega⟩
    next => cases least

/-! ## Tables -/

/-- The entries of a table of a record.  A table that is not there has none. -/
def Value.tableAt? (record : Value) (key : String) : Option (List (String × Value)) :=
  match record.field? key with
  | none => some []
  | some (.record fields) => some fields
  | some _ => none

section Tables

variable {α κ : Type} {checkKey : String → Except KeyError κ} {checkValue : Value → Checked α}

theorem exists_of_mem_forall₂ {β γ : Type} {related : β → γ → Prop} {xs : List β} {ys : List γ}
    (h : List.Forall₂ related xs ys) {x : β} (hx : x ∈ xs) : ∃ y ∈ ys, related x y := by
  induction h with
  | nil => cases hx
  | cons first _ ih =>
    rcases List.mem_cons.mp hx with rfl | later
    · exact ⟨_, List.mem_cons_self, first⟩
    · obtain ⟨y, member, beside⟩ := ih later
      exact ⟨y, List.mem_cons_of_mem _ member, beside⟩

theorem toEntries_eq_ok_iff {fields : List (String × Value)} {entries : List (String × α)} :
    (Value.record fields).toEntries checkValue = .ok entries ↔
      List.Forall₂ (fun field entry => field.1 = entry.1 ∧ checkValue field.2 = .ok entry.2) fields
        entries := by
  rw [Value.toEntries, Checked.all_eq_ok_iff]
  induction fields generalizing entries with
  | nil => cases entries <;> simp
  | cons field fields ih =>
    obtain ⟨key, v⟩ := field
    cases entries with
    | nil => simp
    | cons entry entries =>
      obtain ⟨key', a⟩ := entry
      rw [List.map_cons, List.map_cons, List.cons.injEq, ih, List.forall₂_cons,
        Checked.under_eq_ok_iff, Checked.map_eq_ok_iff]
      simp [and_comm]

theorem checkKeys_eq_ok_iff {entries : List (String × α)} {pairs : List (κ × α)} :
    Config.checkKeys checkKey entries = .ok pairs ↔
      List.Forall₂ (fun entry pair => checkKey entry.1 = .ok pair.1 ∧ entry.2 = pair.2) entries pairs := by
  induction entries generalizing pairs with
  | nil =>
    cases pairs <;> simp [Config.checkKeys]
  | cons entry entries ih =>
    obtain ⟨text, a⟩ := entry
    rw [Config.checkKeys]
    cases pairs with
    | nil =>
      cases checkKey text with
      | error e => simp [bind, Except.bind]
      | ok key => cases Config.checkKeys checkKey entries <;> simp [bind, Except.bind, pure, Except.pure]
    | cons pair pairs =>
      obtain ⟨key', a'⟩ := pair
      rw [List.forall₂_cons, ← ih]
      cases checkKey text with
      | error e => simp [bind, Except.bind]
      | ok key =>
        cases Config.checkKeys checkKey entries <;>
          simp [bind, Except.bind, pure, Except.pure, and_assoc]

theorem readTable_eq_ok_iff {fields : List (String × Value)} {pairs : List (κ × α)} :
    Config.readTable checkKey checkValue (.record fields) = .ok pairs ↔
      List.Forall₂ (fun field pair => checkKey field.1 = .ok pair.1 ∧ checkValue field.2 = .ok pair.2)
        fields pairs := by
  rw [Config.readTable, Checked.andThen_eq_ok_iff]
  constructor
  · rintro ⟨entries, values, taken⟩
    split at taken
    next keys =>
      cases taken
      rw [toEntries_eq_ok_iff] at values
      rw [checkKeys_eq_ok_iff] at keys
      induction values generalizing pairs with
      | nil =>
        cases keys
        exact .nil
      | cons value _ ih =>
        cases keys with
        | cons key keys => exact .cons ⟨by rw [value.1, key.1], by rw [value.2, key.2]⟩ (ih keys)
    next => cases taken
  · intro both
    -- the entries between have the keys as texts and the values as they are read
    have between : ∃ entries : List (String × α), List.Forall₂ (fun field entry => field.1 = entry.1 ∧
        checkValue field.2 = .ok entry.2) fields entries ∧
        List.Forall₂ (fun entry pair => checkKey entry.1 = .ok pair.1 ∧ entry.2 = pair.2) entries pairs := by
      induction both with
      | nil => exact ⟨[], .nil, .nil⟩
      | @cons field pair _ _ good _ ih =>
        obtain ⟨entries, values, keys⟩ := ih
        exact ⟨(field.1, pair.2) :: entries, .cons ⟨rfl, good.2⟩ values, .cons ⟨good.1, rfl⟩ keys⟩
    obtain ⟨entries, values, keys⟩ := between
    refine ⟨entries, toEntries_eq_ok_iff.mpr values, ?_⟩
    rw [checkKeys_eq_ok_iff.mpr keys]

/-- What is wrong with the values of a table, each below its key. -/
def valueIssues (checkValue : Value → Checked α) (fields : List (String × Value)) : List Issue :=
  fields.flatMap fun (key, v) => (checkValue v).issues.map (.below key)

/-- Of a table with a bad value only the values are reported. -/
theorem readTable_of_bad_value {fields : List (String × Value)}
    (bad : ∃ field ∈ fields, ∃ issues, checkValue field.2 = .error issues) :
    Config.readTable checkKey checkValue (.record fields) = .error (valueIssues checkValue fields) := by
  have reported : ((Value.record fields).toEntries checkValue).issues = valueIssues checkValue fields := by
    rw [Value.toEntries, Checked.issues_all, List.flatMap_map, valueIssues]
    simp only [Checked.issues_under, Checked.issues_map]
  cases taken : (Value.record fields).toEntries checkValue with
  | error issues =>
    rw [taken, Checked.issues] at reported
    rw [Config.readTable, Checked.andThen_error taken, reported]
  | ok entries =>
    obtain ⟨field, member, issues, wrong⟩ := bad
    obtain ⟨entry, _, _, good⟩ := exists_of_mem_forall₂ (toEntries_eq_ok_iff.mp taken) member
    cases wrong.symm.trans good

theorem head?_path_of_mem_optional {record : Value} {name : String} {default : α} {issue : Issue}
    (h : issue ∈ (record.optional name default checkValue).issues) : issue.path.head? = some name := by
  rw [Value.optional, Checked.issues_under] at h
  obtain ⟨inner, _, rfl⟩ := List.mem_map.mp h
  rfl

theorem optional_readTable_of_bad_value {record : Value} {name : String} {fields : List (String × Value)}
    (described : record.tableAt? name = some fields)
    (bad : ∃ field ∈ fields, ∃ issues, checkValue field.2 = .error issues) :
    record.optional name [] (Config.readTable checkKey checkValue) =
      .error ((valueIssues checkValue fields).map (.below name)) := by
  rw [Value.tableAt?] at described
  rw [Value.optional]
  split at described
  next =>
    -- a table that is not there has no bad entry
    cases described
    obtain ⟨field, member, _⟩ := bad
    cases member
  next found =>
    cases described
    rw [found]
    dsimp only
    rw [readTable_of_bad_value bad]
    rfl
  next => cases described

theorem optional_readTable_eq_ok_iff {record : Value} {name : String} {pairs : List (κ × α)} :
    record.optional name [] (Config.readTable checkKey checkValue) = .ok pairs ↔
      ∃ fields, record.tableAt? name = some fields ∧
        List.Forall₂ (fun field pair => checkKey field.1 = .ok pair.1 ∧ checkValue field.2 = .ok pair.2)
          fields pairs := by
  rw [Value.optional, Checked.under_eq_ok_iff, Value.tableAt?]
  cases record.field? name with
  | none => simp [eq_comm]
  | some v =>
    cases v with
    | record fields => simp [readTable_eq_ok_iff]
    | _ => simp [Config.readTable, Value.toEntries, Checked.refuse, Checked.andThen]

/-- The table that the entries of a record describe: each of them is bound, and what
is bound under a key is a value of an entry whose key is the text of that key. -/
structure Table.Holds {κ α : Type} [DecidableEq κ] (t : Table κ α) (text : κ → String)
    (read : Value → Checked α) (fields : List (String × Value)) : Prop where
  bound : ∀ field ∈ fields, ∃ k, field.1 = text k ∧ t.contains k = true
  found : ∀ k v, t.find? k = some v → ∃ field ∈ fields, field.1 = text k ∧ read field.2 = .ok v

theorem Table.holds_insertAll {κ α κ' : Type} [DecidableEq κ] (text : κ → String) (key : κ' → κ)
    {checkKey : String → Except KeyError κ'} {checkValue : Value → Checked α}
    (texts : ∀ s k, checkKey s = .ok k ↔ s = text (key k)) {fields : List (String × Value)}
    {pairs : List (κ' × α)}
    (h : List.Forall₂ (fun field pair => checkKey field.1 = .ok pair.1 ∧ checkValue field.2 = .ok pair.2)
      fields pairs) :
    ((Table.empty : Table κ α).insertAll (pairs.map fun pair => (key pair.1, pair.2))).Holds text
      checkValue fields where
  bound := by
    intro field member
    obtain ⟨pair, beside, keyed, _⟩ := exists_of_mem_forall₂ h member
    refine ⟨key pair.1, (texts _ _).mp keyed, contains_insertAll (.inl ?_)⟩
    exact List.mem_map.mpr ⟨_, List.mem_map.mpr ⟨pair, beside, rfl⟩, rfl⟩
  found := by
    intro k v found
    rcases mem_of_find?_insertAll found with given | before
    · obtain ⟨pair, beside, same⟩ := List.mem_map.mp given
      cases same
      obtain ⟨field, member, keyed, valued⟩ := exists_of_mem_forall₂ h.flip beside
      exact ⟨field, member, (texts _ _).mp keyed, valued⟩
    · rw [find?_empty] at before
      cases before

end Tables

/-! ## Configurations -/

namespace Config

section Keys

variable {c c' : Config} {text : String}

theorem insertOperator_eq_ok_iff {op : Operator} :
    c.insertOperator text op = .ok c' ↔ ∃ s : UsableSymbol, text = s.1.text ∧ c.withOperator s op = c' := by
  simp only [← checkSymbol_eq_ok_iff]
  rw [insertOperator]
  cases checkSymbol text <;> simp

theorem insertVariable_eq_ok_iff {x : Float} :
    c.insertVariable text x = .ok c' ↔ ∃ n : LetteredName, text = n.1 ∧ c.withVariable n x = c' := by
  simp only [← checkName_eq_ok_iff]
  rw [insertVariable]
  cases checkName text <;> simp

theorem mapError_eq_ok_iff {ε ε' α : Type} {f : ε → ε'} {result : Except ε α} {a : α} :
    result.mapError f = .ok a ↔ result = .ok a := by
  cases result <;> simp [Except.mapError]

/-- An operator is registered under a usable symbol when its record is good. -/
theorem register_eq_ok_iff {record : Value} :
    c.register text record = .ok c' ↔ ∃ (s : UsableSymbol) (op : Operator), text = s.1.text ∧
      Operator.ofRecord record = .ok op ∧ c.withOperator s op = c' := by
  rw [register]
  cases Operator.ofRecord record with
  | error issues => simp
  | ok op => simp [mapError_eq_ok_iff, insertOperator_eq_ok_iff]

theorem assign_eq_ok_iff {value : Value} :
    c.assign text value = .ok c' ↔ ∃ (n : LetteredName) (x : Float), text = n.1 ∧
      value.convert = .ok x ∧ c.withVariable n x = c' := by
  rw [assign]
  cases value.convert with
  | error e => simp
  | ok x => simp [mapError_eq_ok_iff, insertVariable_eq_ok_iff]

end Keys

theorem operators_bind (c : Config) (bindings : List (LetteredName × Float)) :
    (c.bind bindings).operators = c.operators := by
  induction bindings generalizing c with
  | nil => rfl
  | cons binding rest ih => exact ih _

theorem bindings_bind (c : Config) (bindings : List (LetteredName × Float)) :
    (c.bind bindings).bindings = c.bindings.insertAll (bindings.map fun pair => (pair.1.1, pair.2)) := by
  induction bindings generalizing c with
  | nil => rfl
  | cons binding rest ih => exact ih _

theorem operators_foldl_withOperator (c : Config) (operators : List (UsableSymbol × Operator)) :
    (operators.foldl (fun c (s, op) => c.withOperator s op) c).operators =
      c.operators.insertAll (operators.map fun pair => (pair.1.1, pair.2)) := by
  induction operators generalizing c with
  | nil => rfl
  | cons operator rest ih => exact ih _

theorem bindings_foldl_withOperator (c : Config) (operators : List (UsableSymbol × Operator)) :
    (operators.foldl (fun c (s, op) => c.withOperator s op) c).bindings = c.bindings := by
  induction operators generalizing c with
  | nil => rfl
  | cons operator rest ih => exact ih _

/-- What is built from a record has what the two tables of the record describe. -/
theorem holds_of_ofRecord {record : Value} {c : Config} (h : ofRecord record = .ok c) :
    ∃ operators bindings, record.tableAt? "operators" = some operators ∧
      record.tableAt? "variables" = some bindings ∧
      c.operators.Holds Symbol.text Operator.ofRecord operators ∧
      c.bindings.Holds id Value.toNumber bindings := by
  rw [ofRecord, Checked.map_eq_ok_iff] at h
  obtain ⟨⟨operators, bindings⟩, taken, rfl⟩ := h
  obtain ⟨left, right⟩ := Checked.both_eq_ok_iff.mp taken
  obtain ⟨fields, described, operatorsRead⟩ := optional_readTable_eq_ok_iff.mp left
  obtain ⟨fields', described', bindingsRead⟩ := optional_readTable_eq_ok_iff.mp right
  refine ⟨fields, fields', described, described', ?_, ?_⟩
  · rw [operators_bind, operators_foldl_withOperator]
    exact Table.holds_insertAll Symbol.text Subtype.val (fun _ _ => checkSymbol_eq_ok_iff) operatorsRead
  · rw [bindings_bind, bindings_foldl_withOperator]
    exact Table.holds_insertAll id Subtype.val (fun _ _ => checkName_eq_ok_iff) bindingsRead

theorem ofRecord_of_bad_operator {record : Value} {fields : List (String × Value)}
    (described : record.tableAt? "operators" = some fields)
    (bad : ∃ field ∈ fields, ∃ issues, Operator.ofRecord field.2 = .error issues) :
    ∃ others : List Issue, (∀ issue ∈ others, issue.path.head? = some "variables") ∧
      ofRecord record =
        .error ((valueIssues Operator.ofRecord fields).map (.below "operators") ++ others) := by
  refine ⟨(record.optional "variables" [] (readTable checkName Value.toNumber)).issues,
    fun _ => head?_path_of_mem_optional, ?_⟩
  rw [ofRecord, optional_readTable_of_bad_value described bad, Checked.both_error_left, Checked.map]

theorem ofRecord_of_bad_number {record : Value} {fields : List (String × Value)}
    (described : record.tableAt? "variables" = some fields)
    (bad : ∃ field ∈ fields, ∃ issues, Value.toNumber field.2 = .error issues) :
    ∃ others : List Issue, (∀ issue ∈ others, issue.path.head? = some "operators") ∧
      ofRecord record =
        .error (others ++ (valueIssues Value.toNumber fields).map (.below "variables")) := by
  refine ⟨(record.optional "operators" [] (readTable checkSymbol Operator.ofRecord)).issues,
    fun _ => head?_path_of_mem_optional, ?_⟩
  rw [ofRecord, optional_readTable_of_bad_value described bad, Checked.both_error_right, Checked.map]

end Config

end Abacus
