/-
# A configuration whole, and step by step

A configuration is built whole from a record of two tables (`Config.ofRecord`), or from
the empty one by a step for each entry (`Config.takeAll`).  The two look at the entries
in another order: whole, the values of a table come before its keys, and its keys are
only looked at when all its values are good; step by step, an entry is checked when its
turn comes, and what stands behind a bad one is not looked at.  So they may report
different things.  What they accept is the same, and so is what they make of it:

    (∃ c, ofRecord (tables operators numbers) = .ok c)  ↔  (∃ c, empty.takeAll order = .ok c)

in any order of the entries.  Whether an entry is good hangs on nothing but the entry
(`Step.IsGood`).  What is bound in the end is what the entries say (`Config.Built`),
and since no key occurs twice this leaves no choice (`Table.Holds.find?_eq`).
-/
import Mathlib.Data.List.Nodup
import Abacus.Proofs.Config.Record

namespace Abacus

/-! ## Tables that hold the same entries -/

section Tables

variable {κ α : Type} [DecidableEq κ] {t t' : Table κ α} {text : κ → String}
  {read : Value → Checked α} {fields fields' : List (String × Value)}

theorem Table.holds_empty : (Table.empty : Table κ α).Holds text read [] where
  bound := by
    intro field member
    cases member
  found := by
    intro k v found
    cases found

theorem Table.Holds.insert {value : Value} {v : α} (holds : t.Holds text read fields)
    (good : read value = .ok v) (k : κ) : (t.insert k v).Holds text read ((text k, value) :: fields) where
  bound := by
    intro field member
    rcases List.mem_cons.mp member with rfl | before
    · refine ⟨k, rfl, ?_⟩
      rw [contains, find?_insert, if_pos rfl]
      rfl
    · obtain ⟨key, same, bound⟩ := holds.bound field before
      refine ⟨key, same, ?_⟩
      rw [contains, find?_insert]
      split
      · rfl
      · exact bound
  found := by
    intro key v' found
    rw [find?_insert] at found
    split at found
    next same =>
      cases found
      exact ⟨(text k, value), List.mem_cons_self, by rw [same], good⟩
    next =>
      obtain ⟨field, before, named, described⟩ := holds.found key v' found
      exact ⟨field, List.mem_cons_of_mem _ before, named, described⟩

theorem Table.Holds.perm (holds : t.Holds text read fields) (arranged : fields.Perm fields') :
    t.Holds text read fields' where
  bound := by
    intro field member
    exact holds.bound field (arranged.mem_iff.mpr member)
  found := by
    intro k v found
    obtain ⟨field, member, described⟩ := holds.found k v found
    exact ⟨field, arranged.mem_iff.mp member, described⟩

theorem Table.Holds.find?_eq (holds : t.Holds text read fields) (holds' : t'.Holds text read fields)
    (injective : Function.Injective text) (distinct : (fields.map Prod.fst).Nodup) (k : κ) :
    t.find? k = t'.find? k := by
  -- what one table has under a key, the other has as well
  have carry : ∀ {t t' : Table κ α}, t.Holds text read fields → t'.Holds text read fields →
      ∀ v, t.find? k = some v → t'.find? k = some v := by
    intro t t' holds holds' v found
    obtain ⟨field, member, named, described⟩ := holds.found k v found
    obtain ⟨key, named', bound⟩ := holds'.bound field member
    obtain rfl : k = key := injective (named.symm.trans named')
    obtain ⟨v', found'⟩ := Option.isSome_iff_exists.mp bound
    obtain ⟨field', member', named', described'⟩ := holds'.found k v' found'
    obtain rfl : field = field' :=
      List.inj_on_of_nodup_map distinct member member' (named.trans named'.symm)
    rw [described] at described'
    rw [found', Except.ok.inj described']
  exact Option.ext fun v => ⟨carry holds holds' v, carry holds' holds v⟩

end Tables

/-! ## Tables that are taken whole -/

theorem exists_forall₂_iff {β γ : Type} {related : β → γ → Prop} {xs : List β} :
    (∃ ys, List.Forall₂ related xs ys) ↔ ∀ x ∈ xs, ∃ y, related x y := by
  constructor
  · rintro ⟨ys, beside⟩ x hx
    obtain ⟨y, -, related⟩ := exists_of_mem_forall₂ beside hx
    exact ⟨y, related⟩
  · intro each
    induction xs with
    | nil => exact ⟨[], .nil⟩
    | cons x xs ih =>
      obtain ⟨⟨y, first⟩, others⟩ := List.forall_mem_cons.mp each
      obtain ⟨ys, beside⟩ := ih others
      exact ⟨y :: ys, .cons first beside⟩

theorem exists_optional_readTable_iff {α κ : Type} {checkKey : String → Except KeyError κ}
    {checkValue : Value → Checked α} {record : Value} {name : String} {fields : List (String × Value)}
    (described : record.tableAt? name = some fields) :
    (∃ pairs, record.optional name [] (Config.readTable checkKey checkValue) = .ok pairs) ↔
      ∀ field ∈ fields, ∃ pair : κ × α,
        checkKey field.1 = .ok pair.1 ∧ checkValue field.2 = .ok pair.2 := by
  simp only [optional_readTable_eq_ok_iff, described, Option.some.injEq, exists_eq_left', exists_forall₂_iff]

namespace Config

/-! ## Steps -/

/-- A step in building a configuration. -/
inductive Step where
  | register (symbol : String) (record : Value)
  | assign (name : String) (x : Float)

/-- The configuration after a step, unless the step is refused. -/
def Step.take (c : Config) : Step → Except Rejection Config
  | register symbol record => c.register symbol record
  | assign name x => c.assign name (.real x)

/-- The configuration after some steps, unless one of them is refused. -/
def takeAll (c : Config) : List Step → Except Rejection Config
  | [] => .ok c
  | step :: steps =>
    match step.take c with
    | .error cause => .error cause
    | .ok c => c.takeAll steps

/-- The entry of an operator that a step makes. -/
def Step.registered? : Step → Option (String × Value)
  | register symbol record => some (symbol, record)
  | assign _ _ => none

/-- The entry of a variable that a step makes. -/
def Step.assigned? : Step → Option (String × Value)
  | register _ _ => none
  | assign name x => some (name, .real x)

/-- The step can be taken, whatever was done before. -/
inductive Step.IsGood : Step → Prop where
  | register (s : UsableSymbol) {record : Value} {op : Operator}
      (described : Operator.ofRecord record = .ok op) : IsGood (.register s.1.text record)
  | assign (n : LetteredName) (x : Float) : IsGood (.assign n.1 x)

theorem Step.isGood_register_iff {symbol : String} {record : Value} :
    (register symbol record).IsGood ↔ ∃ pair : UsableSymbol × Operator,
      checkSymbol symbol = .ok pair.1 ∧ Operator.ofRecord record = .ok pair.2 := by
  constructor
  · intro good
    cases good with
    | register s described => exact ⟨(s, _), checkSymbol_eq_ok_iff.mpr rfl, described⟩
  · rintro ⟨⟨s, op⟩, named, described⟩
    obtain rfl := checkSymbol_eq_ok_iff.mp named
    exact .register s described

theorem Step.isGood_assign_iff {name : String} {x : Float} :
    (assign name x).IsGood ↔ ∃ pair : LetteredName × Float,
      checkName name = .ok pair.1 ∧ Value.toNumber (.real x) = .ok pair.2 := by
  constructor
  · intro good
    cases good with
    | assign n x => exact ⟨(n, x), checkName_eq_ok_iff.mpr rfl, rfl⟩
  · rintro ⟨⟨n, y⟩, named, -⟩
    obtain rfl := checkName_eq_ok_iff.mp named
    exact .assign n x

variable {c c' : Config} {step : Step} {order before : List Step}

theorem Step.exists_take_iff : (∃ c', step.take c = .ok c') ↔ step.IsGood := by
  constructor
  · rintro ⟨c', taken⟩
    cases step with
    | register symbol record =>
      rw [take, register_eq_ok_iff] at taken
      obtain ⟨s, op, rfl, described, -⟩ := taken
      exact .register s described
    | assign name x =>
      rw [take, assign_eq_ok_iff] at taken
      obtain ⟨n, x', rfl, -, -⟩ := taken
      exact .assign n x
  · intro good
    cases good with
    | @register s record op described =>
      exact ⟨c.withOperator s op, by rw [take, register_eq_ok_iff]; exact ⟨s, op, rfl, described, rfl⟩⟩
    | assign n x =>
      exact ⟨c.withVariable n x, by rw [take, assign_eq_ok_iff]; exact ⟨n, x, rfl, rfl, rfl⟩⟩

/-- All steps are taken when each of them is good by itself. -/
theorem exists_takeAll_iff : (∃ c', c.takeAll order = .ok c') ↔ ∀ step ∈ order, step.IsGood := by
  induction order generalizing c with
  | nil => exact ⟨fun _ => nofun, fun _ => ⟨c, rfl⟩⟩
  | cons step order ih =>
    rw [List.forall_mem_cons, ← Step.exists_take_iff (c := c), takeAll]
    cases step.take c with
    | error cause => exact ⟨nofun, nofun⟩
    | ok next =>
      dsimp only
      rw [ih]
      exact ⟨fun others => ⟨⟨next, rfl⟩, others⟩, And.right⟩

/-! ## What is bound -/

/-- The configuration has the entries that some steps make, and nothing else. -/
structure Built (c : Config) (steps : List Step) : Prop where
  operators : c.operators.Holds Symbol.text Operator.ofRecord (steps.filterMap Step.registered?)
  bindings : c.bindings.Holds id Value.toNumber (steps.filterMap Step.assigned?)

theorem built_empty : empty.Built [] :=
  ⟨Table.holds_empty, Table.holds_empty⟩

theorem Built.take (built : c.Built before) (taken : step.take c = .ok c') : c'.Built (step :: before) := by
  cases step with
  | register symbol record =>
    rw [Step.take, register_eq_ok_iff] at taken
    obtain ⟨s, op, rfl, described, rfl⟩ := taken
    exact ⟨built.operators.insert described s.1, built.bindings⟩
  | assign name x =>
    rw [Step.take, assign_eq_ok_iff] at taken
    obtain ⟨n, x', rfl, converted, rfl⟩ := taken
    cases converted
    exact ⟨built.operators, built.bindings.insert rfl n.1⟩

theorem Built.takeAll (built : c.Built before) (taken : c.takeAll order = .ok c') :
    c'.Built (order.reverse ++ before) := by
  induction order generalizing c before with
  | nil =>
    cases taken
    exact built
  | cons step order ih =>
    rw [Config.takeAll] at taken
    split at taken
    next => cases taken
    next next first =>
      rw [List.reverse_cons, List.append_assoc]
      exact ih (built.take first) taken

theorem Built.perm {steps : List Step} (built : c.Built order) (arranged : order.Perm steps) : c.Built steps :=
  ⟨built.operators.perm (arranged.filterMap _), built.bindings.perm (arranged.filterMap _)⟩

/-- Two configurations have the same operators and the same variables. -/
structure SameTables (c c' : Config) : Prop where
  operators : ∀ s, c.operators.find? s = c'.operators.find? s
  bindings : ∀ n, c.bindings.find? n = c'.bindings.find? n

theorem Built.sameTables {steps : List Step} (built : c.Built steps) (built' : c'.Built steps)
    (symbols : ((steps.filterMap Step.registered?).map Prod.fst).Nodup)
    (names : ((steps.filterMap Step.assigned?).map Prod.fst).Nodup) : c.SameTables c' where
  operators := by
    have injective : Function.Injective Symbol.text := by
      intro s s' same
      have chars := congrArg String.toList same
      rw [Symbol.toList_text, Symbol.toList_text, List.singleton_inj] at chars
      cases s
      cases s'
      cases chars
      rfl
    exact built.operators.find?_eq built'.operators injective symbols
  bindings := built.bindings.find?_eq built'.bindings Function.injective_id names

/-! ## Two tables -/

/-- The record of a table of operators and a table of numbers. -/
def tables (operators : Table String Value) (numbers : Table String Float) : Value :=
  .record [("operators", .record operators.toList),
    ("variables", .record (numbers.toList.map fun (name, x) => (name, .real x)))]

/-- A step for each entry of the two tables. -/
def steps (operators : Table String Value) (numbers : Table String Float) : List Step :=
  (operators.toList.map fun (symbol, record) => .register symbol record) ++
    numbers.toList.map fun (name, x) => .assign name x

section

variable {operators : Table String Value} {numbers : Table String Float}

theorem tableAt?_operators : (tables operators numbers).tableAt? "operators" = some operators.toList := rfl

theorem tableAt?_variables : (tables operators numbers).tableAt? "variables" =
    some (numbers.toList.map fun (name, x) => (name, .real x)) := rfl

theorem filterMap_registered?_steps : (steps operators numbers).filterMap Step.registered? = operators.toList := by
  rw [steps, List.filterMap_append, List.filterMap_map, List.filterMap_map]
  have first : (Step.registered? ∘ fun (symbol, record) => .register symbol record) =
      (some : String × Value → _) := rfl
  have second : (Step.registered? ∘ fun (name, x) => .assign name x) = fun _ : String × Float => none := rfl
  rw [first, second, List.filterMap_some]
  simp

theorem filterMap_assigned?_steps : (steps operators numbers).filterMap Step.assigned? =
    numbers.toList.map fun (name, x) => (name, .real x) := by
  rw [steps, List.filterMap_append, List.filterMap_map, List.filterMap_map]
  have first : (Step.assigned? ∘ fun (symbol, record) => .register symbol record) =
      fun _ : String × Value => none := rfl
  have second : (Step.assigned? ∘ fun (name, x) => .assign name x) =
      some ∘ fun ((name, x) : String × Float) => (name, Value.real x) := rfl
  rw [first, second, List.filterMap_eq_map]
  simp

theorem built_of_ofRecord {c : Config} (whole : ofRecord (tables operators numbers) = .ok c) :
    c.Built (steps operators numbers) := by
  obtain ⟨fields, fields', described, described', operatorsHeld, bindingsHeld⟩ := holds_of_ofRecord whole
  obtain rfl := Option.some.inj (tableAt?_operators.symm.trans described)
  obtain rfl := Option.some.inj (tableAt?_variables.symm.trans described')
  exact ⟨by rwa [filterMap_registered?_steps], by rwa [filterMap_assigned?_steps]⟩

theorem exists_ofRecord_iff :
    (∃ c, ofRecord (tables operators numbers) = .ok c) ↔
      ∀ step ∈ steps operators numbers, step.IsGood := by
  have whole : (∃ c, ofRecord (tables operators numbers) = .ok c) ↔
      (∃ pairs, (tables operators numbers).optional "operators" []
        (readTable checkSymbol Operator.ofRecord) = .ok pairs) ∧
      ∃ pairs, (tables operators numbers).optional "variables" []
        (readTable checkName Value.toNumber) = .ok pairs := by
    simp only [ofRecord, Checked.map_eq_ok_iff]
    constructor
    · rintro ⟨_, ⟨left, right⟩, both, rfl⟩
      obtain ⟨first, second⟩ := Checked.both_eq_ok_iff.mp both
      exact ⟨⟨left, first⟩, right, second⟩
    · rintro ⟨⟨left, first⟩, right, second⟩
      exact ⟨_, (left, right), Checked.both_eq_ok_iff.mpr ⟨first, second⟩, rfl⟩
  rw [whole, exists_optional_readTable_iff tableAt?_operators, exists_optional_readTable_iff tableAt?_variables,
    steps, List.forall_mem_append, List.forall_mem_map, List.forall_mem_map, List.forall_mem_map]
  refine and_congr (forall₂_congr fun field _ => ?_) (forall₂_congr fun field _ => ?_)
  · exact Step.isGood_register_iff.symm
  · exact Step.isGood_assign_iff.symm

end

/-- Two tables are accepted whole just when their entries are accepted one after the
other, in any order, and the configurations that come of it are the same. -/
theorem ofRecord_takeAll_agree (operators : Table String Value) (numbers : Table String Float)
    {order : List Step} (arranged : order.Perm (steps operators numbers)) :
    ((∃ c, ofRecord (tables operators numbers) = .ok c) ↔ ∃ c, empty.takeAll order = .ok c) ∧
      (∀ c c', ofRecord (tables operators numbers) = .ok c → empty.takeAll order = .ok c' →
        c.SameTables c') ∧
      ∀ other, other.Perm (steps operators numbers) →
        ((∃ c, empty.takeAll order = .ok c) ↔ ∃ c, empty.takeAll other = .ok c) ∧
          ∀ c c', empty.takeAll order = .ok c → empty.takeAll other = .ok c' → c.SameTables c' := by
  have accepted {order : List Step} (arranged : order.Perm (steps operators numbers)) :
      (∃ c, ofRecord (tables operators numbers) = .ok c) ↔ ∃ c, empty.takeAll order = .ok c := by
    rw [exists_ofRecord_iff, exists_takeAll_iff]
    exact forall_congr' fun step => by rw [arranged.mem_iff]
  have built {order : List Step} (arranged : order.Perm (steps operators numbers)) {c : Config}
      (taken : empty.takeAll order = .ok c) : c.Built (steps operators numbers) := by
    have reversed := built_empty.takeAll taken
    rw [List.append_nil] at reversed
    exact reversed.perm (order.reverse_perm.trans arranged)
  have same {c c' : Config} (builtHere : c.Built (steps operators numbers))
      (builtThere : c'.Built (steps operators numbers)) : c.SameTables c' := by
    refine builtHere.sameTables builtThere ?_ ?_
    · rw [filterMap_registered?_steps]
      exact operators.keys_nodup
    · rw [filterMap_assigned?_steps, List.map_map]
      exact numbers.keys_nodup
  refine ⟨accepted arranged, ?_, ?_⟩
  · intro c c' whole taken
    exact same (built_of_ofRecord whole) (built arranged taken)
  · intro other arranged'
    refine ⟨(accepted arranged).symm.trans (accepted arranged'), ?_⟩
    intro c c' taken taken'
    exact same (built arranged taken) (built arranged' taken')

/-- A sum, and a power that groups to the right. -/
def sumAndPower : Table String Value where
  entries :=
    [("+", .record [("precedence", .integer 1), ("evaluate", .function .sum)]),
      ("^", .record [("precedence", .integer 3), ("associativity", .text "right"),
        ("evaluate", .function .exponentiation)])]
  keys_nodup := by simp

def oneNumber : Table String Float where
  entries := [("x", 2.5)]
  keys_nodup := by simp

theorem ofRecord_takeAll_agree_reversed :
    let order := (steps sumAndPower oneNumber).reverse
    order.Perm (steps sumAndPower oneNumber) ∧
      (∃ c, ofRecord (tables sumAndPower oneNumber) = .ok c) ∧
      ((∃ c, ofRecord (tables sumAndPower oneNumber) = .ok c) ↔ ∃ c, empty.takeAll order = .ok c) ∧
      (∀ c c', ofRecord (tables sumAndPower oneNumber) = .ok c → empty.takeAll order = .ok c' →
        c.SameTables c') ∧
      ∀ other, other.Perm (steps sumAndPower oneNumber) →
        ((∃ c, empty.takeAll order = .ok c) ↔ ∃ c, empty.takeAll other = .ok c) ∧
          ∀ c c', empty.takeAll order = .ok c → empty.takeAll other = .ok c' → c.SameTables c' := by
  intro order
  have arranged : order.Perm (steps sumAndPower oneNumber) := List.reverse_perm _
  have whole : ∃ c, ofRecord (tables sumAndPower oneNumber) = .ok c := ⟨_, rfl⟩
  exact ⟨arranged, whole, ofRecord_takeAll_agree sumAndPower oneNumber arranged⟩

end Config

end Abacus
