/-
# Configurations stay in order

Whatever is done in a session, and however much of it is refused, the keys of all
configurations are ones that the scanner can meet, and no operator has a precedence
below zero.  For the keys this is in the type of a configuration.  For a precedence
it says where the number comes from: from the record of an action, which gave an
integer that is not below zero (`Action.GivesPrecedence`).

An action is refused, and then nothing changes, or it is done (`Session.Does`):

  action        what is done
  standard      one configuration more, the standard one
  empty         one configuration more, the empty one
  construct     one configuration more, with the two tables of the record
  register      in one configuration one symbol is bound anew, if it was bound at all
  assign        in one configuration one name is bound anew, if it was bound at all

Configurations are referred to by place, and no place is ever given up, so the other
configurations are those that stood there before.

Where the value and the key of an action are both bad, the value is reported.  For a
record of tables this is so of each table by itself.
-/
import Mathlib.Data.List.Induction
import Abacus.Config.Session
import Abacus.Proofs.Config.Record

namespace Abacus

open Abacus.Text

/-- One key is bound to a value, anew if it was bound, and no other key is touched.  A
new key comes last. -/
structure Table.Rebinds {κ ν : Type} [DecidableEq κ] (t t' : Table κ ν) (k : κ) (v : ν) : Prop where
  bound : t'.find? k = some v
  others : ∀ x, x ≠ k → t'.find? x = t.find? x
  keys : t'.keys = if k ∈ t.keys then t.keys else t.keys ++ [k]

theorem Table.rebinds_insert {κ ν : Type} [DecidableEq κ] (t : Table κ ν) (k : κ) (v : ν) :
    t.Rebinds (t.insert k v) k v where
  bound := by rw [find?_insert, if_pos rfl]
  others := by
    intro x other
    rw [find?_insert, if_neg other.symm]
  keys := t.keys_insert k v

/-- The action gives the precedence of a symbol. -/
inductive Action.GivesPrecedence : Action → Symbol → Int → Prop where
  | standard {s : Symbol} {op : Operator} (bound : Config.standard.operators.find? s = some op) :
      GivesPrecedence .standard s op.precedence
  | construct {record : Value} {fields : List (String × Value)} {field : String × Value} {s : Symbol}
      {v : Value} {n : Int} (described : record.tableAt? "operators" = some fields)
      (member : field ∈ fields) (key : field.1 = s.text)
      (given : field.2.field? "precedence" = some v) (whole : v.toInt = .ok n) :
      GivesPrecedence (.construct record) s n
  | register {place : Nat} {record : Value} {s : Symbol} {v : Value} {n : Int}
      (given : record.field? "precedence" = some v) (whole : v.toInt = .ok n) :
      GivesPrecedence (.register place s.text record) s n

namespace Session

/-- What an action does to a session when it is not refused. -/
inductive Does (session : Session) : Action → Session → Prop where
  | standard : Does session .standard ⟨session.configs ++ [.standard]⟩
  | empty : Does session .empty ⟨session.configs ++ [.empty]⟩
  | construct {record : Value} {c : Config} {operators bindings : List (String × Value)}
      (operatorsAt : record.tableAt? "operators" = some operators)
      (bindingsAt : record.tableAt? "variables" = some bindings)
      (operatorsHeld : c.operators.Holds Symbol.text Operator.ofRecord operators)
      (bindingsHeld : c.bindings.Holds id Value.toNumber bindings) :
      Does session (.construct record) ⟨session.configs ++ [c]⟩
  | register {place : Nat} {c c' : Config} {s : Symbol} {record : Value} {op : Operator}
      (stands : session.configs[place]? = some c) (described : Operator.ofRecord record = .ok op)
      (rebinds : c.operators.Rebinds c'.operators s op) (kept : c'.bindings = c.bindings) :
      Does session (.register place s.text record) ⟨session.configs.set place c'⟩
  | assign {place : Nat} {c c' : Config} {name : String} {value : Value} {x : Float}
      (stands : session.configs[place]? = some c) (converted : value.convert = .ok x)
      (rebinds : c.bindings.Rebinds c'.bindings name x) (kept : c'.operators = c.operators) :
      Does session (.assign place name value) ⟨session.configs.set place c'⟩

/-! ## One action -/

section Step

variable {session : Session} {place : Nat}

theorem add_error (session : Session) (issues : List Issue) :
    session.add (.error issues) = ⟨session, some (.rejected (.issues issues))⟩ :=
  rfl

theorem change_of_error {edit : Config → Except Rejection Config} {c : Config} {cause : Rejection}
    (stands : session.configs[place]? = some c) (rejected : edit c = .error cause) :
    session.change place edit = ⟨session, some (.rejected cause)⟩ := by
  rw [change, stands]
  dsimp only
  rw [rejected]

theorem change_cases (session : Session) (place : Nat) (edit : Config → Except Rejection Config) :
    (∃ c c', session.configs[place]? = some c ∧ edit c = .ok c' ∧
        session.change place edit = ⟨⟨session.configs.set place c'⟩, none⟩) ∨
      ∃ cause, session.change place edit = ⟨session, some cause⟩ := by
  cases stands : session.configs[place]? with
  | none => exact .inr ⟨.nowhere place, by rw [change, stands]⟩
  | some c =>
    cases edited : edit c with
    | error cause => exact .inr ⟨_, change_of_error stands edited⟩
    | ok c' =>
      refine .inl ⟨c, c', rfl, edited, ?_⟩
      rw [change, stands]
      dsimp only
      rw [edited]

/-- An action is done, or it is refused and nothing changes. -/
theorem act_cases (session : Session) (action : Action) :
    ((session.act action).refusal = none ∧ session.Does action (session.act action).session) ∨
      ∃ cause, session.act action = ⟨session, some cause⟩ := by
  cases action with
  | standard => exact .inl ⟨rfl, .standard⟩
  | empty => exact .inl ⟨rfl, .empty⟩
  | construct record =>
    rw [act]
    cases described : Config.ofRecord record with
    | error issues => exact .inr ⟨_, session.add_error issues⟩
    | ok c =>
      obtain ⟨operators, bindings, operatorsAt, bindingsAt, operatorsHeld, bindingsHeld⟩ :=
        Config.holds_of_ofRecord described
      exact .inl ⟨rfl, .construct operatorsAt bindingsAt operatorsHeld bindingsHeld⟩
  | register place symbol record =>
    rw [act]
    rcases session.change_cases place fun c => c.register symbol record with
      ⟨c, c', stands, edited, changed⟩ | refused
    · obtain ⟨s, op, rfl, described, rfl⟩ := Config.register_eq_ok_iff.mp edited
      rw [changed]
      exact .inl ⟨rfl, .register stands described (c.operators.rebinds_insert s.1 op) rfl⟩
    · exact .inr refused
  | assign place name value =>
    rw [act]
    rcases session.change_cases place fun c => c.assign name value with
      ⟨c, c', stands, edited, changed⟩ | refused
    · obtain ⟨n, x, rfl, converted, rfl⟩ := Config.assign_eq_ok_iff.mp edited
      rw [changed]
      exact .inl ⟨rfl, .assign stands converted (c.bindings.rebinds_insert n.1 x) rfl⟩
    · exact .inr refused

end Step

/-! ## Precedences -/

/-- The precedences of all operators of a session are given by actions, and none is
below zero. -/
def Founded (actions : List Action) (session : Session) : Prop :=
  ∀ c ∈ session.configs, ∀ s op, c.operators.find? s = some op →
    ∃ action ∈ actions, ∃ n, action.GivesPrecedence s n ∧ 0 ≤ n ∧ (op.precedence : Int) = n

theorem founded_start (actions : List Action) : Founded actions start := by
  intro c hc
  cases hc

theorem Founded.does {actions : List Action} {session session' : Session} {action : Action}
    (founded : Founded actions session) (h : session.Does action session') :
    Founded (actions ++ [action]) session' := by
  have earlier : ∀ c ∈ session.configs, ∀ s op, c.operators.find? s = some op →
      ∃ other ∈ actions ++ [action], ∃ n, other.GivesPrecedence s n ∧ 0 ≤ n ∧
        (op.precedence : Int) = n := by
    intro c hc s op bound
    obtain ⟨other, member, given⟩ := founded c hc s op bound
    exact ⟨other, List.mem_append_left _ member, given⟩
  have now : action ∈ actions ++ [action] := List.mem_append_right _ List.mem_cons_self
  intro c hc s op bound
  cases h with
  | standard =>
    rcases List.mem_append.mp hc with before | made
    · exact earlier c before s op bound
    · obtain rfl := List.mem_singleton.mp made
      exact ⟨_, now, op.precedence, .standard bound, by omega, rfl⟩
  | empty =>
    rcases List.mem_append.mp hc with before | made
    · exact earlier c before s op bound
    · obtain rfl := List.mem_singleton.mp made
      cases bound
  | construct operatorsAt _ operatorsHeld _ =>
    rcases List.mem_append.mp hc with before | made
    · exact earlier c before s op bound
    · obtain rfl := List.mem_singleton.mp made
      obtain ⟨field, member, key, described⟩ := operatorsHeld.found s op bound
      obtain ⟨v, n, given, whole, least, same⟩ := Operator.exists_precedence described
      exact ⟨_, now, n, .construct operatorsAt member key given whole, least, same⟩
  | @register place before c' symbol record registered stands described rebinds kept =>
    rcases List.mem_or_eq_of_mem_set hc with other | rfl
    · exact earlier c other s op bound
    · by_cases same : s = symbol
      · subst same
        obtain rfl : registered = op := Option.some.inj (rebinds.bound.symm.trans bound)
        obtain ⟨v, n, given, whole, least, same⟩ := Operator.exists_precedence described
        exact ⟨_, now, n, .register given whole, least, same⟩
      · rw [rebinds.others s same] at bound
        exact earlier before (List.mem_of_getElem? stands) s op bound
  | @assign place before c' name value x stands converted rebinds kept =>
    rcases List.mem_or_eq_of_mem_set hc with other | rfl
    · exact earlier c other s op bound
    · rw [kept] at bound
      exact earlier before (List.mem_of_getElem? stands) s op bound

theorem Founded.act {actions : List Action} {session : Session} (founded : Founded actions session)
    (action : Action) : Founded (actions ++ [action]) (session.act action).session := by
  rcases session.act_cases action with ⟨_, done⟩ | ⟨cause, refused⟩
  · exact founded.does done
  · rw [refused]
    intro c hc s op bound
    obtain ⟨other, member, given⟩ := founded c hc s op bound
    exact ⟨other, List.mem_append_left _ member, given⟩

theorem run_append (actions : List Action) (action : Action) :
    run (actions ++ [action]) = ((run actions).act action).session := by
  rw [run, run, List.foldl_append]
  rfl

theorem founded_run (actions : List Action) : Founded actions (run actions) := by
  induction actions using List.reverseRecOn with
  | nil => exact founded_start []
  | append_singleton actions action ih =>
    rw [run_append]
    exact ih.act action

/-! ## Sessions in order -/

/-- What holds after a run, and of whatever is done next. -/
structure Orderly (actions : List Action) : Prop where
  symbols : ∀ c ∈ (run actions).configs, ∀ s ∈ c.operators.keys,
    ∃ char, s.text.toList = [char] ∧ isDigit char = false ∧ isLetter char = false ∧
      isBlank char = false ∧ char ≠ '(' ∧ char ≠ ')'
  precedences : Founded actions (run actions)
  names : ∀ c ∈ (run actions).configs, ∀ n ∈ c.bindings.keys,
    n.toList ≠ [] ∧ ∀ char ∈ n.toList, isLetter char = true
  refused : ∀ action cause, ((run actions).act action).refusal = some cause →
    ((run actions).act action).session = run actions
  done : ∀ action, ((run actions).act action).refusal = none →
    (run actions).Does action ((run actions).act action).session
  recordFirst : ∀ place symbol record c issues, (run actions).configs[place]? = some c →
    Operator.ofRecord record = .error issues →
    ((run actions).act (.register place symbol record)).refusal = some (.rejected (.issues issues))
  numberFirst : ∀ place name value c cause, (run actions).configs[place]? = some c →
    Value.convert value = .error cause →
    ((run actions).act (.assign place name value)).refusal = some (.rejected (.conversion cause))
  operatorsFirst : ∀ record fields, Value.tableAt? record "operators" = some fields →
    (∃ field ∈ fields, ∃ issues, Operator.ofRecord field.2 = .error issues) →
    ∃ others : List Issue, (∀ issue ∈ others, issue.path.head? = some "variables") ∧
      ((run actions).act (.construct record)).refusal = some (.rejected (.issues
        ((valueIssues Operator.ofRecord fields).map (.below "operators") ++ others)))
  variablesFirst : ∀ record fields, Value.tableAt? record "variables" = some fields →
    (∃ field ∈ fields, ∃ issues, Value.toNumber field.2 = .error issues) →
    ∃ others : List Issue, (∀ issue ∈ others, issue.path.head? = some "operators") ∧
      ((run actions).act (.construct record)).refusal = some (.rejected (.issues
        (others ++ (valueIssues Value.toNumber fields).map (.below "variables"))))

theorem orderly_run (actions : List Action) : Orderly actions where
  symbols := by
    intro c _ s hs
    obtain ⟨notDigit, notLetter, notBlank⟩ := Symbol.isUsable_iff.mp (c.symbols_usable s hs)
    exact ⟨s.char, s.toList_text, notDigit, notLetter, notBlank, s.not_parenthesis⟩
  precedences := founded_run actions
  names := by
    intro c _ n hn
    have lettered := c.names_lettered n hn
    rw [isLettered, Bool.and_eq_true, List.all_eq_true] at lettered
    exact ⟨by simpa using lettered.1, lettered.2⟩
  refused := by
    intro action cause h
    rcases (run actions).act_cases action with ⟨done, _⟩ | ⟨_, refused⟩
    · rw [done] at h
      cases h
    · rw [refused]
  done := by
    intro action h
    rcases (run actions).act_cases action with ⟨_, done⟩ | ⟨_, refused⟩
    · exact done
    · rw [refused] at h
      cases h
  recordFirst := by
    intro place symbol record c issues stands bad
    rw [act, change_of_error stands (by rw [Config.register, bad])]
  numberFirst := by
    intro place name value c cause stands bad
    rw [act, change_of_error stands (by rw [Config.assign, bad])]
  operatorsFirst := by
    intro record fields described bad
    obtain ⟨others, elsewhere, reported⟩ := Config.ofRecord_of_bad_operator described bad
    exact ⟨others, elsewhere, by rw [act, reported, add_error]⟩
  variablesFirst := by
    intro record fields described bad
    obtain ⟨others, elsewhere, reported⟩ := Config.ofRecord_of_bad_number described bad
    exact ⟨others, elsewhere, by rw [act, reported, add_error]⟩

end Session

end Abacus
