/-
Taking arguments from left to right.

An option takes its value, attached or as the next argument.  The positional
takes its arguments from the first place where there are some, and only there.
What nobody takes is left over.
-/
import Abacus.Arguments.Item

namespace Abacus

/-- What was taken so far: the values of the options in order, the arguments of
the positional, whether it may take the next argument too, and what is left over. -/
structure Taken (α : Type) where
  values : List α
  positional : Option (List String)
  continues : Bool
  extras : List String

namespace Taken

variable {α : Type}

def nothing : Taken α := ⟨[], none, false, []⟩

def leave (t : Taken α) (argument : String) : Taken α :=
  { t with continues := false, extras := t.extras ++ [argument] }

def plain (t : Taken α) (arity : Arity) (argument : String) : Taken α :=
  match t.positional with
  | none => { t with positional := some [argument], continues := true }
  | some taken =>
    if t.continues ∧ arity = .many then { t with positional := some (taken ++ [argument]) }
    else t.leave argument

/-- The divider vanishes next to what the positional takes; `following` says that a
positional argument comes after it. -/
def divide (t : Taken α) (arity : Arity) (following : Bool) : Taken α :=
  match t.positional with
  | none => if following then t else t.leave "--"
  | some _ =>
    if t.continues then { t with continues := decide (arity = .many) } else t.leave "--"

def value (t : Taken α) (flag : Flag α) (read : String → Except String α) (text : String) :
    Except Halt (Taken α) :=
  match read text with
  | .error reason => .error (.usage (.badValue flag.names reason))
  | .ok a => .ok { t with values := t.values ++ [a], continues := false }

end Taken

namespace Grammar

variable {α : Type}

/-- What becomes of a short option without a value that has more attached.  Every
further character is a short option again, and help is given at the first that is none
or takes a value, or at the end.  No dash and no equals sign may stand in front of a
character, `separated` being true behind an equals sign; and `following` says that a
positional argument comes next, which may be the value that the last one takes. -/
def unbundle (g : Grammar α) (names : List String) (following separated : Bool) : List Char → Halt
  | [] => .usage (.unwantedValue names "")
  | c :: rest =>
    if separated || c = '-' then .usage (.unwantedValue names (String.ofList (c :: rest)))
    else
      match g.flag? ['-', c] with
      | none => .help
      | some (_, flag) =>
        match flag.read, rest with
        | some _, [] => if following then .help else .usage (.lacksValue flag.names)
        | some _, _ :: _ => .help
        | none, [] => .help
        | none, '=' :: rest => g.unbundle flag.names following true rest
        | none, rest => g.unbundle flag.names following false rest

def leadsWithPlain : List (Item α) → Bool
  | .plain _ :: _ => true
  | _ => false

def take (g : Grammar α) (t : Taken α) : List (Item α) → Except Halt (Taken α)
  | [] => .ok t
  | .plain argument :: rest =>
    if g.arity = .all ∧ t.positional = none then
      .ok { t with positional := some (argument :: rest.map Item.text) }
    else g.take (t.plain g.arity argument) rest
  | .divider :: rest =>
    if g.arity = .all ∧ t.positional = none ∧ leadsWithPlain rest then
      .ok { t with positional := some ("--" :: rest.map Item.text) }
    else g.take (t.divide g.arity (leadsWithPlain rest)) rest
  | .unknown argument :: rest => g.take (t.leave argument) rest
  | .option flag name attached _ :: rest =>
    match flag.read, attached with
    | none, none => .error .help
    | none, some attached =>
      if name.toList.take 2 = ['-', '-'] then .error (.usage (.unwantedValue flag.names attached.value))
      else
        .error (g.unbundle flag.names (leadsWithPlain rest) attached.separated attached.value.toList)
    | some read, some attached =>
      match t.value flag read attached.value with
      | .error halt => .error halt
      | .ok t => g.take t rest
    | some read, none =>
      match rest with
      | .plain value :: rest =>
        match t.value flag read value with
        | .error halt => .error halt
        | .ok t => g.take t rest
      | _ => .error (.usage (.lacksValue flag.names))

/-- Reads arguments: what the options and the positional took, and what is left over. -/
def parse (g : Grammar α) (arguments : List String) :
    Except Halt (List α × List String × List String) :=
  match g.classifyAll arguments with
  | .error e => .error (.usage e)
  | .ok items =>
    match g.take .nothing items with
    | .error halt => .error halt
    | .ok t =>
      match t.positional with
      | none => .error (.usage (.required g.positional))
      | some taken => .ok (t.values, taken, t.extras)

end Grammar

end Abacus
