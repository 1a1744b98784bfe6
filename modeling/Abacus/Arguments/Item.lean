/-
Telling arguments apart.

An option is known by one of its names, by the start of a long name, or by a
short name with its value attached.  A value is also attached behind an equals sign.  A positional argument is anything else that
does not look like an option; a number below zero and a text with a space in it
do not.  The first `--` divides: whatever follows is positional.
-/
import Abacus.Arguments
import Abacus.Text.Digit

namespace Abacus

open Abacus.Text

/-- A value that is attached to its option, and whether an equals sign separates the two. -/
structure Attachment where
  separated : Bool
  value : String
deriving DecidableEq, Repr

inductive Item (α : Type) where
  | plain (text : String)
  | divider
  | option (flag : Flag α) (name : String) (attached : Option Attachment) (text : String)
  | unknown (text : String)

/-- The argument as it was given. -/
def Item.text {α : Type} : Item α → String
  | plain text => text
  | divider => "--"
  | option _ _ _ text => text
  | unknown text => text

/-- An option that an argument may mean: the name that matched, and the value attached. -/
structure Reading (α : Type) where
  flag : Flag α
  name : String
  attached : Option Attachment

/-- What stands before the first equals sign, and what after it if there is one. -/
def splitAtEquals (text : List Char) : List Char × Option String :=
  let before := text.takeWhile (· ≠ '=')
  match text.dropWhile (· ≠ '=') with
  | [] => (before, none)
  | _ :: after => (before, some (String.ofList after))

/-- The start of an option, and the value attached to it behind an equals sign. -/
def splitAttachment (text : List Char) : List Char × Option Attachment :=
  let (start, value) := splitAtEquals text
  (start, value.map fun value => ⟨true, value⟩)

/-- The digits of any script, at least one. -/
def isDigits (text : List Char) : Bool :=
  !text.isEmpty && text.all isDecimal

/-- The text is a number below zero, whole or with digits after a point.  A line
feed may end it. -/
def isNegativeNumber (text : List Char) : Bool :=
  match text with
  | '-' :: rest =>
    let number := if rest.getLast? = some '\n' then rest.dropLast else rest
    isDigits number ||
      match number.dropWhile isDecimal with
      | '.' :: fraction => isDigits fraction
      | _ => false
  | _ => false

namespace Grammar

variable {α : Type}

def named (g : Grammar α) : List (String × Flag α) :=
  g.flags.flatMap fun flag => flag.names.map fun name => (name, flag)

def flag? (g : Grammar α) (name : List Char) : Option (String × Flag α) :=
  g.named.find? fun entry => entry.1.toList == name

/-- The options that an argument may mean without giving one of their names: a
start of a long name, or a short name with its value right after it. -/
def readings (g : Grammar α) (text : List Char) : List (Reading α) :=
  match text with
  | '-' :: '-' :: _ =>
    let (start, attached) := splitAttachment text
    g.named.filterMap fun (name, flag) =>
      if start.isPrefixOf name.toList then some ⟨flag, name, attached⟩ else none
  | _ =>
    g.named.filterMap fun (name, flag) =>
      if name.toList = text.take 2 then some ⟨flag, name, some ⟨false, String.ofList (text.drop 2)⟩⟩
      else if text.isPrefixOf name.toList then some ⟨flag, name, none⟩
      else none

/-- The option whose full name an argument gives, alone or before an equals sign. -/
def exactReading? (g : Grammar α) (text : List Char) : Option (Reading α) :=
  match g.flag? text with
  | some (name, flag) => some ⟨flag, name, none⟩
  | none =>
    match splitAttachment text with
    | (_, none) => none
    | (start, attached) => (g.flag? start).map fun (name, flag) => ⟨flag, name, attached⟩

/-- Tells what one argument is, `--` apart. -/
def classify (g : Grammar α) (argument : String) : Except UsageError (Item α) :=
  let text := argument.toList
  if text.head? ≠ some '-' then .ok (.plain argument)
  else
    match g.exactReading? text with
    | some r => .ok (.option r.flag r.name r.attached argument)
    | none =>
      if text.length = 1 then .ok (.plain argument)
      else
        match g.readings text with
        | [r] => .ok (.option r.flag r.name r.attached argument)
        | [] =>
          if isNegativeNumber text || text.contains ' ' then .ok (.plain argument)
          else .ok (.unknown argument)
        | several => .error (.ambiguous argument (several.map Reading.name))

def classifyAll (g : Grammar α) : List String → Except UsageError (List (Item α))
  | [] => .ok []
  | argument :: rest =>
    if argument = "--" then .ok (.divider :: rest.map .plain)
    else
      match g.classify argument with
      | .error e => .error e
      | .ok item =>
        match g.classifyAll rest with
        | .error e => .error e
        | .ok items => .ok (item :: items)

end Grammar

end Abacus
