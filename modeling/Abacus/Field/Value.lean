/-
Untyped values, and the typed values that fields make of them.

A field is lenient where the value is clear.  An integer field takes integers, whole
doubles below `2 ^ 63` in size, truth values and texts of integers; a number field
takes integers, truth values and texts of numbers; a text field takes texts only.
-/
import Abacus.Field.Number
import Abacus.Operator

namespace Abacus

/-- A value as callers pass it. -/
inductive Value where
  | null
  | boolean (b : Bool)
  | integer (n : Int)
  | real (x : Float)
  | text (s : String)
  | function (operation : Operation)
  | list (items : List Value)
  | record (fields : List (String × Value))
deriving Inhabited

/-- A number that is not below a least one. -/
abbrev AtLeast (least : Nat) := { n : Nat // least ≤ n }

/-- The integer that a finite double is, if it is one. -/
def wholeValue? (x : Float) : Option Int :=
  let b := Binary.ofFloat x
  let signed (n : Nat) : Int := if b.negative then -n else n
  if 0 ≤ b.exponent then some (signed (b.significand * Nat.pow 2 b.exponent.toNat))
  else
    let unit := Nat.pow 2 (-b.exponent).toNat
    if b.significand % unit = 0 then some (signed (b.significand / unit)) else none

namespace Value

/-- The value under a key, if the value is a record that has it. -/
def field? (v : Value) (key : String) : Option Value :=
  match v with
  | record fields => (fields.find? fun entry => entry.1 == key).map Prod.snd
  | _ => none

/-- The integer that a field makes of a value. -/
def toInt : Value → Checked Int
  | boolean b => .ok (if b then 1 else 0)
  | integer n => .ok n
  | real x =>
    if x.isNaN || x.isInf then .refuse .notFinite
    else
      match wholeValue? x with
      | some n => if n.natAbs < Nat.pow 2 63 then .ok n else .refuse .oversizedInteger
      | none => .refuse .fractional
  | text s => readInteger s.toList
  | _ => .refuse .notInteger

/-- The number that a field makes of a value, if it is not below a least one. -/
def toNatFrom (least : Nat) (v : Value) : Checked (AtLeast least) :=
  v.toInt.andThen fun n =>
    if h : (least : Int) ≤ n then .ok ⟨n.toNat, by omega⟩ else .refuse .belowMinimum

def toNumber : Value → Checked Float
  | boolean b => .ok (if b then 1.0 else 0.0)
  | integer n =>
    let x := Float.ofInt n
    if x.isInf then .refuse .notNumber else .ok x
  | real x => .ok x
  | text s => match readReal? s.toList with
    | some x => .ok x
    | none => .refuse .unreadableNumber
  | _ => .refuse .notNumber

def toText : Value → Checked String
  | text s => .ok s
  | _ => .refuse .notText

def toFunction : Value → Checked Operation
  | function operation => .ok operation
  | _ => .refuse .notFunction

/-- A field that must be there. -/
def required {α : Type} (record : Value) (key : String) (check : Value → Checked α) : Checked α :=
  Checked.under key <|
    match record.field? key with
    | some v => check v
    | none => .refuse .missing

/-- A field with a default for when it is not there. -/
def optional {α : Type} (record : Value) (key : String) (default : α) (check : Value → Checked α) :
    Checked α :=
  Checked.under key <|
    match record.field? key with
    | some v => check v
    | none => .ok default

/-- A check that a null passes as nothing. -/
def orNull {α : Type} (check : Value → Checked α) : Value → Checked (Option α)
  | null => .ok none
  | v => (check v).map some

/-- The entries of a record, each checked, under their keys. -/
def toEntries {α : Type} (check : Value → Checked α) : Value → Checked (List (String × α))
  | record fields =>
    Checked.all <| fields.map fun (key, v) => Checked.under key ((check v).map fun a => (key, a))
  | _ => .refuse .notRecord

end Value

end Abacus
