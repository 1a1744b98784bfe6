/-
Strict decoding of UTF-8.

Only the shortest form of a character is accepted, and no surrogate.  A fault
says which bytes could not be read and why: the lead byte alone when it starts
no character, the lead byte and its good continuations when the next byte does
not continue the character, and all that is left when the input ends early.
-/

namespace Abacus.Text

inductive Utf8Flaw where
  | badStart
  | badContinuation
  | endsEarly
deriving DecidableEq, Repr

def Utf8Flaw.message : Utf8Flaw → String
  | badStart => "invalid start byte"
  | badContinuation => "invalid continuation byte"
  | endsEarly => "unexpected end of data"

/-- Bytes that could not be read: where they begin, the first of them and how many they are. -/
structure Utf8Fault where
  position : Nat
  byte : UInt8
  length : Nat
  flaw : Utf8Flaw
deriving DecidableEq, Repr

def hexByte (b : UInt8) : String :=
  String.ofList [Nat.digitChar (b.toNat / 16), Nat.digitChar (b.toNat % 16)]

/-- The wording of a fault: a single byte is shown, several are located. -/
def Utf8Fault.message (f : Utf8Fault) : String :=
  let bytes :=
    if f.length = 1 then s!"byte 0x{hexByte f.byte} in position {f.position}"
    else s!"bytes in position {f.position}-{f.position + f.length - 1}"
  s!"'utf-8' codec can't decode {bytes}: {f.flaw.message}"

/-- What a lead byte asks for: the payload it carries, and the span that each
byte after it must lie in. -/
structure Lead where
  payload : Nat
  continuations : List (Nat × Nat)

/-- The span of an ordinary continuation byte. -/
def plainTail : Nat × Nat := (0x80, 0xbf)

/-- The reading of a lead byte, if it starts a character.  The first
continuation is narrowed where a longer form, a surrogate or a number past the
last code point would begin. -/
def Lead.ofByte? (b : Nat) : Option Lead :=
  if b < 0x80 then some ⟨b, []⟩
  else if b < 0xc2 then none
  else if b < 0xe0 then some ⟨b - 0xc0, [plainTail]⟩
  else if b < 0xf0 then
    let second := if b = 0xe0 then (0xa0, 0xbf) else if b = 0xed then (0x80, 0x9f) else plainTail
    some ⟨b - 0xe0, [second, plainTail]⟩
  else if b < 0xf5 then
    let second := if b = 0xf0 then (0x90, 0xbf) else if b = 0xf4 then (0x80, 0x8f) else plainTail
    some ⟨b - 0xf0, [second, plainTail, plainTail]⟩
  else none

/-- Reads the continuations of a character: its code point and the bytes after
it, or the flaw and how many continuations were good. -/
def readContinuations (payload : Nat) : List (Nat × Nat) → List UInt8 →
    Except (Utf8Flaw × Nat) (Nat × List UInt8)
  | [], bytes => .ok (payload, bytes)
  | _ :: _, [] => .error (.endsEarly, 0)
  | (low, high) :: wanted, b :: bytes =>
    if low ≤ b.toNat ∧ b.toNat ≤ high then
      match readContinuations (payload * 64 + (b.toNat - 0x80)) wanted bytes with
      | .error (flaw, good) => .error (flaw, good + 1)
      | .ok found => .ok found
    else .error (.badContinuation, 0)

theorem readContinuations_length {payload : Nat} {wanted : List (Nat × Nat)} {bytes rest : List UInt8}
    {code : Nat} (h : readContinuations payload wanted bytes = .ok (code, rest)) :
    rest.length ≤ bytes.length := by
  induction wanted generalizing payload bytes with
  | nil => simp [readContinuations] at h; simp [h.2]
  | cons span wanted ih =>
    cases bytes with
    | nil => simp [readContinuations] at h
    | cons b bytes =>
      simp only [readContinuations] at h
      split at h
      · split at h
        · simp at h
        · next found heq =>
          cases h
          exact Nat.le_succ_of_le (ih heq)
      · simp at h

/-- Decodes the bytes that stand from `position` on in the whole input. -/
def decodeFrom (position : Nat) (bytes : List UInt8) : Except Utf8Fault (List Char) :=
  match bytes with
  | [] => .ok []
  | b :: bytes =>
    match Lead.ofByte? b.toNat with
    | none => .error ⟨position, b, 1, .badStart⟩
    | some lead =>
      match _h : readContinuations lead.payload lead.continuations bytes with
      | .error (flaw, good) => .error ⟨position, b, good + 1, flaw⟩
      | .ok (code, rest) =>
        match decodeFrom (position + 1 + lead.continuations.length) rest with
        | .error fault => .error fault
        | .ok text => .ok (Char.ofNat code :: text)
termination_by bytes.length
decreasing_by
  have := readContinuations_length _h
  simp only [List.length_cons]
  omega

def decodeUtf8 (bytes : List UInt8) : Except Utf8Fault (List Char) :=
  decodeFrom 0 bytes

end Abacus.Text
