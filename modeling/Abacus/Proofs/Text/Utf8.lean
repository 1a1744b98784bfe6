/-
# What is written in UTF-8 is read again

A character is written in one to four bytes, by the size of its code:

    code          lead               continuations
    < 0x80        code
    < 0x800       0xc0 + code / 64   one
    < 0x10000     0xe0 + code / 4096 two
    otherwise     0xf0 + code / 2^18 three

each continuation being 0x80 and six bits more.  The decoder narrows the span of the first
continuation, so that nothing but the shortest form of a character is read, and no
surrogate.  A character has its shortest form and is no surrogate, so the narrowing does not
touch it (`narrowed_holds`), and text is read back as it was (`decodeUtf8_encodeUtf8`).
-/
import Abacus.Text.Utf8

namespace Abacus.Text

def encodeUtf8 (text : List Char) : List UInt8 :=
  text.flatMap String.utf8EncodeChar

@[simp] theorem encodeUtf8_nil : encodeUtf8 [] = [] :=
  rfl

theorem encodeUtf8_cons (c : Char) (text : List Char) :
    encodeUtf8 (c :: text) = String.utf8EncodeChar c ++ encodeUtf8 text :=
  List.flatMap_cons

/-! ## Lead bytes -/

theorem Lead.ofByte?_one {code : Nat} (h : code < 0x80) : ofByte? code = some ⟨code, []⟩ :=
  if_pos h

theorem Lead.ofByte?_two {payload : Nat} (long : 2 ≤ payload) (h : payload < 0x20) :
    ofByte? (payload + 0xc0) = some ⟨payload, [plainTail]⟩ := by
  rw [ofByte?, if_neg (by omega), if_neg (by omega), if_pos (by omega), Nat.add_sub_cancel]

theorem Lead.ofByte?_three {payload : Nat} (h : payload < 0x10) :
    ofByte? (payload + 0xe0) = some ⟨payload, [if payload + 0xe0 = 0xe0 then (0xa0, 0xbf)
      else if payload + 0xe0 = 0xed then (0x80, 0x9f) else plainTail, plainTail]⟩ := by
  rw [ofByte?, if_neg (by omega), if_neg (by omega), if_neg (by omega), if_pos (by omega),
    Nat.add_sub_cancel]

theorem Lead.ofByte?_four {payload : Nat} (h : payload < 5) :
    ofByte? (payload + 0xf0) = some ⟨payload, [if payload + 0xf0 = 0xf0 then (0x90, 0xbf)
      else if payload + 0xf0 = 0xf4 then (0x80, 0x8f) else plainTail, plainTail, plainTail]⟩ := by
  rw [ofByte?, if_neg (by omega), if_neg (by omega), if_neg (by omega), if_neg (by omega),
    if_pos (by omega), Nat.add_sub_cancel]

/-! ## Continuations -/

theorem toNat_ofNat_byte {n : Nat} (h : n < 256) : (UInt8.ofNat n).toNat = n :=
  UInt8.toNat_ofNat_of_lt h

theorem readContinuations_cons {payload six : Nat} {span : Nat × Nat} {wanted : List (Nat × Nat)}
    {bytes : List UInt8} {found : Nat × List UInt8} (small : six < 0x40)
    (inside : span.1 ≤ six + 0x80 ∧ six + 0x80 ≤ span.2)
    (rest : readContinuations (payload * 64 + six) wanted bytes = .ok found) :
    readContinuations payload (span :: wanted) (.ofNat (six + 0x80) :: bytes) = .ok found := by
  obtain ⟨low, high⟩ := span
  rw [readContinuations, toNat_ofNat_byte (by omega), if_pos inside, Nat.add_sub_cancel, rest]

theorem plainTail_holds {six : Nat} (small : six < 0x40) :
    plainTail.1 ≤ six + 0x80 ∧ six + 0x80 ≤ plainTail.2 :=
  ⟨Nat.le_add_left 0x80 six, Nat.add_le_add_right (Nat.le_of_lt_succ small) 0x80⟩

/-- A span that is narrowed from below for one lead, and from above for another. -/
theorem narrowed_holds {least greatest : Prop} [Decidable least] [Decidable greatest] {low high six : Nat}
    (small : six < 0x40) (above : least → low ≤ six + 0x80) (below : greatest → six + 0x80 ≤ high) :
    let span := if least then (low, 0xbf) else if greatest then (0x80, high) else plainTail
    span.1 ≤ six + 0x80 ∧ six + 0x80 ≤ span.2 := by
  by_cases first : least
  · rw [if_pos first]
    exact ⟨above first, (plainTail_holds small).2⟩
  · rw [if_neg first]
    by_cases last : greatest
    · rw [if_pos last]
      exact ⟨(plainTail_holds small).1, below last⟩
    · rw [if_neg last]
      exact plainTail_holds small

/-! ## Codes -/

/-- A lead byte and the bytes after it are the code, whatever follows. -/
structure Lead.Spells (lead : Lead) (b : UInt8) (more : List UInt8) (code : Nat) : Prop where
  starts : ofByte? b.toNat = some lead
  continued : ∀ rest, readContinuations lead.payload lead.continuations (more ++ rest) = .ok (code, rest)

section Codes

variable {code : Nat}

theorem exists_spells_one (h : code ≤ 0x7f) : ∃ lead : Lead, lead.Spells (.ofNat code) [] code := by
  refine ⟨⟨code, []⟩, ?_, fun rest => rfl⟩
  rw [toNat_ofNat_byte (by omega)]
  exact Lead.ofByte?_one (by omega)

theorem exists_spells_two (long : 0x7f < code) (h : code ≤ 0x7ff) :
    ∃ lead : Lead, lead.Spells (.ofNat (code / 64 % 0x20 + 0xc0)) [.ofNat (code % 0x40 + 0x80)] code := by
  refine ⟨⟨code / 64 % 0x20, [plainTail]⟩, ?_, fun rest => ?_⟩
  · rw [toNat_ofNat_byte (by omega)]
    exact Lead.ofByte?_two (by omega) (by omega)
  · apply readContinuations_cons (by omega) (plainTail_holds (by omega))
    rw [readContinuations, show code / 64 % 0x20 * 64 + code % 0x40 = code by omega]
    rfl

theorem exists_spells_three (long : 0x7ff < code) (h : code ≤ 0xffff)
    (plain : code < 0xd800 ∨ 0xdfff < code) :
    ∃ lead : Lead, lead.Spells (.ofNat (code / 4096 % 0x10 + 0xe0))
      [.ofNat (code / 64 % 0x40 + 0x80), .ofNat (code % 0x40 + 0x80)] code := by
  refine ⟨_, by rw [toNat_ofNat_byte (by omega)]; exact Lead.ofByte?_three (by omega), fun rest => ?_⟩
  apply readContinuations_cons (by omega) (narrowed_holds (by omega) (by omega) (by omega))
  apply readContinuations_cons (by omega) (plainTail_holds (by omega))
  have spelt : (code / 4096 % 0x10 * 64 + code / 64 % 0x40) * 64 + code % 0x40 = code := by omega
  rw [readContinuations, spelt]
  rfl

theorem exists_spells_four (long : 0xffff < code) (h : code < 0x110000) :
    ∃ lead : Lead, lead.Spells (.ofNat (code / 262144 % 0x08 + 0xf0))
      [.ofNat (code / 4096 % 0x40 + 0x80), .ofNat (code / 64 % 0x40 + 0x80),
        .ofNat (code % 0x40 + 0x80)] code := by
  refine ⟨_, by rw [toNat_ofNat_byte (by omega)]; exact Lead.ofByte?_four (by omega), fun rest => ?_⟩
  apply readContinuations_cons (by omega) (narrowed_holds (by omega) (by omega) (by omega))
  apply readContinuations_cons (by omega) (plainTail_holds (by omega))
  apply readContinuations_cons (by omega) (plainTail_holds (by omega))
  have spelt : ((code / 262144 % 0x08 * 64 + code / 4096 % 0x40) * 64 + code / 64 % 0x40) * 64 +
      code % 0x40 = code := by omega
  rw [readContinuations, spelt]
  rfl

end Codes

/-! ## Characters and texts -/

theorem toNat_cases (c : Char) : c.toNat < 0xd800 ∨ 0xdfff < c.toNat ∧ c.toNat < 0x110000 :=
  c.valid

/-- The bytes of a character are a lead and the continuations that it asks for. -/
theorem exists_lead (c : Char) :
    ∃ b more, String.utf8EncodeChar c = b :: more ∧ ∃ lead : Lead, lead.Spells b more c.toNat := by
  have plain := toNat_cases c
  by_cases one : c.toNat ≤ 0x7f
  · exact ⟨.ofNat c.toNat, [], if_pos one, exists_spells_one one⟩
  by_cases two : c.toNat ≤ 0x7ff
  · have long : 0x7f < c.toNat := by omega
    exact ⟨_, _, (if_neg one).trans (if_pos two), exists_spells_two long two⟩
  by_cases three : c.toNat ≤ 0xffff
  · have long : 0x7ff < c.toNat := by omega
    exact ⟨_, _, (if_neg one).trans ((if_neg two).trans (if_pos three)),
      exists_spells_three long three (plain.imp_right And.left)⟩
  · have long : 0xffff < c.toNat := by omega
    have last : c.toNat < 0x110000 := by omega
    exact ⟨_, _, (if_neg one).trans ((if_neg two).trans (if_neg three)), exists_spells_four long last⟩

theorem decodeFrom_append {c : Char} {rest : List UInt8} {text : List Char}
    (h : ∀ position, decodeFrom position rest = .ok text) (position : Nat) :
    decodeFrom position (String.utf8EncodeChar c ++ rest) = .ok (c :: text) := by
  obtain ⟨b, more, bytes, lead, starts, continued⟩ := exists_lead c
  rw [bytes, List.cons_append, decodeFrom, starts]
  dsimp only
  split
  next wrong => rw [continued] at wrong; cases wrong
  next read =>
    rw [continued] at read
    cases read
    rw [h, Char.ofNat_toNat]

/-- What is written is read, wherever it stands. -/
theorem decodeFrom_encodeUtf8 (text : List Char) (position : Nat) :
    decodeFrom position (encodeUtf8 text) = .ok text := by
  induction text generalizing position with
  | nil => rw [encodeUtf8_nil, decodeFrom]
  | cons c text ih => rw [encodeUtf8_cons, decodeFrom_append ih]

/-- Every text can be read from its bytes. -/
theorem decodeUtf8_encodeUtf8 (text : List Char) : decodeUtf8 (encodeUtf8 text) = .ok text :=
  decodeFrom_encodeUtf8 text 0

end Abacus.Text
