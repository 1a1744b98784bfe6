/-
# An outcome is one line

An outcome is rendered from three kinds of text, and none of them has a line break
unless the expression itself has one:

| text | why it is one line |
| :-- | :-- |
| a value | digits, signs, a point, and the letters of `e`, `inf` and `nan` |
| a quoted text | a quote shows every break by a letter or by number |
| the tokens that are left over | they stand in the expression |

The last is all that an error message quotes without quotes.  It holds under every
configuration (`isOneLine_message_of_evaluate`): which characters are operators does
not matter, since what is scanned is cut out of the text.
-/
import Abacus.Proofs.Errors
import Abacus.Proofs.Numbers
import Abacus.Proofs.Relevance
import Abacus.Proofs.Text.Lines
import Abacus.Proofs.Tree.Printed
import Abacus.Outcome

namespace Abacus

open Abacus.Text

/-! ## Numbers -/

def isNumberCharacter (c : Char) : Bool :=
  c.isDigit || ".+-aefin".toList.contains c

/-- The text has no other characters than those of numbers. -/
def IsNumeric (text : List Char) : Prop :=
  ∀ c ∈ text, isNumberCharacter c = true

instance (text : List Char) : Decidable (IsNumeric text) :=
  List.decidableBAll _ text

@[simp] theorem isNumeric_cons {c : Char} {rest : List Char} :
    IsNumeric (c :: rest) ↔ isNumberCharacter c = true ∧ IsNumeric rest :=
  List.forall_mem_cons

@[simp] theorem isNumeric_append {front back : List Char} :
    IsNumeric (front ++ back) ↔ IsNumeric front ∧ IsNumeric back :=
  List.forall_mem_append

theorem isNumeric_decimalDigits (n : Nat) : IsNumeric (decimalDigits n) := by
  intro c hc
  rw [isNumberCharacter, isDigit_of_mem_decimalDigits c hc, Bool.true_or]

theorem isNumeric_positional {digits : List Char} (h : IsNumeric digits) (whole : Int) :
    IsNumeric (positional digits whole) := by
  have zeros : ∀ n, IsNumeric (List.replicate n '0') := by
    intro n c hc
    rw [List.eq_of_mem_replicate hc]
    decide
  have taken : ∀ n, IsNumeric (digits.take n) := fun n c hc => h c (List.mem_of_mem_take hc)
  have dropped : ∀ n, IsNumeric (digits.drop n) := fun n c hc => h c (List.mem_of_mem_drop hc)
  have point : isNumberCharacter '.' = true := by decide
  have zero : isNumberCharacter '0' = true := by decide
  unfold positional
  split
  · rw [isNumeric_append, isNumeric_cons, isNumeric_cons]
    exact ⟨⟨zero, point, zeros _⟩, h⟩
  · dsimp only
    split
    · rw [isNumeric_append, isNumeric_append]
      exact ⟨⟨h, zeros _⟩, by decide⟩
    · rw [isNumeric_append, isNumeric_cons]
      exact ⟨taken _, point, dropped _⟩

theorem isNumeric_exponential {digits : List Char} (h : IsNumeric digits) (exponent : Int) :
    IsNumeric (exponential digits exponent) := by
  have sign : isNumberCharacter (if exponent < 0 then '-' else '+') = true := by
    split <;> decide
  have power := isNumeric_decimalDigits exponent.natAbs
  unfold exponential
  dsimp only
  rw [isNumeric_append, isNumeric_append, isNumeric_cons, isNumeric_cons]
  refine ⟨⟨fun c hc => h c (List.mem_of_mem_take hc), ?fraction⟩, by decide, sign, ?padded⟩
  case fraction =>
    split
    · exact nofun
    · exact isNumeric_cons.mpr ⟨by decide, fun c hc => h c (List.mem_of_mem_drop hc)⟩
  case padded =>
    split
    · exact isNumeric_cons.mpr ⟨by decide, power⟩
    · exact power

theorem isNumeric_writeFloat (x : Float) : IsNumeric (writeFloat x).toList := by
  have sign : IsNumeric (if signBit x then ['-'] else []) := by
    split <;> decide
  have decimal : ∀ d : DecimalForm, IsNumeric d.text := by
    intro d
    have digits := isNumeric_decimalDigits d.digits
    unfold DecimalForm.text
    dsimp only
    split
    · exact isNumeric_positional digits _
    · exact isNumeric_exponential digits _
  unfold writeFloat
  split
  · decide
  · rw [String.toList_ofList, isNumeric_append]
    refine ⟨sign, ?_⟩
    split
    · decide
    · dsimp only
      split
      · decide
      · exact decimal _

namespace Token

theorem mem_joined {tokens : List Token} {c : Char} (h : c ∈ (joined tokens).toList) :
    c = ' ' ∨ ∃ t ∈ tokens, c ∈ t.text.toList := by
  rw [joined] at h
  induction tokens with
  | nil => simp at h
  | cons t tokens ih =>
    cases tokens with
    | nil => exact .inr ⟨t, List.mem_cons_self, by simpa using h⟩
    | cons u tokens =>
      rw [List.map_cons, String.intercalate_cons_of_ne_nil (by simp), String.toList_append,
        String.toList_append, List.mem_append, List.mem_append] at h
      rcases h with (first | space) | others
      · exact .inr ⟨t, List.mem_cons_self, first⟩
      · exact .inl (List.mem_singleton.mp space)
      · rcases ih others with space | ⟨t', member, inside⟩
        · exact .inl space
        · exact .inr ⟨t', List.mem_cons_of_mem t member, inside⟩

end Token

theorem subset_of_build_leftover {tokens rest : List Token} (h : build tokens = .error (.leftover rest)) :
    rest ⊆ tokens := by
  cases describes_of_build h with
  | leftover _ ends =>
    rw [ends]
    exact List.subset_append_left _ _

theorem mem_scan_of_leftover {config : Config} {text : String} {rest : List Token}
    (h : evaluate config text = .error (.malformed (.leftover rest))) {t : Token} (ht : t ∈ rest) :
    t ∈ scan config text.toList := by
  obtain ⟨tokens, reordered, built⟩ := exists_build_of_malformed h
  have given := subset_of_build_leftover built ht
  exact List.mem_of_mem_filter ((reorder_perm reordered).mem_iff.mp given)

end Abacus
