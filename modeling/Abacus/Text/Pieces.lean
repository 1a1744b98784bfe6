/-
The pieces of a text between the occurrences of a character.

There is one piece more than there are occurrences, so a text without any is a
single piece, and pieces may be empty.
-/

namespace Abacus.Text

/-- The first piece begins with one more character. -/
def prependToFirst (c : Char) : List (List Char) → List (List Char)
  | [] => [[c]]
  | piece :: others => (c :: piece) :: others

/-- The pieces between the occurrences of a character. -/
def pieces (separator : Char) : List Char → List (List Char)
  | [] => [[]]
  | c :: rest =>
    if c = separator then [] :: pieces separator rest else prependToFirst c (pieces separator rest)

theorem mem_of_mem_prependToFirst {c d : Char} {all : List (List Char)} {piece : List Char}
    (hp : piece ∈ prependToFirst c all) (hd : d ∈ piece) : d = c ∨ ∃ p ∈ all, d ∈ p := by
  cases all with
  | nil => simp [prependToFirst] at hp; subst hp; simp at hd; exact .inl hd
  | cons p others =>
    simp only [prependToFirst, List.mem_cons] at hp
    rcases hp with rfl | hp
    · rcases List.mem_cons.mp hd with rfl | hd
      · exact .inl rfl
      · exact .inr ⟨p, by simp, hd⟩
    · exact .inr ⟨piece, by simp [hp], hd⟩

theorem mem_of_mem_pieces {separator d : Char} {text piece : List Char}
    (hp : piece ∈ pieces separator text) (hd : d ∈ piece) : d ∈ text := by
  induction text generalizing piece with
  | nil => simp [pieces] at hp; subst hp; simp at hd
  | cons c rest ih =>
    unfold pieces at hp
    split at hp
    · rcases List.mem_cons.mp hp with rfl | hp
      · simp at hd
      · exact List.mem_cons_of_mem c (ih hp hd)
    · rcases mem_of_mem_prependToFirst hp hd with rfl | ⟨p, hp, hd⟩
      · simp
      · exact List.mem_cons_of_mem c (ih hp hd)

/-- The text is its pieces, with a separator in front of each but the first, which has none in it. -/
theorem exists_pieces (separator : Char) (text : List Char) :
    ∃ first others, pieces separator text = first :: others ∧ separator ∉ first ∧
      text = first ++ (others.map (separator :: ·)).flatten := by
  induction text with
  | nil => exact ⟨[], [], rfl, List.not_mem_nil, rfl⟩
  | cons c rest ih =>
    obtain ⟨first, others, cut, free, whole⟩ := ih
    rw [pieces, cut]
    by_cases same : c = separator
    · refine ⟨[], first :: others, if_pos same, List.not_mem_nil, ?_⟩
      simp [same, ← whole]
    · refine ⟨c :: first, others, if_neg same, ?_, by rw [List.cons_append, ← whole]⟩
      simp [Ne.symm same, free]

end Abacus.Text
