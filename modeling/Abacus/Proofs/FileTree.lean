/-
# Ways through a tree, before and after writing

A path is followed one step at a time, and a step is made from a directory only
(`FileTree.follow_cons`).  Two ways that part at their last steps do not meet again, if one of
them goes down there (`follow_ne`): the other then goes to a different entry, or up.

A file that is written replaces what is at its own place.  Where nothing was before, a place
above it becomes a directory; what was anywhere else stays (`entryAt?_write`).  So what a path
leads to is found afterwards as it was before, unless it is at the place of the file, or the
file takes the place of a directory that the path leads through (`find?_write`).
-/
import Abacus.FileTree

namespace Abacus

namespace FileTree

variable {α : Type} {t : FileTree α} {here there place reached steps : List String} {content : α} {e : Entry α}

/-- The place that one step leads to. -/
def placeAfter? (here : List String) (step : String) : Option (List String) :=
  if step = ".." then if here.isEmpty then none else some here.dropLast else some (here ++ [step])

theorem follow_cons (step : String) : t.follow here (step :: steps) =
    if t.isDirectory here then (placeAfter? here step).bind fun there => t.follow there steps else none := by
  rw [follow, placeAfter?]
  cases t.isDirectory here with
  | false => rfl
  | true =>
    by_cases up : step = ".."
    · cases here <;> simp [up]
    · simp [up]

theorem follow_append (front back : List String) :
    t.follow here (front ++ back) = (t.follow here front).bind fun there => t.follow there back := by
  induction front generalizing here with
  | nil => rfl
  | cons step front ih =>
    rw [List.cons_append, follow_cons, follow_cons]
    split
    next => rw [Option.bind_assoc]; simp only [ih]
    next => rfl

theorem follow_one {step : String} (h : t.follow here [step] = some reached) :
    placeAfter? here step = some reached := by
  rw [follow_cons] at h
  split at h
  next => simpa [follow] using h
  next => cases h

/-- Two ways that part at their last steps lead to two places, if one of these steps leads down. -/
theorem follow_ne {front : List String} {last other : String} (down : other ≠ "..") (apart : last ≠ other)
    (h : t.follow here (front ++ [last]) = some reached) :
    t.follow here (front ++ [other]) ≠ some reached := by
  intro h'
  rw [follow_append] at h h'
  obtain ⟨above, led, h⟩ := Option.bind_eq_some_iff.mp h
  rw [led, Option.bind_some] at h'
  have atOther := follow_one h'
  have atLast := follow_one h
  rw [placeAfter?, if_neg down] at atOther
  rw [← Option.some.inj atOther, placeAfter?] at atLast
  split at atLast
  next =>
    split at atLast
    next => cases atLast
    next =>
      have lengths := congrArg List.length (Option.some.inj atLast)
      rw [List.length_dropLast, List.length_append, List.length_singleton] at lengths
      omega
  next => exact apart (List.cons.inj (List.append_cancel_left (Option.some.inj atLast))).1

theorem isAbove_write (h : t.isAbove there = true) : (t.write place content).isAbove there = true := by
  rw [isAbove, write, List.any_append, ← isAbove, h, Bool.true_or]

theorem entryAt?_write (other : place ≠ there) (held : t.entryAt? there = some e) :
    (t.write place content).entryAt? there = some e := by
  unfold entryAt? at held ⊢
  have passed : (t.write place content).entries.reverse.find? (·.1 == there) =
      t.entries.reverse.find? (·.1 == there) := by
    simp [write, other]
  rw [passed]
  split at held
  next => exact held
  next =>
    split at held
    next above =>
      have still : (there.isEmpty || (t.write place content).isAbove there) = true := by
        rcases Bool.or_eq_true_iff.mp above with top | above
        · rw [top, Bool.true_or]
        · rw [isAbove_write above, Bool.or_true]
      rwa [if_pos still]
    next => cases held

theorem isDirectory_iff : t.isDirectory there = true ↔ t.entryAt? there = some .directory := by
  rw [isDirectory]
  cases t.entryAt? there with
  | none => simp
  | some e => cases e <;> simp

theorem isDirectory_write (free : t.isDirectory place = false) (h : t.isDirectory there = true) :
    (t.write place content).isDirectory there = true := by
  have other : place ≠ there := by
    rintro rfl
    exact absurd h (Bool.eq_false_iff.mp free)
  rw [isDirectory_iff] at h ⊢
  exact entryAt?_write other h

/-- A way that led somewhere before leads there afterwards, unless what is written takes the
place of a directory. -/
theorem follow_write (free : t.isDirectory place = false) (h : t.follow here steps = some reached) :
    (t.write place content).follow here steps = some reached := by
  induction steps generalizing here with
  | nil => exact h
  | cons step steps ih =>
    rw [follow_cons] at h ⊢
    split at h
    next directory =>
      obtain ⟨there, next, later⟩ := Option.bind_eq_some_iff.mp h
      rw [if_pos (isDirectory_write free directory), next, Option.bind_some]
      exact ih later
    next => cases h

theorem find?_write {p : Path} (free : t.isDirectory place = false) (other : t.place? p ≠ some place)
    (held : t.find? p = some e) : (t.write place content).find? p = some e := by
  rw [find?] at held ⊢
  obtain ⟨there, led, entry⟩ := Option.bind_eq_some_iff.mp held
  have still : (t.write place content).place? p = some there := by
    rw [place?] at led ⊢
    split at led
    next relative =>
      rw [if_pos relative]
      exact follow_write free led
    next => cases led
  rw [still, Option.bind_some]
  exact entryAt?_write (fun same => other (same ▸ led)) entry

end FileTree

end Abacus
