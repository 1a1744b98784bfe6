/-
# The search goes through the choices in order

The solver takes the gaps for the equals sign one after the other.  At each it
evaluates all right-hand sides, and then left-hand sides until one equals one of
them.  Where everything that it meets has a value, this finds the first choice
whose two sides are equal:

    s.solve numbers = .ok (((choices k count).find? (s.holds numbers)).map (s.equationOf numbers))

No gap behind that of an equation is looked at, so nothing is asked of the sides
there (`solve_eq`).

A side without a value ends the search, where it is met.  At the first gap these
are all right-hand sides, and the first of the left-hand ones
(`exists_evaluate_of_solveAt`).
-/
import Abacus.Proofs.Solver.Choices

namespace Abacus

namespace Solver

variable {s : Solver} {numbers left right : List Int}

/-! ## One gap -/

theorem parts_ne_nil {gap : Nat} (pos : 0 < gap) (less : gap < numbers.length) :
    numbers.take gap ≠ [] ∧ numbers.drop gap ≠ [] := by
  constructor
  · apply List.ne_nil_of_length_pos
    rw [List.length_take]
    omega
  · apply List.ne_nil_of_length_pos
    rw [List.length_drop]
    omega

/-- Numbers with the symbols at the given places between them. -/
def side (s : Solver) (numbers : List Int) (p : List (Fin s.symbols.length)) : String :=
  sideText numbers (p.map s.symbols.get)

/-- The text with its value, as it is tried. -/
def tried (s : Solver) (text : String) : Candidate :=
  ⟨text, evaluate s.config text⟩

theorem candidates_eq (filled : numbers ≠ []) :
    s.candidates numbers =
      .ok ((places s.symbols.length (numbers.length - 1)).map fun p => s.tried (s.side numbers p)) := by
  cases numbers with
  | nil => exact absurd rfl filled
  | cons first others =>
    rw [candidates, expressions, fillings_eq, List.map_map, List.map_map]
    rfl

theorem solveAt_eq_match (filledLeft : left ≠ []) (filledRight : right ≠ []) :
    s.solveAt left right =
      match values ((places s.symbols.length (right.length - 1)).map fun q => s.tried (s.side right q)) with
      | .error e => .error (.expression e)
      | .ok rights =>
        (firstEqual rights
          ((places s.symbols.length (left.length - 1)).map fun p => s.tried (s.side left p))).mapError
            .expression := by
  rw [solveAt, candidates_eq filledLeft, candidates_eq filledRight]
  simp only [bind, Except.bind]
  cases values ((places s.symbols.length (right.length - 1)).map fun q => s.tried (s.side right q)) <;> rfl

/-! ## A gap where everything has a value -/

/-- The value of a text, or zero if it has none. -/
def valueOf (s : Solver) (text : String) : Float :=
  match evaluate s.config text with
  | .ok x => x
  | .error _ => 0

theorem evaluate_eq_valueOf {text : String} (valued : ∃ x, evaluate s.config text = .ok x) :
    evaluate s.config text = .ok (s.valueOf text) := by
  obtain ⟨x, valued⟩ := valued
  rw [valueOf, valued]

/-- The two sides of the choice are equal, if they have values. -/
def holds (s : Solver) (numbers : List Int) (c : Choice s.symbols.length) : Bool :=
  s.valueOf (s.lhs numbers c) == s.valueOf (s.rhs numbers c)

/-- The choice as an equation, with the value of its left-hand side. -/
def equationOf (s : Solver) (numbers : List Int) (c : Choice s.symbols.length) : Equation :=
  ⟨s.lhs numbers c, s.rhs numbers c, s.valueOf (s.lhs numbers c)⟩

theorem isEquation_iff {c : Choice s.symbols.length} (valued : s.HasValues numbers c) :
    s.IsEquation numbers c ↔ c.Fits numbers.length ∧ s.holds numbers c = true := by
  obtain ⟨⟨x, hx⟩, ⟨y, hy⟩⟩ := valued
  have test : s.holds numbers c = (x == y) := by rw [holds, valueOf, valueOf, hx, hy]
  rw [test]
  constructor
  · rintro ⟨fits, x', y', hx', hy', equal⟩
    rw [hx] at hx'
    rw [hy] at hy'
    cases hx'
    cases hy'
    exact ⟨fits, equal⟩
  · rintro ⟨fits, equal⟩
    exact ⟨fits, x, y, hx, hy, equal⟩

section

variable {candidates : List Candidate}

theorem values_eq (valued : ∀ c ∈ candidates, c.value = .ok (s.valueOf c.text)) :
    values candidates = .ok (candidates.map fun c => (s.valueOf c.text, c.text)) := by
  induction candidates with
  | nil => rfl
  | cons c rest ih =>
    rw [values, valued c List.mem_cons_self, ih fun d hd => valued d (List.mem_cons_of_mem c hd)]
    rfl

theorem firstEqual_eq (rights : List (Float × String))
    (valued : ∀ c ∈ candidates, c.value = .ok (s.valueOf c.text)) :
    firstEqual rights candidates =
      .ok (candidates.findSome? fun c =>
        (rights.find? fun right => s.valueOf c.text == right.1).map
          fun right => ⟨c.text, right.2, s.valueOf c.text⟩) := by
  induction candidates with
  | nil => rfl
  | cons c rest ih =>
    rw [firstEqual, valued c List.mem_cons_self, List.findSome?_cons]
    dsimp only
    cases rights.find? fun right => s.valueOf c.text == right.1 with
    | some right => rfl
    | none => exact ih fun d hd => valued d (List.mem_cons_of_mem c hd)

end

/-- All sides have values when the equals sign stands in the gap. -/
structure ValuedAt (s : Solver) (numbers : List Int) (gap : Nat) : Prop where
  left : ∀ p, p.length + 1 = gap → ∃ x, evaluate s.config (s.side (numbers.take gap) p) = .ok x
  right : ∀ q, gap + (q.length + 1) = numbers.length →
    ∃ y, evaluate s.config (s.side (numbers.drop gap) q) = .ok y

theorem ValuedAt.hasValues {c : Choice s.symbols.length} (valued : s.ValuedAt numbers c.gap)
    (fits : c.Fits numbers.length) : s.HasValues numbers c :=
  ⟨valued.left c.left fits.left, valued.right c.right fits.right⟩

theorem exists_places (s : Solver) (n : Nat) : ∃ p : List (Fin s.symbols.length), p.length = n :=
  ⟨List.replicate n ⟨0, List.length_pos_iff.mpr s.symbols_ne⟩, List.length_replicate⟩

theorem valuedAt_of_hasValues {gap : Nat} (pos : 0 < gap) (less : gap < numbers.length)
    (valued : ∀ c : Choice s.symbols.length, c.Fits numbers.length → c.gap = gap → s.HasValues numbers c) :
    s.ValuedAt numbers gap where
  left := by
    intro p length
    obtain ⟨q, hq⟩ := s.exists_places (numbers.length - gap - 1)
    exact (valued ⟨gap, p, q⟩ ⟨length, by simp only [hq]; omega⟩ rfl).1
  right := by
    intro q length
    obtain ⟨p, hp⟩ := s.exists_places (gap - 1)
    exact (valued ⟨gap, p, q⟩ ⟨by simp only [hp]; omega, length⟩ rfl).2

theorem tried_valued (places : List (List (Fin s.symbols.length)))
    (valued : ∀ p ∈ places, ∃ x, evaluate s.config (s.side numbers p) = .ok x) :
    ∀ c ∈ places.map fun p => s.tried (s.side numbers p), c.value = .ok (s.valueOf c.text) := by
  intro c hc
  obtain ⟨p, hp, rfl⟩ := List.mem_map.mp hc
  exact evaluate_eq_valueOf (valued p hp)

/-- At a gap where all sides have values, the first choice that holds is found. -/
theorem solveAt_eq {gap : Nat} (pos : 0 < gap) (less : gap < numbers.length)
    (valued : s.ValuedAt numbers gap) :
    s.solveAt (numbers.take gap) (numbers.drop gap) =
      .ok (((choicesAt s.symbols.length numbers.length gap).find? (s.holds numbers)).map
        (s.equationOf numbers)) := by
  have lengthLeft : (numbers.take gap).length = gap := List.length_take_of_le (by omega)
  have lengthRight : (numbers.drop gap).length = numbers.length - gap := List.length_drop
  have lefts : ∀ p ∈ places s.symbols.length (gap - 1),
      ∃ x, evaluate s.config (s.side (numbers.take gap) p) = .ok x := by
    intro p hp
    have length := mem_places_iff.mp hp
    exact valued.left p (by omega)
  have rights : ∀ q ∈ places s.symbols.length (numbers.length - gap - 1),
      ∃ y, evaluate s.config (s.side (numbers.drop gap) q) = .ok y := by
    intro q hq
    have length := mem_places_iff.mp hq
    exact valued.right q (by omega)
  obtain ⟨filledLeft, filledRight⟩ := parts_ne_nil pos less
  rw [solveAt_eq_match filledLeft filledRight, lengthLeft, lengthRight, values_eq (tried_valued _ rights)]
  dsimp only
  rw [firstEqual_eq _ (tried_valued _ lefts), choicesAt, List.find?_flatMap, List.map_findSome?,
    List.findSome?_map]
  simp only [Function.comp_def, List.find?_map, Option.map_map]
  rfl

/-! ## All gaps -/

theorem solveAmong_eq {gaps : List Nat} (sorted : gaps.Pairwise (· < ·))
    (bounds : ∀ gap ∈ gaps, 0 < gap ∧ gap < numbers.length)
    (valued : ∀ gap ∈ gaps, (∀ d, s.IsEquation numbers d → d.gap ∈ gaps → gap ≤ d.gap) →
      s.ValuedAt numbers gap) :
    s.solveAmong numbers gaps =
      .ok (((gaps.flatMap (choicesAt s.symbols.length numbers.length)).find? (s.holds numbers)).map
        (s.equationOf numbers)) := by
  induction gaps with
  | nil => rfl
  | cons gap gaps ih =>
    obtain ⟨later, sorted⟩ := List.pairwise_cons.mp sorted
    obtain ⟨pos, less⟩ := bounds gap List.mem_cons_self
    have here : s.ValuedAt numbers gap := by
      refine valued gap List.mem_cons_self fun d _ hd => ?_
      rcases List.mem_cons.mp hd with same | hd
      · exact same.ge
      · exact (later _ hd).le
    rw [solveAmong, solveAt_eq pos less here, List.flatMap_cons, List.find?_append]
    cases found : (choicesAt s.symbols.length numbers.length gap).find? (s.holds numbers) with
    | some c => rfl
    | none =>
      refine ih sorted (fun gap' h => bounds gap' (List.mem_cons_of_mem gap h)) ?_
      -- no equation has its equals sign here, so the first one is further on
      intro gap' hgap' first
      refine valued gap' (List.mem_cons_of_mem gap hgap') fun d equation hd => ?_
      rcases List.mem_cons.mp hd with rfl | hd
      · have fits := equation.fits
        have passes := ((isEquation_iff (here.hasValues fits)).mp equation).2
        exact absurd passes (List.find?_eq_none.mp found d fits.mem_choicesAt)
      · exact first d equation hd

theorem solve_eq_solveAmong (few : numbers.length ≤ s.limit) :
    s.solve numbers = s.solveAmong numbers (splits numbers.length) :=
  if_neg (by omega)

/-- If all choices up to the gap of an equation have values, the first choice that
holds is found. -/
theorem solve_eq (few : numbers.length ≤ s.limit)
    (valued : ∀ c : Choice s.symbols.length, c.Fits numbers.length →
      (∀ d, s.IsEquation numbers d → c.gap ≤ d.gap) → s.HasValues numbers c) :
    s.solve numbers =
      .ok (((choices s.symbols.length numbers.length).find? (s.holds numbers)).map
        (s.equationOf numbers)) := by
  rw [solve_eq_solveAmong few]
  refine solveAmong_eq (splits_pairwise _) (fun gap h => mem_splits_iff.mp h) ?_
  intro gap hgap first
  obtain ⟨pos, less⟩ := mem_splits_iff.mp hgap
  refine valuedAt_of_hasValues pos less fun c fits same => valued c fits fun d equation => ?_
  rw [same]
  exact first d equation equation.fits.mem_splits

/-! ## What the search has evaluated -/

section

variable {candidates : List Candidate}

theorem exists_value_of_values {out : List (Float × String)} (h : values candidates = .ok out) :
    ∀ c ∈ candidates, ∃ x, c.value = .ok x := by
  fun_induction values candidates generalizing out with
  | case1 => intro c hc; cases hc
  | case2 => cases h
  | case3 => cases h
  | case4 c rest x valued others run ih =>
    intro d hd
    rcases List.mem_cons.mp hd with rfl | hd
    · exact ⟨x, valued⟩
    · exact ih run d hd

theorem exists_error_of_values {e : ExpressionError} (h : values candidates = .error e) :
    ∃ c ∈ candidates, c.value = .error e := by
  fun_induction values candidates with
  | case1 => cases h
  | case2 c rest e' failed =>
    cases h
    exact ⟨c, List.mem_cons_self, failed⟩
  | case3 c rest x valued e' run ih =>
    cases h
    obtain ⟨d, hd, failed⟩ := ih run
    exact ⟨d, List.mem_cons_of_mem c hd, failed⟩
  | case4 => cases h

theorem exists_error_of_firstEqual {rights : List (Float × String)} {e : ExpressionError}
    (h : firstEqual rights candidates = .error e) : ∃ c ∈ candidates, c.value = .error e := by
  fun_induction firstEqual rights candidates with
  | case1 => cases h
  | case2 c rest e' failed =>
    cases h
    exact ⟨c, List.mem_cons_self, failed⟩
  | case3 => cases h
  | case4 c rest x valued missed ih =>
    obtain ⟨d, hd, failed⟩ := ih h
    exact ⟨d, List.mem_cons_of_mem c hd, failed⟩

theorem exists_value_of_firstEqual {rights : List (Float × String)} {found : Option Equation}
    (filled : candidates ≠ []) (h : firstEqual rights candidates = .ok found) :
    ∃ c ∈ candidates, ∃ x, c.value = .ok x := by
  cases candidates with
  | nil => exact absurd rfl filled
  | cons c rest =>
    refine ⟨c, List.mem_cons_self, ?_⟩
    cases valued : c.value with
    | ok x => exact ⟨x, rfl⟩
    | error e => simp [firstEqual, valued] at h

end

theorem exists_tried_of_mem {m : Nat} {c : Candidate}
    (h : c ∈ (places s.symbols.length m).map fun p => s.tried (s.side numbers p)) :
    ∃ p : List (Fin s.symbols.length), p.length = m ∧ c = s.tried (s.side numbers p) := by
  obtain ⟨p, hp, rfl⟩ := List.mem_map.mp h
  exact ⟨p, mem_places_iff.mp hp, rfl⟩

/-- A gap that does not end the search has values for all right-hand sides and for
a left-hand one. -/
theorem exists_evaluate_of_solveAt {found : Option Equation} (filledLeft : left ≠ [])
    (filledRight : right ≠ []) (h : s.solveAt left right = .ok found) :
    (∃ p, p.length + 1 = left.length ∧ ∃ x, evaluate s.config (s.side left p) = .ok x) ∧
      ∀ q, q.length + 1 = right.length → ∃ y, evaluate s.config (s.side right q) = .ok y := by
  have posLeft := List.length_pos_iff.mpr filledLeft
  have posRight := List.length_pos_iff.mpr filledRight
  rw [solveAt_eq_match filledLeft filledRight] at h
  split at h
  next => cases h
  next rights valued =>
    constructor
    · cases tried : firstEqual rights
          ((places s.symbols.length (left.length - 1)).map fun p => s.tried (s.side left p)) with
      | error e => rw [tried] at h; cases h
      | ok equation =>
        obtain ⟨p, hp⟩ := s.exists_places (left.length - 1)
        have filled : (places s.symbols.length (left.length - 1)).map
            (fun p => s.tried (s.side left p)) ≠ [] :=
          List.ne_nil_of_mem (List.mem_map_of_mem (mem_places_iff.mpr hp))
        obtain ⟨c, hc, x, value⟩ := exists_value_of_firstEqual filled tried
        obtain ⟨p, hp, rfl⟩ := exists_tried_of_mem hc
        exact ⟨p, by omega, x, value⟩
    · intro q hq
      have member : q ∈ places s.symbols.length (right.length - 1) := mem_places_iff.mpr (by omega)
      exact exists_value_of_values valued _ (List.mem_map_of_mem member)

theorem exists_error_of_solveAt {e : SolverError} (filledLeft : left ≠ []) (filledRight : right ≠ [])
    (h : s.solveAt left right = .error e) :
    ∃ cause, e = .expression cause ∧
      ∃ numbers p, evaluate s.config (s.side numbers p) = .error cause := by
  rw [solveAt_eq_match filledLeft filledRight] at h
  split at h
  next cause failed =>
    cases h
    obtain ⟨c, hc, value⟩ := exists_error_of_values failed
    obtain ⟨q, _, rfl⟩ := exists_tried_of_mem hc
    exact ⟨cause, rfl, right, q, value⟩
  next rights valued =>
    cases tried : firstEqual rights
        ((places s.symbols.length (left.length - 1)).map fun p => s.tried (s.side left p)) with
    | ok equation => rw [tried] at h; cases h
    | error cause =>
      rw [tried] at h
      cases h
      obtain ⟨c, hc, value⟩ := exists_error_of_firstEqual tried
      obtain ⟨p, _, rfl⟩ := exists_tried_of_mem hc
      exact ⟨cause, rfl, left, p, value⟩

theorem exists_error_of_solveAmong {gaps : List Nat} {e : SolverError}
    (bounds : ∀ gap ∈ gaps, 0 < gap ∧ gap < numbers.length) (h : s.solveAmong numbers gaps = .error e) :
    ∃ cause, e = .expression cause ∧
      ∃ numbers p, evaluate s.config (s.side numbers p) = .error cause := by
  induction gaps with
  | nil => cases h
  | cons gap gaps ih =>
    obtain ⟨pos, less⟩ := bounds gap List.mem_cons_self
    rw [solveAmong] at h
    split at h
    next => exact ih (fun gap' hgap' => bounds gap' (List.mem_cons_of_mem gap hgap')) h
    next =>
      obtain ⟨filledLeft, filledRight⟩ := parts_ne_nil pos less
      exact exists_error_of_solveAt filledLeft filledRight h

theorem exists_solveAt_of_solveAmong {gap : Nat} {gaps : List Nat} {found : Option Equation}
    (h : s.solveAmong numbers (gap :: gaps) = .ok found) :
    ∃ here, s.solveAt (numbers.take gap) (numbers.drop gap) = .ok here := by
  rw [solveAmong] at h
  split at h
  next none => exact ⟨_, none⟩
  next => exact ⟨found, h⟩

/-- If a gap that does not end the search has values only, so have all gaps up to that
of an equation. -/
theorem valuedAt_of_solveAmong {gaps : List Nat} {found : Option Equation}
    (sorted : gaps.Pairwise (· < ·)) (bounds : ∀ gap ∈ gaps, 0 < gap ∧ gap < numbers.length)
    (uniform : ∀ gap ∈ gaps, ∀ here, s.solveAt (numbers.take gap) (numbers.drop gap) = .ok here →
      s.ValuedAt numbers gap)
    (h : s.solveAmong numbers gaps = .ok found) :
    ∀ gap ∈ gaps, (∀ d, s.IsEquation numbers d → gap ≤ d.gap) → s.ValuedAt numbers gap := by
  induction gaps with
  | nil => intro gap hgap; cases hgap
  | cons gap gaps ih =>
    obtain ⟨later, sorted⟩ := List.pairwise_cons.mp sorted
    obtain ⟨pos, less⟩ := bounds gap List.mem_cons_self
    obtain ⟨here, solved⟩ := exists_solveAt_of_solveAmong h
    have valued := uniform gap List.mem_cons_self here solved
    intro gap' hgap' first
    rcases List.mem_cons.mp hgap' with rfl | behind
    · exact valued
    rw [solveAmong, solveAt_eq pos less valued] at h
    cases holding : (choicesAt s.symbols.length numbers.length gap).find? (s.holds numbers) with
    | none =>
      rw [holding] at h
      exact ih sorted (fun g hg => bounds g (List.mem_cons_of_mem gap hg))
        (fun g hg => uniform g (List.mem_cons_of_mem gap hg)) h gap' behind first
    | some c =>
      -- the search would have ended at this gap, with an equation in front of `gap'`
      obtain ⟨rfl, left, right⟩ := mem_choicesAt_iff.mp (List.mem_of_find?_eq_some holding)
      have fits : c.Fits numbers.length := ⟨by omega, by omega⟩
      have equation := (isEquation_iff (valued.hasValues fits)).mpr ⟨fits, List.find?_some holding⟩
      have before := later gap' behind
      have after := first c equation
      omega

end Solver

end Abacus
