/-
# What the candidates are

The candidates between `n` numbers are one for each way to fill the `n - 1` gaps with the
`k` symbols.  The ways are in the order of the numbers that they spell in base `k`, where
the first gap has the most significant digit:

    (places k n).map rank = List.range (k ^ n)          (map_rank_places)

So a place in the list says which symbols are in the gaps, and how many candidates there
are.  What is written is read back: the tree of a candidate has the numbers as its leaves
and the symbols as its operators, in their order (`Candidate.Fills`).  Its shape
hangs on the precedences, but the order does not (`Phrase.inorder_tree`).  Since the symbols
can be told from the text, no two ways to fill the gaps with distinct symbols give the same
text.
-/
import Mathlib.Data.Nat.Digits.Defs
import Abacus.Proofs.Solver.First
import Abacus.Proofs.Tree.Inorder

namespace Abacus

/-! ## Places as numbers -/

section Places

variable {k n : Nat}

/-- The number that places spell in base `k`, the first of them most significant. -/
def rank (p : List (Fin k)) : Nat :=
  Nat.ofDigits k (p.reverse.map Fin.val)

theorem rank_cons (i : Fin k) (p : List (Fin k)) : rank (i :: p) = k ^ p.length * i + rank p := by
  rw [rank, List.reverse_cons, List.map_append, Nat.ofDigits_append, List.length_map, List.length_reverse,
    Nat.add_comm, List.map_singleton, Nat.ofDigits_singleton]
  rfl

theorem range_mul (a b : Nat) :
    List.range (a * b) = (List.range a).flatMap fun i => (List.range b).map (b * i + ·) := by
  induction a with
  | zero => rw [Nat.zero_mul, List.range_zero, List.flatMap_nil]
  | succ a ih =>
    rw [Nat.succ_mul, List.range_add, List.range_succ, List.flatMap_append, ← ih, List.flatMap_singleton,
      Nat.mul_comm a b]

theorem map_rank_places (k n : Nat) : (places k n).map rank = List.range (k ^ n) := by
  induction n with
  | zero => rfl
  | succ n ih =>
    calc (places k (n + 1)).map rank
        = (List.finRange k).flatMap fun i => (places k n).map fun p => rank (i :: p) := by
          rw [places, List.map_flatMap]
          simp only [List.map_map]
          rfl
      _ = (List.finRange k).flatMap fun i => (List.range (k ^ n)).map (k ^ n * i.val + ·) := by
          apply List.flatMap_congr
          intro i _
          rw [← ih, List.map_map]
          apply List.map_congr_left
          intro p member
          rw [rank_cons, mem_places_iff.mp member]
          rfl
      _ = (List.range k).flatMap fun i => (List.range (k ^ n)).map (k ^ n * i + ·) := by
          rw [← List.map_coe_finRange_eq_range (n := k), List.flatMap_map]
      _ = List.range (k ^ (n + 1)) := by
          rw [← range_mul, Nat.pow_succ, Nat.mul_comm]

theorem length_places (k n : Nat) : (places k n).length = k ^ n := by
  have counted := congrArg List.length (map_rank_places k n)
  rwa [List.length_map, List.length_range] at counted

theorem nodup_places (k n : Nat) : (places k n).Nodup := by
  apply List.Nodup.of_map rank
  rw [map_rank_places]
  exact List.nodup_range

/-- Where places stand among all is the number that they spell. -/
theorem rank_getElem_places {i : Nat} (inside : i < (places k n).length) : rank (places k n)[i] = i := by
  have spelt : ((places k n).map rank)[i]? = (List.range (k ^ n))[i]? := by rw [map_rank_places]
  rw [List.getElem?_map, List.getElem?_eq_getElem inside, List.getElem?_range (length_places k n ▸ inside)] at spelt
  exact Option.some.inj spelt

example : (places 2 3)[5] = [1, 0, 1] := by decide

end Places

/-! ## Sides that are read back -/

/-- The operand is a literal of the number. -/
def Operand.IsLiteralOf (o : Operand) (n : Nat) : Prop :=
  ∃ numeral, o = .literal numeral ∧ numeral.value = .ok n

theorem Operand.isLiteralOf_ofNat {n : Nat} (short : (decimalDigits n).length ≤ digitLimit) :
    (Operand.literal (.ofNat n)).IsLiteralOf n := by
  refine ⟨.ofNat n, rfl, ?_⟩
  show readNatural (decimalDigits n) = .ok n
  rw [readNatural, if_neg (Nat.not_lt.mpr short), digitsValue_decimalDigits]

theorem Phrase.symbols_tokens_ofSide {gaps : List Symbol} {others : List Int} (first : Int)
    (same : gaps.length = others.length) : Token.symbols (Phrase.ofSide first gaps others).tokens = gaps := by
  induction gaps generalizing first others with
  | nil => rfl
  | cons s gaps ih =>
    obtain ⟨n, others, rfl⟩ := List.exists_cons_of_length_eq_add_one same.symm
    have behind := ih n (Nat.succ.inj same)
    rw [ofSide, tokens, Token.symbols_cons, Token.symbols_cons, behind]
    rfl

/-- The candidate has the symbols between the numbers, its tree has them between the numbers
as well, and the value of the tree is its value. -/
structure Candidate.Fills (c : Candidate) (config : Config) (numbers : List Nat) (gaps : List Symbol) : Prop where
  text : c.text = sideText (numbers.map Int.ofNat) gaps
  read : ∃ t value, parse config c.text = .ok t ∧
    List.Forall₂ Operand.IsLiteralOf (Token.operands t.inorder) numbers ∧ Token.symbols t.inorder = gaps ∧
    t.evaluate config = .ok value ∧ c.value = .ok value

section Sides

variable {config : Config} {gaps gaps' : List Symbol} {numbers : List Nat}

/-- What is written between numbers that are not negative is read with its numbers and symbols. -/
theorem exists_parse_inorder (answers : ∀ s ∈ gaps, config.AnswersAt s)
    (filled : gaps.length + 1 = numbers.length) :
    ∃ t value, parse config (sideText (numbers.map Int.ofNat) gaps) = .ok t ∧
      Token.operands t.inorder = numbers.map (fun n => .literal (.ofNat n)) ∧ Token.symbols t.inorder = gaps ∧
      t.evaluate config = .ok value := by
  have registered : ∀ s ∈ gaps, config.operators.contains s = true := fun s hs => (answers s hs).registered
  have counted : gaps.length + 1 = (numbers.map Int.ofNat).length := by rwa [List.length_map]
  obtain ⟨first, others, rfl⟩ := List.exists_cons_of_length_eq_add_one filled.symm
  have natural : ∀ n ∈ (first :: others).map Int.ofNat, config.readsSign n = false :=
    Solver.readsSign_of_natural
  obtain ⟨plainFirst, plain⟩ := List.forall_mem_cons.mp natural
  obtain ⟨t, value, tree, parsed, evaluated⟩ := exists_parse_sideText plainFirst plain answers
  have read := Phrase.inorder_tree tree
  refine ⟨t, value, parsed, ?_, ?_, evaluated⟩
  · rw [read, Token.operands_unparenthesized, Phrase.tokens_ofSide plainFirst plain registered]
    have written := config.operands_sideTokens counted
    rw [List.map_map] at written
    exact written
  · rw [read, Token.symbols_unparenthesized]
    apply Phrase.symbols_tokens_ofSide
    rw [List.length_map]
    exact Nat.succ.inj filled

theorem gaps_of_sideText (answers : ∀ s ∈ gaps, config.AnswersAt s) (answers' : ∀ s ∈ gaps', config.AnswersAt s)
    (filled : gaps.length + 1 = numbers.length) (filled' : gaps'.length + 1 = numbers.length)
    (same : sideText (numbers.map Int.ofNat) gaps = sideText (numbers.map Int.ofNat) gaps') : gaps = gaps' := by
  obtain ⟨t, -, parsed, -, symbols, -⟩ := exists_parse_inorder answers filled
  obtain ⟨t', -, parsed', -, symbols', -⟩ := exists_parse_inorder answers' filled'
  rw [same, parsed', Except.ok.injEq] at parsed
  rw [← symbols, ← symbols', parsed]

end Sides

/-! ## All candidates -/

namespace Solver

variable {s : Solver} {numbers : List Nat}

theorem fills_tried (answers : ∀ x ∈ s.symbols, s.config.AnswersAt x)
    (short : ∀ n ∈ numbers, (decimalDigits n).length ≤ digitLimit) {p : List (Fin s.symbols.length)}
    (filled : p.length + 1 = numbers.length) :
    (s.tried (s.side (numbers.map Int.ofNat) p)).Fills s.config numbers (p.map s.symbols.get) := by
  have known : ∀ x ∈ p.map s.symbols.get, s.config.AnswersAt x :=
    fun x hx => answers x (mem_symbols_of_mem_map hx)
  obtain ⟨t, value, parsed, operands, symbols, evaluated⟩ :=
    exists_parse_inorder known (by rwa [List.length_map])
  refine ⟨rfl, t, value, parsed, ?_, symbols, evaluated, ?_⟩
  · rw [operands, List.forall₂_map_left_iff, List.forall₂_same]
    exact fun n hn => Operand.isLiteralOf_ofNat (short n hn)
  · show evaluate s.config (sideText (numbers.map Int.ofNat) (p.map s.symbols.get)) = .ok value
    rw [evaluate_of_parse parsed, evaluated]
    rfl

/-- Between numbers that are not negative there is a candidate for every way to fill the gaps.
The one at place `i` has the symbols at the digits of `i`; it is read as the numbers with these
symbols between them, and has a value.  Distinct symbols give distinct texts. -/
theorem candidates_fill (s : Solver) (answers : ∀ x ∈ s.symbols, s.config.AnswersAt x) {numbers : List Nat}
    (nonempty : numbers ≠ []) (short : ∀ n ∈ numbers, (decimalDigits n).length ≤ digitLimit) :
    ∃ found, s.candidates (numbers.map Int.ofNat) = .ok found ∧
      found.length = s.symbols.length ^ (numbers.length - 1) ∧
      (∀ i, ∀ inside : i < found.length, ∃ p : List (Fin s.symbols.length),
        p.length = numbers.length - 1 ∧ rank p = i ∧
          found[i].Fills s.config numbers (p.map s.symbols.get)) ∧
      (s.symbols.Nodup → (found.map Candidate.text).Nodup) := by
  have enough : 0 < numbers.length := List.length_pos_of_ne_nil nonempty
  have given : s.candidates (numbers.map Int.ofNat) = _ :=
    candidates_eq fun empty => nonempty (List.map_eq_nil_iff.mp empty)
  rw [List.length_map] at given
  refine ⟨_, given, ?count, ?each, ?distinct⟩
  case count => rw [List.length_map, length_places]
  case each =>
    intro i inside
    rw [List.length_map] at inside
    have member := mem_places_iff.mp (List.getElem_mem inside)
    refine ⟨(places s.symbols.length (numbers.length - 1))[i], member, rank_getElem_places inside, ?_⟩
    rw [List.getElem_map]
    exact fills_tried answers short (by omega)
  case distinct =>
    intro nodup
    rw [List.map_map]
    apply (nodup_places _ _).map_on
    intro p hp q hq same
    have length := mem_places_iff.mp hp
    have length' := mem_places_iff.mp hq
    have alike : p.map s.symbols.get = q.map s.symbols.get :=
      gaps_of_sideText (fun x hx => answers x (mem_symbols_of_mem_map hx))
        (fun x hx => answers x (mem_symbols_of_mem_map hx)) (by rw [List.length_map]; omega)
        (by rw [List.length_map]; omega) same
    exact List.map_injective_iff.mpr (List.nodup_iff_injective_get.mp nodup) alike

theorem candidates_fill_sevenZeroTwelve :
    (∀ x ∈ standard.symbols, standard.config.AnswersAt x) ∧ [7, 0, 12] ≠ ([] : List Nat) ∧
      (∀ n ∈ [7, 0, 12], (decimalDigits n).length ≤ digitLimit) ∧
      ∃ found, standard.candidates ([7, 0, 12].map Int.ofNat) = .ok found ∧ found.length = 9 ∧
        (∀ i, ∀ inside : i < found.length, ∃ p : List (Fin standard.symbols.length), p.length = 2 ∧
          rank p = i ∧ found[i].Fills standard.config [7, 0, 12] (p.map standard.symbols.get)) ∧
        (found.map Candidate.text).Nodup := by
  have nonempty : [7, 0, 12] ≠ ([] : List Nat) := List.cons_ne_nil 7 [0, 12]
  have short : ∀ n ∈ [7, 0, 12], (decimalDigits n).length ≤ digitLimit := by decide
  have nodup : standard.symbols.Nodup := by decide
  obtain ⟨found, given, count, each, distinct⟩ :=
    candidates_fill standard answersAt_standard nonempty short
  exact ⟨answersAt_standard, nonempty, short, found, given, count, each, distinct nodup⟩

end Solver

end Abacus
