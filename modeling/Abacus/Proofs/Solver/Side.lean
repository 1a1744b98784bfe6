/-
# What one side of an equation is read as

The solver writes numbers with symbols between them and evaluates the text.  The
scanner does not read back what was meant:

| written | read |
| :-- | :-- |
| a number that is not negative | its literal |
| a negative number | the operator `-`, if there is one, and a literal |
| a registered symbol | its operator |
| another symbol | nothing |

So a side is read as it was meant, and has a value, when its numbers are plain
and its symbols registered (`exists_parse_sideText`).  In other cases it may be
read as something else.  What then can be said is how many operators a side with
a value has (`countP_of_evaluate`), since every operator takes two operands.
-/
import Abacus.Proofs.Errors
import Abacus.Proofs.Acceptance
import Abacus.Proofs.Sentence.Reading
import Abacus.Solver.Choice

namespace Abacus

open Abacus.Text

variable {config : Config} {gaps : List Symbol} {numbers others : List Int}

/-! ## Tokens of what is written -/

theorem isDigit_of_mem_toString {n : Nat} {c : Char} (h : c ∈ (toString n).toList) : c.isDigit = true := by
  rw [Nat.toString_eq_repr, Nat.toList_repr] at h
  exact Nat.isDigit_of_mem_toDigits (by omega) (by omega) h

theorem toString_ne_nil (n : Nat) : (toString n).toList ≠ [] := by
  rw [Nat.toString_eq_repr, Nat.toList_repr]
  exact Nat.toDigits_ne_nil

theorem toList_toString_negSucc (n : Nat) :
    (toString (Int.negSucc n)).toList = '-' :: (toString (n + 1)).toList := by
  show ("-" ++ toString (n + 1)).toList = _
  rw [String.toList_append]
  rfl

def Numeral.ofNat (n : Nat) : Numeral where
  digits := toString n
  isNumeral_digits := by
    rw [isNumeral, Bool.and_eq_true, List.all_eq_true]
    exact ⟨by simp, fun c hc => isDigit_of_mem_toString hc⟩

/-- The token of a symbol, if it is registered. -/
def Config.symbolTokens (config : Config) (s : Symbol) : List Token :=
  if config.operators.contains s then [.operator s] else []

/-- The tokens of a number: its sign is no part of the literal. -/
def Config.numberTokens (config : Config) (n : Int) : List Token :=
  (if config.readsSign n then [.operator Config.minus.1] else []) ++
    [.operand (.literal (.ofNat n.natAbs))]

/-- The tokens of numbers with a symbol in front of each. -/
def Config.interleaveTokens (config : Config) : List Symbol → List Int → List Token
  | s :: gaps, n :: numbers =>
    config.symbolTokens s ++ config.numberTokens n ++ config.interleaveTokens gaps numbers
  | _, _ => []

/-- The tokens of numbers with symbols between them. -/
def Config.sideTokens (config : Config) : List Int → List Symbol → List Token
  | [], _ => []
  | first :: others, gaps => config.numberTokens first ++ config.interleaveTokens gaps others

theorem Symbol.classes_of_isUsable {s : Symbol} (usable : s.isUsable = true) :
    s.char.isDigit = false ∧ isLetter s.char = false := by
  obtain ⟨notDigit, notLetter, -⟩ := isUsable_iff.mp usable
  exact ⟨charIsDigit_of_isDigit notDigit, notLetter⟩

theorem scan_char {s : Symbol} (usable : s.isUsable = true) (rest : List Char) :
    scan config (s.char :: rest) = config.symbolTokens s ++ scan config rest := by
  obtain ⟨digit, letter⟩ := s.classes_of_isUsable usable
  rw [Config.symbolTokens]
  cases registered : config.operators.contains s with
  | true =>
    rw [scan_mark digit (by rw [Config.isMark_char, registered]), Token.ofChar_char]
    rfl
  | false =>
    rw [scan_skip digit (by rw [Config.isMark_char, registered]) letter]
    rfl

theorem scan_natural (n : Nat) {rest : List Char} (stops : ∀ c ∈ rest.head?, c.isDigit = false) :
    scan config ((toString n).toList ++ rest) =
      .operand (.literal (.ofNat n)) :: scan config rest :=
  scan_source_append (t := .operand (.literal (.ofNat n))) trivial stops

theorem scan_number (n : Int) {rest : List Char} (stops : ∀ c ∈ rest.head?, c.isDigit = false) :
    scan config ((toString n).toList ++ rest) = config.numberTokens n ++ scan config rest := by
  cases n with
  | ofNat n => exact scan_natural n stops
  | negSucc n =>
    have sign : config.readsSign (.negSucc n) = config.operators.contains Config.minus.1 := by
      rw [Config.readsSign, decide_eq_true (Int.negSucc_lt_zero n), Bool.true_and]
    have read : scan config ('-' :: ((toString (n + 1)).toList ++ rest)) =
        config.symbolTokens Config.minus.1 ++ scan config ((toString (n + 1)).toList ++ rest) :=
      scan_char Config.minus.2 _
    rw [toList_toString_negSucc, List.cons_append, read, scan_natural (n + 1) stops, Config.numberTokens,
      sign, List.append_assoc]
    rfl

theorem toList_interleave_cons (s : Symbol) (gaps : List Symbol) (n : Int) (numbers : List Int) :
    (interleave (s :: gaps) (n :: numbers)).toList =
      s.char :: ((toString n).toList ++ (interleave gaps numbers).toList) := by
  rw [interleave, Symbol.text, String.toList_append, String.toList_append, String.toList_singleton,
    List.append_assoc, List.singleton_append]

theorem interleave_stops {test : Char → Bool} (numbers : List Int) {rest : List Char}
    (symbols : ∀ s ∈ gaps, test s.char = false) (stops : ∀ c ∈ rest.head?, test c = false) :
    ∀ c ∈ ((interleave gaps numbers).toList ++ rest).head?, test c = false := by
  intro c hc
  match gaps, numbers with
  | [], _ => exact stops c hc
  | _ :: _, [] => exact stops c hc
  | s :: _, _ :: _ =>
    rw [toList_interleave_cons] at hc
    cases hc
    exact symbols s List.mem_cons_self

theorem interleave_stops_digits (numbers : List Int) (usable : ∀ s ∈ gaps, s.isUsable = true) :
    ∀ c ∈ (interleave gaps numbers).toList.head?, c.isDigit = false := by
  rw [← List.append_nil (interleave gaps numbers).toList]
  exact interleave_stops numbers (fun s hs => (s.classes_of_isUsable (usable s hs)).1) (by simp)

theorem scan_interleave (usable : ∀ s ∈ gaps, s.isUsable = true) (numbers : List Int) :
    scan config (interleave gaps numbers).toList = config.interleaveTokens gaps numbers := by
  induction gaps generalizing numbers with
  | nil => rw [interleave.eq_2 _ _ (by simp), String.toList_empty, scan_nil]; rfl
  | cons s gaps ih =>
    cases numbers with
    | nil => rw [interleave.eq_2 _ _ (by simp), String.toList_empty, scan_nil]; rfl
    | cons n numbers =>
      have others : ∀ s ∈ gaps, s.isUsable = true := fun x hx => usable x (List.mem_cons_of_mem s hx)
      rw [toList_interleave_cons, scan_char (usable s List.mem_cons_self),
        scan_number n (interleave_stops_digits numbers others), ih others, Config.interleaveTokens, List.append_assoc]

theorem scan_sideText (usable : ∀ s ∈ gaps, s.isUsable = true) (numbers : List Int) :
    scan config (sideText numbers gaps).toList = config.sideTokens numbers gaps := by
  cases numbers with
  | nil => rw [sideText, String.toList_empty, scan_nil, Config.sideTokens]
  | cons first others =>
    rw [sideText, String.toList_append, scan_number first (interleave_stops_digits others usable),
      scan_interleave usable, Config.sideTokens]

/-! ## Sides that are read as they are meant -/

/-- A first number, and others with a symbol in front of each, as a phrase. -/
def Phrase.ofSide (first : Int) : List Symbol → List Int → Phrase
  | s :: gaps, n :: numbers =>
    .operandThen (.literal (.ofNat first.natAbs)) s (Phrase.ofSide n gaps numbers)
  | _, _ => .operand (.literal (.ofNat first.natAbs))

theorem Config.numberTokens_of_plain {n : Int} (plain : config.readsSign n = false) :
    config.numberTokens n = [.operand (.literal (.ofNat n.natAbs))] := by
  rw [numberTokens, plain]
  rfl

theorem Config.symbolTokens_of_registered {s : Symbol} (h : config.operators.contains s = true) :
    config.symbolTokens s = [.operator s] :=
  if_pos h

/-- With plain numbers and registered symbols, the tokens are those of the phrase. -/
theorem Phrase.tokens_ofSide {first : Int} (plainFirst : config.readsSign first = false)
    (plain : ∀ n ∈ others, config.readsSign n = false)
    (registered : ∀ s ∈ gaps, config.operators.contains s = true) :
    (Phrase.ofSide first gaps others).tokens =
      config.numberTokens first ++ config.interleaveTokens gaps others := by
  rw [Config.numberTokens_of_plain plainFirst]
  induction gaps generalizing first others with
  | nil => rfl
  | cons s gaps ih =>
    cases others with
    | nil => rfl
    | cons n others =>
      have rest := ih (plain n List.mem_cons_self) (fun m hm => plain m (List.mem_cons_of_mem n hm))
        fun x hx => registered x (List.mem_cons_of_mem s hx)
      rw [ofSide, tokens, rest, Config.interleaveTokens,
        Config.symbolTokens_of_registered (registered s List.mem_cons_self),
        Config.numberTokens_of_plain (plain n List.mem_cons_self)]
      rfl

theorem Phrase.mem_of_mem_symbols_ofSide {first : Int} {s : Symbol}
    (h : s ∈ (Phrase.ofSide first gaps others).symbols) : s ∈ gaps := by
  induction gaps generalizing first others with
  | nil => cases h
  | cons x gaps ih =>
    cases others with
    | nil => cases h
    | cons n others =>
      rcases List.mem_cons.mp h with rfl | h
      · exact List.mem_cons_self
      · exact List.mem_cons_of_mem x (ih h)

theorem Config.AnswersAt.registered {s : Symbol} (h : config.AnswersAt s) :
    config.operators.contains s = true := by
  obtain ⟨op, found, _⟩ := h
  rw [Table.contains, found, Option.isSome_some]

theorem Config.isUsable_of_registered {s : Symbol} (h : config.operators.contains s = true) :
    s.isUsable = true :=
  config.symbols_usable s (Table.mem_keys_of_contains h)

theorem exists_parse_of_phrase {text : String} {p : Phrase} (scanned : scan config text.toList = p.tokens)
    (answers : ∀ s ∈ p.symbols, config.AnswersAt s) :
    ∃ t value, p.tree config = some t ∧ parse config text = .ok t ∧ t.evaluate config = .ok value := by
  obtain ⟨t, tree, reordered⟩ :=
    p.reorder_tokens fun s hs => (answers s (Phrase.mem_symbols_iff.mpr hs)).registered
  have known : ∀ s, .operator s ∈ t.tokens → config.AnswersAt s := by
    intro s hs
    have member := (reorder_perm reordered).mem_iff.mp hs
    exact answers s (Phrase.mem_symbols_iff.mpr (List.mem_of_mem_filter member))
  obtain ⟨value, valued⟩ := t.exists_evaluate_of_answersAt known
  refine ⟨t, value, tree, ?_, valued⟩
  rw [parse, reduce, scanned, reordered]
  dsimp only
  rw [build_tokens]

/-- A side of plain numbers with symbols that answer is read as it was meant. -/
theorem exists_parse_sideText {first : Int} (plainFirst : config.readsSign first = false)
    (plain : ∀ n ∈ others, config.readsSign n = false) (answers : ∀ s ∈ gaps, config.AnswersAt s) :
    ∃ t value, (Phrase.ofSide first gaps others).tree config = some t ∧
      parse config (sideText (first :: others) gaps) = .ok t ∧ t.evaluate config = .ok value := by
  have registered : ∀ s ∈ gaps, config.operators.contains s = true := fun s hs => (answers s hs).registered
  apply exists_parse_of_phrase
  · rw [scan_sideText fun s hs => Config.isUsable_of_registered (registered s hs), Config.sideTokens,
      Phrase.tokens_ofSide plainFirst plain registered]
  · exact fun s hs => answers s (Phrase.mem_of_mem_symbols_ofSide hs)

theorem evaluate_of_parse {text : String} {t : Tree} (h : parse config text = .ok t) :
    evaluate config text = (t.evaluate config).mapError .ofRun := by
  rw [evaluate, trace, h]
  rfl

theorem exists_evaluate_sideText (filled : numbers ≠ [])
    (plain : ∀ n ∈ numbers, config.readsSign n = false) (answers : ∀ s ∈ gaps, config.AnswersAt s) :
    ∃ value, evaluate config (sideText numbers gaps) = .ok value := by
  cases numbers with
  | nil => exact absurd rfl filled
  | cons first others =>
    obtain ⟨plainFirst, plain⟩ := List.forall_mem_cons.mp plain
    obtain ⟨t, value, -, parsed, evaluated⟩ := exists_parse_sideText plainFirst plain answers
    exact ⟨value, by rw [evaluate_of_parse parsed, evaluated]; rfl⟩

/-! ## Any side -/

theorem Config.operands_numberTokens (n : Int) :
    Token.operands (config.numberTokens n) = [.literal (.ofNat n.natAbs)] := by
  rw [numberTokens]
  split <;> rfl

theorem Config.operands_symbolTokens (s : Symbol) : Token.operands (config.symbolTokens s) = [] := by
  rw [symbolTokens]
  split <;> rfl

theorem Config.length_symbols_numberTokens (n : Int) :
    (Token.symbols (config.numberTokens n)).length = if config.readsSign n then 1 else 0 := by
  rw [numberTokens]
  split <;> rfl

theorem Config.length_symbols_symbolTokens (s : Symbol) :
    (Token.symbols (config.symbolTokens s)).length = if config.operators.contains s then 1 else 0 := by
  rw [symbolTokens]
  split <;> rfl

theorem Config.operands_interleaveTokens (filled : gaps.length = numbers.length) :
    Token.operands (config.interleaveTokens gaps numbers) =
      numbers.map fun n => .literal (.ofNat n.natAbs) := by
  induction gaps generalizing numbers with
  | nil =>
    obtain rfl := List.eq_nil_of_length_eq_zero filled.symm
    rfl
  | cons s gaps ih =>
    obtain ⟨n, numbers, rfl⟩ := List.exists_cons_of_length_eq_add_one filled.symm
    rw [interleaveTokens, Token.operands_append, Token.operands_append, operands_symbolTokens,
      operands_numberTokens, ih (Nat.succ.inj filled)]
    rfl

theorem Config.length_symbols_interleaveTokens (filled : gaps.length = numbers.length) :
    (Token.symbols (config.interleaveTokens gaps numbers)).length =
      gaps.countP config.operators.contains + numbers.countP config.readsSign := by
  induction gaps generalizing numbers with
  | nil =>
    obtain rfl := List.eq_nil_of_length_eq_zero filled.symm
    rfl
  | cons s gaps ih =>
    obtain ⟨n, numbers, rfl⟩ := List.exists_cons_of_length_eq_add_one filled.symm
    simp only [interleaveTokens, Token.symbols_append, List.length_append, length_symbols_symbolTokens,
      length_symbols_numberTokens, ih (Nat.succ.inj filled), List.countP_cons]
    omega

theorem Config.operands_sideTokens (filled : gaps.length + 1 = numbers.length) :
    Token.operands (config.sideTokens numbers gaps) =
      numbers.map fun n => .literal (.ofNat n.natAbs) := by
  obtain ⟨first, others, rfl⟩ := List.exists_cons_of_length_eq_add_one filled.symm
  rw [sideTokens, Token.operands_append, operands_numberTokens,
    operands_interleaveTokens (Nat.succ.inj filled)]
  rfl

theorem Config.length_symbols_sideTokens (filled : gaps.length + 1 = numbers.length) :
    (Token.symbols (config.sideTokens numbers gaps)).length =
      gaps.countP config.operators.contains + numbers.countP config.readsSign := by
  obtain ⟨first, others, rfl⟩ := List.exists_cons_of_length_eq_add_one filled.symm
  rw [sideTokens, Token.symbols_append, List.length_append, length_symbols_numberTokens,
    length_symbols_interleaveTokens (Nat.succ.inj filled), List.countP_cons]
  omega

/-- A side with a value has an operator for every gap. -/
theorem countP_of_evaluate {value : Float} (usable : ∀ s ∈ gaps, s.isUsable = true)
    (filled : gaps.length + 1 = numbers.length)
    (h : evaluate config (sideText numbers gaps) = .ok value) :
    gaps.countP config.operators.contains + numbers.countP config.readsSign = gaps.length := by
  have counted := length_operands_of_evaluate h
  rw [scan_sideText usable, Config.operands_sideTokens filled, List.length_map,
    Config.length_symbols_sideTokens filled] at counted
  omega

theorem Config.symbolTokens_of_unregistered {s : Symbol} (h : config.operators.contains s = false) :
    config.symbolTokens s = [] :=
  if_neg (by simp [h])

theorem Config.interleaveTokens_of_unregistered {gaps' : List Symbol} (same : gaps.length = gaps'.length)
    (h : ∀ s ∈ gaps, config.operators.contains s = false)
    (h' : ∀ s ∈ gaps', config.operators.contains s = false) (numbers : List Int) :
    config.interleaveTokens gaps numbers = config.interleaveTokens gaps' numbers := by
  induction gaps generalizing gaps' numbers with
  | nil =>
    obtain rfl := List.eq_nil_of_length_eq_zero same.symm
    rfl
  | cons s gaps ih =>
    obtain ⟨s', gaps', rfl⟩ := List.exists_cons_of_length_eq_add_one same.symm
    cases numbers with
    | nil => rfl
    | cons n numbers =>
      have rest := ih (Nat.succ.inj same) (fun x hx => h x (List.mem_cons_of_mem s hx))
        (fun x hx => h' x (List.mem_cons_of_mem s' hx)) numbers
      rw [interleaveTokens, interleaveTokens, rest, symbolTokens_of_unregistered (h s List.mem_cons_self),
        symbolTokens_of_unregistered (h' s' List.mem_cons_self)]

theorem evaluate_sideText_of_unregistered {gaps' : List Symbol} (same : gaps.length = gaps'.length)
    (usable : ∀ s ∈ gaps, s.isUsable = true) (usable' : ∀ s ∈ gaps', s.isUsable = true)
    (h : ∀ s ∈ gaps, config.operators.contains s = false)
    (h' : ∀ s ∈ gaps', config.operators.contains s = false) (numbers : List Int) :
    evaluate config (sideText numbers gaps) = evaluate config (sideText numbers gaps') := by
  have read : config.sideTokens numbers gaps = config.sideTokens numbers gaps' := by
    cases numbers with
    | nil => rfl
    | cons first others =>
      rw [Config.sideTokens, Config.sideTokens, Config.interleaveTokens_of_unregistered same h h']
  rw [evaluate_eq, evaluate_eq, scan_sideText usable, scan_sideText usable', read]

theorem Config.isParenthesis_of_mem_numberTokens {n : Int} {t : Token} (h : t ∈ config.numberTokens n) :
    t.isParenthesis = false := by
  rw [numberTokens, List.mem_append, List.mem_singleton] at h
  rcases h with h | rfl
  · split at h
    · rw [List.mem_singleton] at h
      rw [h]
      rfl
    · cases h
  · rfl

theorem Config.isParenthesis_of_mem_symbolTokens {s : Symbol} {t : Token} (h : t ∈ config.symbolTokens s) :
    t.isParenthesis = false := by
  rw [symbolTokens] at h
  split at h
  · rw [List.mem_singleton] at h
    rw [h]
    rfl
  · cases h

theorem Config.isParenthesis_of_mem_sideTokens {t : Token} (h : t ∈ config.sideTokens numbers gaps) :
    t.isParenthesis = false := by
  have others {gaps : List Symbol} {numbers : List Int} (ht : t ∈ config.interleaveTokens gaps numbers) :
      t.isParenthesis = false := by
    fun_induction config.interleaveTokens gaps numbers with
    | case1 s gaps n numbers ih =>
      rcases List.mem_append.mp ht with ht | ht
      · rcases List.mem_append.mp ht with ht | ht
        · exact isParenthesis_of_mem_symbolTokens ht
        · exact isParenthesis_of_mem_numberTokens ht
      · exact ih ht
    | case2 => cases ht
  cases numbers with
  | nil => cases h
  | cons first numbers =>
    rcases List.mem_append.mp h with h | h
    · exact isParenthesis_of_mem_numberTokens h
    · exact others h

theorem Token.balanced_of_unparenthesized {tokens : List Token}
    (none : ∀ t ∈ tokens, t.isParenthesis = false) : Balanced tokens := by
  have absent : ∀ t, t.isParenthesis = true → tokens.count t = 0 := by
    intro t parenthesis
    rw [List.count_eq_zero]
    intro member
    rw [none t member] at parenthesis
    cases parenthesis
  refine ⟨?_, by rw [absent .closing rfl, absent .opening rfl]⟩
  rintro ⟨n, more⟩
  have fewer := (List.take_sublist n tokens).count_le .closing
  rw [absent .closing rfl] at fewer
  omega

theorem evaluate_sideText_cases (answers : config.Answers) (usable : ∀ s ∈ gaps, s.isUsable = true)
    (numbers : List Int) :
    (∃ value, evaluate config (sideText numbers gaps) = .ok value) ∨
      ∃ cause, evaluate config (sideText numbers gaps) = .error (.malformed cause) := by
  have balanced : Token.Balanced (scan config (sideText numbers gaps).toList) := by
    rw [scan_sideText usable]
    exact Token.balanced_of_unparenthesized fun t ht => Config.isParenthesis_of_mem_sideTokens ht
  exact evaluate_of_balanced answers balanced

/-! ## Both sides of a choice -/

namespace Solver

variable {s : Solver}

theorem hasValues_of_plain {c : Choice s.symbols.length} (fits : c.Fits numbers.length)
    (plain : ∀ n ∈ numbers, s.config.readsSign n = false)
    (answersLeft : ∀ x ∈ c.left.map s.symbols.get, s.config.AnswersAt x)
    (answersRight : ∀ x ∈ c.right.map s.symbols.get, s.config.AnswersAt x) : s.HasValues numbers c := by
  have left := fits.left
  have right := fits.right
  constructor
  · refine exists_evaluate_sideText (List.ne_nil_of_length_pos ?_) ?_ answersLeft
    · rw [List.length_take]
      omega
    · exact fun n hn => plain n (List.mem_of_mem_take hn)
  · refine exists_evaluate_sideText (List.ne_nil_of_length_pos ?_) ?_ answersRight
    · rw [List.length_drop]
      omega
    · exact fun n hn => plain n (List.mem_of_mem_drop hn)

theorem mem_symbols_of_mem_map {p : List (Fin s.symbols.length)} {x : Symbol}
    (h : x ∈ p.map s.symbols.get) : x ∈ s.symbols := by
  obtain ⟨i, _, rfl⟩ := List.mem_map.mp h
  exact List.get_mem s.symbols i

end Solver

end Abacus
