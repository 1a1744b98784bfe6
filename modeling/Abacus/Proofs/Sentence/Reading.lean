/-
# Sentences are read as their trees

For every configuration and every sentence whose operators are registered, the
tokens can be reordered, the result can be built, and the tree is the one that
splitting the sentence at its weakest operators gives:

    Sentence tokens  →  every operator in tokens registered  →
      ∃ reordered t, reorder config tokens = .ok reordered ∧ build reordered = .ok t ∧
        ∀ p, p.tokens = tokens → p.tree config = some t

Reordering works from left to right with a stack, splitting by recursion from the
weakest operator outwards.  The statement that ties the two (`shuntAll_spells`)
is about a sequence of operands on any stack that lets its operators pass: what
comes out, followed by the operators that are held, is the tokens of its tree.
The induction is on the length of the sequence, along the recursion of the split.
When the weakest operator arrives, all that is held of the left side yields to
it; and on the right side it holds, so that the right side runs on it as on a
stack that lets it pass.

An operand of a sequence may be a group.  All that is used of one is that it
`Completes` its tree: it lets out the tree's tokens and leaves the stack alone.
-/
import Abacus.Proofs.Postfix.Run
import Abacus.Proofs.Sentence.Weakest
import Abacus.Proofs.Tree.Postorder

namespace Abacus

variable {config : Config} {tokens : List Token} {stack : List Waiting}

/-! ## An incoming operator on the stack -/

/-- The stack lets the operator pass: nothing on it yields. -/
def Config.Passes (config : Config) (stack : List Waiting) (incoming : Symbol) : Prop :=
  release config incoming stack = .ok ([], stack)

theorem Config.passes_nil (incoming : Symbol) : config.Passes [] incoming := rfl

theorem Config.passes_of_holds {top incoming : Symbol}
    (registered : config.operators.contains incoming = true)
    (holds : config.yields top incoming = false) :
    config.Passes (.operator top :: stack) incoming := by
  obtain ⟨arriving, arrives⟩ := exists_find? registered
  rw [Passes, release]
  cases waits : config.operators.find? top with
  | none => rfl
  | some waiting =>
    simp only [yields, waits, arrives] at holds
    simp [arrives, holds]

/-- Held operators that all yield come out, and then what the stack below lets out. -/
theorem release_held {held : List Symbol} {incoming : Symbol}
    (yield : ∀ o ∈ held, config.yields o incoming = true) (passes : config.Passes stack incoming) :
    release config incoming (held.map .operator ++ stack) = .ok (held.map .operator, stack) := by
  induction held with
  | nil => exact passes
  | cons top held ih =>
    have topYields := yield top List.mem_cons_self
    have rest := ih fun o ho => yield o (List.mem_cons_of_mem top ho)
    rw [List.map_cons, List.cons_append, release]
    cases waits : config.operators.find? top with
    | none => simp [Config.yields, waits] at topYields
    | some waiting =>
      cases arrives : config.operators.find? incoming with
      | none => simp [Config.yields, waits, arrives] at topYields
      | some arriving =>
        simp only [Config.yields, waits, arrives] at topYields
        simp [topYields, rest]

theorem releaseAll_held (held : List Symbol) :
    releaseAll (held.map .operator) = .ok (held.map .operator) := by
  induction held with
  | nil => rfl
  | cons top held ih => simp [releaseAll, ih]

/-! ## Sequences of operands -/

/-- The tokens act as an operand with the given tree. -/
def Config.Completes (config : Config) (tokens : List Token) (t : Tree) : Prop :=
  ∀ stack, shuntAll config stack tokens = .ok (t.tokens, stack)

/-- The tokens are operands with the trees of a chain, and its symbols between them. -/
inductive Config.Spells (config : Config) : List Token → Tree → List (Symbol × Tree) → Prop
  | single {item : List Token} {t : Tree} :
      config.Completes item t → Spells config item t []
  | cons {item tokens : List Token} {t next : Tree} {rest : List (Symbol × Tree)} (s : Symbol) :
      config.Completes item t → Spells config tokens next rest →
      Spells config (item ++ .operator s :: tokens) t ((s, next) :: rest)

theorem Config.Spells.split {first next : Tree} {s : Symbol} {before after : List (Symbol × Tree)}
    (h : config.Spells tokens first (before ++ (s, next) :: after)) :
    ∃ left right, tokens = left ++ .operator s :: right ∧
      config.Spells left first before ∧ config.Spells right next after := by
  induction before generalizing tokens first with
  | nil =>
    cases h with
    | cons s item others => exact ⟨_, _, rfl, .single item, others⟩
  | cons pair before ih =>
    cases h with
    | cons o item others =>
      obtain ⟨left, right, rfl, leftSide, rightSide⟩ := ih others
      exact ⟨_, right, by simp, .cons o item leftSide, rightSide⟩

/-- The recursion of the split, at a weakest operator. -/
theorem Chain.treeFrom_split {first next : Tree} {s : Symbol} {before after : List (Symbol × Tree)}
    (found : config.weakest? ((before ++ (s, next) :: after).map Prod.fst) = some before.length)
    {left right : Tree} (hleft : treeFrom config first before = some left)
    (hright : treeFrom config next after = some right) :
    treeFrom config first (before ++ (s, next) :: after) = some (.branch s left right) := by
  have atWeakest : (before ++ (s, next) :: after)[before.length]? = some (s, next) := by simp
  rw [treeFrom, if_neg (by simp)]
  simp only [found]
  split
  · next absent => rw [atWeakest] at absent; cases absent
  · next o t present =>
    rw [atWeakest] at present
    cases present
    simp [hleft, hright]

/-- A sequence lets out the tokens of its tree up to some of its operators, which
are held on top of the stack. -/
theorem shuntAll_spells {first : Tree} {rest : List (Symbol × Tree)}
    (spells : config.Spells tokens first rest)
    (registered : ∀ s ∈ rest.map Prod.fst, config.operators.contains s = true) :
    ∃ (t : Tree) (out : List Token) (held : List Symbol), Chain.treeFrom config first rest = some t ∧
      t.tokens = out ++ held.map .operator ∧ (∀ s ∈ held, s ∈ rest.map Prod.fst) ∧
      ∀ stack, (∀ s ∈ rest.map Prod.fst, config.Passes stack s) →
        shuntAll config stack tokens = .ok (out, held.map .operator ++ stack) := by
  induction n : rest.length using Nat.strongRecOn generalizing tokens first rest with
  | ind n ih =>
    by_cases filled : rest = []
    · subst filled
      cases spells with
      | single item =>
        refine ⟨first, first.tokens, [], ?_, by simp, by simp, fun stack _ => item stack⟩
        rw [Chain.treeFrom]
        simp
    · obtain ⟨before, s, after, symbols, found, weakest⟩ :=
        Config.weakest?_isWeakest registered (by simpa using filled)
      obtain ⟨beforePairs, afterPairs', rfl, rfl, hafter⟩ := List.map_eq_append_iff.mp symbols
      obtain ⟨⟨s', next⟩, afterPairs, rfl, rfl, rfl⟩ := List.map_eq_cons_iff.mp hafter
      simp only [List.map_append, List.map_cons] at registered
      obtain ⟨left, right, rfl, leftSide, rightSide⟩ := spells.split
      obtain ⟨tl, outl, heldl, treel, tokensl, subl, runl⟩ :=
        ih beforePairs.length (by simp at n; omega) leftSide
          (fun o ho => registered o (List.mem_append_left _ ho)) rfl
      obtain ⟨tr, outr, heldr, treer, tokensr, subr, runr⟩ :=
        ih afterPairs.length (by simp at n; omega) rightSide
          (fun o ho => registered o (List.mem_append_right _ (List.mem_cons_of_mem _ ho))) rfl
      refine ⟨.branch s' tl tr, tl.tokens ++ outr, heldr ++ [s'], ?_, ?_, ?_, ?_⟩
      · exact Chain.treeFrom_split (by simpa using found) treel treer
      · simp [tokensr]
      · intro o ho
        rcases List.mem_append.mp ho with ho | ho
        · exact by simp [subr o ho]
        · simp_all
      · intro stack passes
        have runLeft : shuntAll config stack left = .ok (outl, heldl.map .operator ++ stack) :=
          runl stack fun o ho => passes o (by simp [ho])
        have arrive : shunt config (heldl.map .operator ++ stack) (.operator s') =
            .ok (heldl.map .operator, .operator s' :: stack) := by
          have yield : ∀ o ∈ heldl, config.yields o s' = true :=
            fun o ho => weakest.yields registered (subl o ho)
          rw [shunt, release_held yield (passes s' (by simp))]
        have runRight : shuntAll config (.operator s' :: stack) right =
            .ok (outr, heldr.map .operator ++ .operator s' :: stack) := by
          refine runr _ fun o ho => Config.passes_of_holds ?_ (weakest.holds registered ho)
          exact registered o (List.mem_append_right _ (List.mem_cons_of_mem _ ho))
        rw [shuntAll_append runLeft, shuntAll_cons arrive, runRight]
        simp [Except.map, tokensl]

theorem reorder_spells {first : Tree} {rest : List (Symbol × Tree)}
    (spells : config.Spells tokens first rest)
    (registered : ∀ s ∈ rest.map Prod.fst, config.operators.contains s = true) :
    ∃ t, Chain.treeFrom config first rest = some t ∧ reorder config tokens = .ok t.tokens := by
  obtain ⟨t, out, held, tree, split, _, run⟩ := shuntAll_spells spells registered
  have whole := reorderFrom_of_shuntAll (run [] fun s _ => Config.passes_nil s)
  refine ⟨t, tree, ?_⟩
  rw [List.append_nil, releaseAll_held] at whole
  rw [reorder, whole, split]
  rfl

/-! ## Phrases -/

theorem completes_operand (o : Operand) : config.Completes [.operand o] (.leaf o) := by
  intro stack
  simp [shuntAll, shunt, Except.map]

theorem completes_group {t : Tree} (h : reorder config tokens = .ok t.tokens) :
    config.Completes (.opening :: tokens ++ [.closing]) t :=
  fun stack => shuntAll_group h stack

namespace Phrase

theorem spells_chain (p : Phrase)
    (registered : ∀ s ∈ p.symbols, config.operators.contains s = true) :
    ∃ c, p.chain config = some c ∧ config.Spells p.tokens c.first c.rest ∧
      ∀ s ∈ c.rest.map Prod.fst, s ∈ p.symbols := by
  -- what a group adds to its surroundings is an operand with the tree of its inside
  have grouped : ∀ {inner : Phrase} {c : Chain}, inner.chain config = some c →
      config.Spells inner.tokens c.first c.rest →
      (∀ s ∈ c.rest.map Prod.fst, config.operators.contains s = true) →
      ∃ t, (inner.chain config).bind (Chain.tree config) = some t ∧
        config.Completes (.opening :: inner.tokens ++ [.closing]) t := by
    intro inner c chain spells registered
    obtain ⟨t, tree, reordered⟩ := reorder_spells spells registered
    exact ⟨t, by rw [chain, Option.bind_some, Chain.tree, tree], completes_group reordered⟩
  induction p with
  | operand o => exact ⟨⟨.leaf o, []⟩, rfl, .single (completes_operand o), by simp⟩
  | group inner ih =>
    obtain ⟨c, chain, spells, sub⟩ := ih registered
    obtain ⟨t, tree, completes⟩ := grouped chain spells fun s hs => registered s (sub s hs)
    exact ⟨⟨t, []⟩, by simp [Phrase.chain, tree], .single completes, by simp⟩
  | operandThen o s rest ih =>
    obtain ⟨c, chain, spells, sub⟩ := ih fun s hs => registered s (List.mem_cons_of_mem _ hs)
    refine ⟨⟨.leaf o, (s, c.first) :: c.rest⟩, by simp [Phrase.chain, chain], ?_, ?_⟩
    · exact .cons s (completes_operand o) spells
    · intro x hx
      rcases List.mem_cons.mp hx with rfl | hx
      · exact List.mem_cons_self
      · exact List.mem_cons_of_mem _ (sub x hx)
  | groupThen inner s rest ihi ihr =>
    obtain ⟨ci, chaini, spellsi, subi⟩ := ihi fun s hs => registered s (List.mem_append_left _ hs)
    obtain ⟨c, chain, spells, sub⟩ :=
      ihr fun s hs => registered s (List.mem_append_right _ (List.mem_cons_of_mem _ hs))
    obtain ⟨t, tree, completes⟩ := grouped chaini spellsi fun s hs =>
      registered s (List.mem_append_left _ (subi s hs))
    refine ⟨⟨t, (s, c.first) :: c.rest⟩, by simp [Phrase.chain, tree, chain], ?_, ?_⟩
    · have := Config.Spells.cons s completes spells
      simpa [Phrase.tokens] using this
    · intro x hx
      rcases List.mem_cons.mp hx with rfl | hx
      · simp [symbols]
      · simp [symbols, sub x hx]

theorem mem_symbols_iff {p : Phrase} {s : Symbol} : s ∈ p.symbols ↔ Token.operator s ∈ p.tokens := by
  induction p with
  | operand o => simp [symbols, tokens]
  | group inner ih => simp [symbols, tokens, ih]
  | operandThen o s rest ih => simp [symbols, tokens, ih]
  | groupThen inner s rest ihi ihr => simp [symbols, tokens, ihi, ihr]

theorem reorder_tokens (p : Phrase)
    (registered : ∀ s, Token.operator s ∈ p.tokens → config.operators.contains s = true) :
    ∃ t, p.tree config = some t ∧ reorder config p.tokens = .ok t.tokens := by
  have known : ∀ s ∈ p.symbols, config.operators.contains s = true :=
    fun s hs => registered s (mem_symbols_iff.mp hs)
  obtain ⟨c, chain, spells, sub⟩ := p.spells_chain known
  obtain ⟨t, tree, reordered⟩ := reorder_spells spells fun s hs => known s (sub s hs)
  exact ⟨t, by rw [Phrase.tree, chain, Option.bind_some, Chain.tree, tree], reordered⟩

/-- Two phrases with an operator between them. -/
def append : Phrase → Symbol → Phrase → Phrase
  | operand o, s, q => operandThen o s q
  | group inner, s, q => groupThen inner s q
  | operandThen o first rest, s, q => operandThen o first (rest.append s q)
  | groupThen inner first rest, s, q => groupThen inner first (rest.append s q)

theorem tokens_append (p : Phrase) (s : Symbol) (q : Phrase) :
    (p.append s q).tokens = p.tokens ++ .operator s :: q.tokens := by
  induction p with
  | operand o => rfl
  | group inner => simp [append, tokens]
  | operandThen o first rest ih => simp [append, tokens, ih]
  | groupThen inner first rest _ ih => simp [append, tokens, ih]

end Phrase

/-- Every sentence is a phrase, read without a choice. -/
theorem Sentence.exists_phrase (h : Sentence tokens) : ∃ p : Phrase, p.tokens = tokens := by
  induction h with
  | operand o => exact ⟨.operand o, rfl⟩
  | chain s _ _ ihl ihr =>
    obtain ⟨p, rfl⟩ := ihl
    obtain ⟨q, rfl⟩ := ihr
    exact ⟨p.append s q, p.tokens_append s q⟩
  | group _ ih =>
    obtain ⟨p, rfl⟩ := ih
    exact ⟨.group p, rfl⟩

/-- A sentence is read, and its tree is the one that is split off at its weakest
operators. -/
theorem build_reorder_sentence (config : Config) {tokens : List Token} (sentence : Sentence tokens)
    (registered : ∀ s, Token.operator s ∈ tokens → config.operators.contains s = true) :
    (∃ p : Phrase, p.tokens = tokens) ∧
      ∃ reordered t, reorder config tokens = .ok reordered ∧ build reordered = .ok t ∧
        ∀ p : Phrase, p.tokens = tokens → p.tree config = some t := by
  obtain ⟨p, rfl⟩ := sentence.exists_phrase
  obtain ⟨t, tree, reordered⟩ := p.reorder_tokens registered
  refine ⟨⟨p, rfl⟩, t.tokens, t, reordered, build_tokens t, ?_⟩
  intro q same
  obtain ⟨u, treeq, reorderedq⟩ := q.reorder_tokens (same ▸ registered)
  rw [same, reordered, Except.ok.injEq] at reorderedq
  rw [treeq, Tree.tokens_injective reorderedq]

/-- Two operators of one precedence that group to different sides. -/
def Config.twoSided : Config :=
  empty |>.withOperator plus ⟨1, .left, .sum⟩ |>.withOperator minus ⟨1, .right, .difference⟩

/-- The variables `a`, `b` and `c` as `a-(b+a)+c`. -/
def twoSidedTokens : List Token :=
  let a : Operand := .name ⟨"a", by decide⟩
  let b : Operand := .name ⟨"b", by decide⟩
  let c : Operand := .name ⟨"c", by decide⟩
  [.operand a, .operator Config.minus.1, .opening, .operand b, .operator Config.plus.1, .operand a,
    .closing, .operator Config.plus.1, .operand c]

theorem sentence_twoSidedTokens : Sentence twoSidedTokens :=
  .chain _ (.operand _) (.chain _ (.group (.chain _ (.operand _) (.operand _))) (.operand _))

theorem registered_twoSidedTokens :
    ∀ s, Token.operator s ∈ twoSidedTokens → Config.twoSided.operators.contains s = true := by
  intro s hs
  simp only [twoSidedTokens, List.mem_cons, Token.operator.injEq, reduceCtorEq, List.not_mem_nil,
    or_false, false_or] at hs
  rcases hs with rfl | rfl | rfl <;> decide

theorem build_reorder_sentence_twoSided :
    Sentence twoSidedTokens ∧
      (∀ s, Token.operator s ∈ twoSidedTokens → Config.twoSided.operators.contains s = true) ∧
      (∃ p : Phrase, p.tokens = twoSidedTokens) ∧
      ∃ reordered t, reorder .twoSided twoSidedTokens = .ok reordered ∧ build reordered = .ok t ∧
        ∀ p : Phrase, p.tokens = twoSidedTokens → p.tree .twoSided = some t :=
  ⟨sentence_twoSidedTokens, registered_twoSidedTokens,
    build_reorder_sentence .twoSided sentence_twoSidedTokens registered_twoSidedTokens⟩

end Abacus
