/-
Sentences: the token lists that are infix expressions, and the trees they stand for.

A sentence is an operand, two sentences with an operator between them, or a
sentence between parentheses.  Read without a choice, it is a phrase: operands
and groups with one operator between each two.  The tree of a phrase is split
off at the operator that binds weakest: among those of lowest precedence the
last that groups to the left, or the first if all group to the right.
-/
import Abacus.Config
import Abacus.Tree

namespace Abacus

/-- The tokens form an infix expression. -/
inductive Sentence : List Token → Prop
  | operand (o : Operand) : Sentence [.operand o]
  | chain {left right : List Token} (s : Symbol) :
      Sentence left → Sentence right → Sentence (left ++ .operator s :: right)
  | group {inner : List Token} : Sentence inner → Sentence (.opening :: inner ++ [.closing])

/-- A sentence as a first operand or group and what follows it. -/
inductive Phrase where
  | operand (o : Operand)
  | group (inner : Phrase)
  | operandThen (o : Operand) (s : Symbol) (rest : Phrase)
  | groupThen (inner : Phrase) (s : Symbol) (rest : Phrase)
deriving DecidableEq

namespace Phrase

def tokens : Phrase → List Token
  | operand o => [.operand o]
  | group inner => .opening :: inner.tokens ++ [.closing]
  | operandThen o s rest => .operand o :: .operator s :: rest.tokens
  | groupThen inner s rest => .opening :: inner.tokens ++ .closing :: .operator s :: rest.tokens

/-- The operators of a phrase, also those in groups. -/
def symbols : Phrase → List Symbol
  | operand _ => []
  | group inner => inner.symbols
  | operandThen _ s rest => s :: rest.symbols
  | groupThen inner s rest => inner.symbols ++ s :: rest.symbols

end Phrase

/-! ## Splitting at the weakest operator -/

/-- A first tree, and further trees, each after an operator. -/
structure Chain where
  first : Tree
  rest : List (Symbol × Tree)

/-- The lowest precedence among symbols. -/
def Config.lowest (config : Config) : List Symbol → Option Nat
  | [] => none
  | s :: symbols =>
    match (config.operators.find? s).map Operator.precedence, config.lowest symbols with
    | some p, some q => some (min p q)
    | some p, none => some p
    | none, low => low

def Config.hasPrecedence (config : Config) (precedence : Nat) (s : Symbol) : Bool :=
  (config.operators.find? s).any fun op => op.precedence == precedence

def Config.groupsLeft (config : Config) (s : Symbol) : Bool :=
  (config.operators.find? s).any fun op => op.associativity == .left

/-- The place of the last element that passes a test. -/
def lastIndex? {α : Type} (test : α → Bool) (items : List α) : Option Nat :=
  (items.reverse.findIdx? test).map fun i => items.length - 1 - i

/-- The place of the operator that binds weakest. -/
def Config.weakest? (config : Config) (symbols : List Symbol) : Option Nat :=
  match config.lowest symbols with
  | none => none
  | some low =>
    match lastIndex? (fun s => config.hasPrecedence low s && config.groupsLeft s) symbols with
    | some i => some i
    | none => symbols.findIdx? (config.hasPrecedence low)

/-- The tree of a chain: its weakest operator above the trees of its two sides. -/
def Chain.treeFrom (config : Config) (first : Tree) (rest : List (Symbol × Tree)) : Option Tree :=
  if rest.isEmpty then some first
  else
    match config.weakest? (rest.map Prod.fst) with
    | none => none
    | some i =>
      match _h : rest[i]? with
      | none => none
      | some (s, next) =>
        match treeFrom config first (rest.take i), treeFrom config next (rest.drop (i + 1)) with
        | some left, some right => some (.branch s left right)
        | _, _ => none
termination_by rest.length
decreasing_by
  all_goals
    have := (List.getElem?_eq_some_iff.mp _h).1
    simp only [List.length_take, List.length_drop]
    omega

def Chain.tree (config : Config) (chain : Chain) : Option Tree :=
  Chain.treeFrom config chain.first chain.rest

namespace Phrase

/-- The chain of a phrase, with a tree for each operand and each group. -/
def chain (config : Config) : Phrase → Option Chain
  | operand o => some ⟨.leaf o, []⟩
  | group inner =>
    match (inner.chain config).bind (Chain.tree config) with
    | some t => some ⟨t, []⟩
    | none => none
  | operandThen o s rest =>
    (rest.chain config).map fun c => ⟨.leaf o, (s, c.first) :: c.rest⟩
  | groupThen inner s rest =>
    match (inner.chain config).bind (Chain.tree config), rest.chain config with
    | some t, some c => some ⟨t, (s, c.first) :: c.rest⟩
    | _, _ => none

/-- The tree that a phrase stands for. -/
def tree (config : Config) (p : Phrase) : Option Tree :=
  (p.chain config).bind (Chain.tree config)

end Phrase

end Abacus
