/-
# Which calls a run makes

A run of a tree is its evaluation by recursion (`run_eq_meaning`): the same calls
on the same values, and the same value or the same error.  In what order the calls
come can be read off the tokens of the tree, in which every operator follows its
operands (`Run.Follows`):

    operators   s₁ … sₖ   sₖ₊₁   … sₙ
    calls       c₁ … cₖ           each cᵢ calls sᵢ and has an answer

The run has a value just when k = n, so that every operator was called once.
Otherwise it ends at the operator behind the answered ones, which is not
registered, or is called and refuses its operands; those after it are not called.
It never ends for want of values on the stack.

The tokens that a tree is built from are its own, so a stack machine that runs
them directly does the same.
-/
import Abacus.Proofs.Tree.Value
import Abacus.Token.Operands

namespace Abacus

variable {config : Config} {symbols later : List Symbol} {run : Run}

/-- What the operator's function says to a call, if the operator is registered. -/
def Call.answer? (config : Config) (call : Call) : Option (Except Fault Float) :=
  (config.operators.find? call.symbol).map fun op => op.operation.apply call.left call.right

namespace Run

def Answered (config : Config) (calls : List Call) : Prop :=
  ∀ call ∈ calls, ∃ value, call.answer? config = some (.ok value)

theorem answered_nil : Answered config [] := by
  intro call none
  cases none

/-- The run calls operators one after the other, each once, until one cannot be
called or refuses its operands. -/
inductive Follows (config : Config) : List Symbol → Run → Prop
  | complete {calls : List Call} {value : Float} :
      Answered config calls → Follows config (calls.map Call.symbol) ⟨calls, .ok value⟩
  | unregistered {calls : List Call} {s : Symbol} {later : List Symbol} :
      Answered config calls → config.operators.find? s = none →
      Follows config (calls.map Call.symbol ++ s :: later) ⟨calls, .error (.unregistered s)⟩
  | refused {calls : List Call} {last : Call} {later : List Symbol} {fault : Fault} :
      Answered config calls → last.answer? config = some (.error fault) →
      Follows config (calls.map Call.symbol ++ last.symbol :: later)
        ⟨calls ++ [last], .error (.fault fault)⟩

theorem Follows.append_later (h : run.Follows config symbols) (ended : ∃ e, run.result = .error e)
    (later : List Symbol) : run.Follows config (symbols ++ later) := by
  cases h with
  | complete answered =>
    obtain ⟨e, ended⟩ := ended
    cases ended
  | unregistered answered unknown =>
    rw [List.append_assoc, List.cons_append]
    exact .unregistered answered unknown
  | refused answered refusal =>
    rw [List.append_assoc, List.cons_append]
    exact .refused answered refusal

theorem Follows.prepend {calls : List Call} (answered : Answered config calls)
    (h : run.Follows config later) :
    Follows config (calls.map Call.symbol ++ later) ⟨calls ++ run.calls, run.result⟩ := by
  have both : ∀ {more : List Call}, Answered config more → Answered config (calls ++ more) := by
    intro more answeredMore call hcall
    rcases List.mem_append.mp hcall with hcall | hcall
    · exact answered call hcall
    · exact answeredMore call hcall
  cases h with
  | complete answered' =>
    rw [← List.map_append]
    exact .complete (both answered')
  | unregistered answered' unknown =>
    rw [← List.append_assoc, ← List.map_append]
    exact .unregistered (both answered') unknown
  | refused answered' refusal =>
    rw [← List.append_assoc, ← List.map_append]
    dsimp only
    rw [← List.append_assoc]
    exact .refused (both answered') refusal

theorem Follows.andThen {next : Float → Run} (h : run.Follows config symbols)
    (rest : ∀ value, (next value).Follows config later) :
    (run.andThen next).Follows config (symbols ++ later) := by
  cases h with
  | complete answered => exact (rest _).prepend answered
  | unregistered answered unknown =>
    exact (Follows.unregistered answered unknown).append_later ⟨_, rfl⟩ later
  | refused answered refusal =>
    exact (Follows.refused answered refusal).append_later ⟨_, rfl⟩ later

end Run

theorem Tree.follows_callOf (s : Symbol) (left right : Float) :
    (callOf config s left right).Follows config [s] := by
  rw [callOf]
  cases found : config.operators.find? s with
  | none => exact .unregistered Run.answered_nil found
  | some op =>
    dsimp only
    have answer : Call.answer? config ⟨s, left, right⟩ = some (op.operation.apply left right) := by
      rw [Call.answer?, found, Option.map_some]
    cases applied : op.operation.apply left right with
    | error fault =>
      rw [applied] at answer
      exact .refused Run.answered_nil answer
    | ok value =>
      rw [applied] at answer
      have answered : Run.Answered config [⟨s, left, right⟩] := by
        intro call hcall
        rw [List.mem_singleton.mp hcall]
        exact ⟨value, answer⟩
      exact .complete answered

/-- Evaluating a tree calls its operators in the order of its tokens. -/
theorem Tree.follows_meaning (config : Config) (t : Tree) :
    (t.meaning config).Follows config (Token.symbols t.tokens) := by
  induction t with
  | leaf o =>
    rw [tokens_leaf]
    exact .complete Run.answered_nil
  | branch s l r ihl ihr =>
    have order : Token.symbols (branch s l r).tokens =
        Token.symbols l.tokens ++ (Token.symbols r.tokens ++ [s]) := by
      simp [Token.symbol?]
    rw [order, meaning]
    exact ihl.andThen fun a => ihr.andThen fun b => follows_callOf s a b

/-- A run is the evaluation by recursion.  It calls the operators of the tree in
order, and so does a run of the tokens that the tree was built from. -/
theorem run_follows_tokens (config : Config) (t : Tree) :
    t.run config = t.meaning config ∧
      (t.run config).Follows config (Token.symbols t.postorder) ∧
      ∀ tokens, build tokens = .ok t →
        execute config [] tokens = t.meaning config ∧
          (execute config [] tokens).Follows config (Token.symbols tokens) := by
  have same := t.run_eq_meaning config
  have follows := t.follows_meaning config
  refine ⟨same, ?_, ?_⟩
  · rw [same, ← t.tokens_eq_postorder]
    exact follows
  · intro tokens built
    have ran : execute config [] t.tokens = t.meaning config := same
    rw [tokens_of_build built, ran]
    exact ⟨rfl, follows⟩

/-- Arithmetic with a remainder. -/
def Config.withRemainder : Config :=
  standard.withOperator ⟨⟨'%', by decide⟩, by decide⟩ ⟨2, .left, .truncatedRemainder⟩

/-- The tree that is written `(x % x) + (x ? x)`, with an operator that no
configuration here knows. -/
def refusingTree : Tree :=
  let x : Tree := .leaf (.name ⟨"x", by decide⟩)
  .branch Config.plus.1 (.branch ⟨'%', by decide⟩ x x) (.branch ⟨'?', by decide⟩ x x)

theorem run_follows_tokens_refusingTree :
    build refusingTree.postorder = .ok refusingTree ∧
      refusingTree.run .withRemainder = refusingTree.meaning .withRemainder ∧
      (refusingTree.run .withRemainder).Follows .withRemainder (Token.symbols refusingTree.postorder) ∧
      execute .withRemainder [] refusingTree.postorder = refusingTree.meaning .withRemainder ∧
      (execute .withRemainder [] refusingTree.postorder).Follows .withRemainder
        (Token.symbols refusingTree.postorder) :=
  have built : build refusingTree.postorder = .ok refusingTree := rfl
  have whole := run_follows_tokens .withRemainder refusingTree
  ⟨built, whole.1, whole.2.1, whole.2.2 _ built⟩

end Abacus
