/-
# How an evaluation and a search end

Whatever the expression, the assignments and the numbers are, the program returns an
answer with the status 0 or 1, or refuses its arguments with the status 2:

    (Exit.ofArguments setting arguments).isOrderly = true

Each stage could fail by itself; this is what becomes of it.

| stage | fails by | and then |
| :-- | :-- | :-- |
| arguments are read | a wrong usage | they are refused |
| fields are checked | an expression, name, value or count that is not accepted | they are refused |
| an expression is evaluated | parentheses or tokens out of place | that is the answer, with the status 1 |
| a search is made | nothing, for at most twelve numbers without signs | |

The operators of the standard configuration answer for all operands, and variables
add no operators, so an expression fails in no other way (`evaluate_cases`).

Two things are not so.  Help is given with the status 0.  And there is a slip after
which the program ends without a report: a number may have too many digits to be read.
`Exit.Ends` has a constructor for each way to end; `Exit.InOrder` says what is promised.
-/
import Abacus.Exit
import Abacus.Proofs.Arguments
import Abacus.Proofs.Config.Record
import Abacus.Proofs.Errors
import Abacus.Proofs.Solver.First

namespace Abacus

open Abacus.Text

/-- The program returns with the status 0 or 1, or reports a refusal with the status 2. -/
def Exit.isOrderly : Exit → Bool
  | .returned response => response.status == 0 || response.status == 1
  | .refused _ status => status == 2
  | .unreported _ => false
  | .crashed _ => false

namespace Command

/-- The command that arguments name, and the arguments that are left to it. -/
def named? (arguments : List String) : Option (String × List String) :=
  match outerGrammar.parse arguments with
  | .ok (_, name :: own, _) => some (name, own)
  | _ => none

/-- No number of a search has more digits than can be read. -/
def IsReadable : Command → Prop
  | solve texts => ∀ text ∈ texts, ∀ run ∈ digitRuns text.toList, run.length ≤ digitLimit
  | _ => True

end Command

/-- What the program promises of arguments for an evaluation or a search. -/
structure Exit.InOrder (setting : Setting) (arguments : List String) : Prop where
  /-- Help is given with the status 0. -/
  help : Command.parse arguments = .error .help →
    Exit.ofArguments setting arguments = .refused (.halt .help) 0
  /-- All that is wrong with the fields is reported. -/
  invalid : ∀ issues, Request.ofArguments setting.find? arguments = .error (.invalid issues) →
    Exit.ofArguments setting arguments = .refused (.invalid issues) 2
  /-- What passes its checks is answered, with the status 0 or 1. -/
  answered : ∀ request, Request.ofArguments setting.find? arguments = .ok request →
    ∃ response, Exit.ofArguments setting arguments = .returned response ∧
      (response.status = 0 ∨ response.status = 1)
  /-- Where no help is given and the numbers can be read, nothing else happens. -/
  orderly : Command.parse arguments ≠ .error .help →
    (∀ command, Command.parse arguments = .ok command → command.IsReadable) →
    (Exit.ofArguments setting arguments).isOrderly = true

variable {setting : Setting} {arguments own : List String} {name : String} {command : Command}

/-! ## Reading the arguments -/

namespace Command

theorem parseNamed_cases (asked : name = "eval" ∨ name = "solve") (own : List String) :
    (∃ halt, parseNamed name own = .error halt) ∨
      ∃ command extras, parseNamed name own = .ok (command, extras) ∧
        ((∃ expression assignments, command = .evaluate expression assignments) ∨
          ∃ texts, command = .solve texts) := by
  rcases asked with rfl | rfl
  · cases read : evaluateGrammar.parse own with
    | error halt => exact .inl ⟨halt, by rw [parseNamed, read]; rfl⟩
    | ok result => exact .inr ⟨_, _, by rw [parseNamed, read]; rfl, .inl ⟨_, _, rfl⟩⟩
  · cases read : solveGrammar.parse own with
    | error halt => exact .inl ⟨halt, by rw [parseNamed, read]; rfl⟩
    | ok result => exact .inr ⟨_, _, by rw [parseNamed, read]; rfl, .inr ⟨_, rfl⟩⟩

theorem parse_cases (named : named? arguments = some (name, own)) (asked : name = "eval" ∨ name = "solve") :
    (∃ halt, parse arguments = .error halt) ∨
      (∃ expression assignments, parse arguments = .ok (.evaluate expression assignments)) ∨
        ∃ texts, parse arguments = .ok (.solve texts) := by
  unfold named? at named
  split at named
  next values name own outer read =>
    cases named
    rcases parseNamed_cases asked own with ⟨halt, parsed⟩ | ⟨command, inner, parsed, kind⟩
    · exact .inl ⟨halt, by rw [parse_eq_match read, parsed]⟩
    · rw [parse_eq_match read, parsed]
      dsimp only
      by_cases whole : outer ++ inner = []
      · rw [if_pos whole]
        rcases kind with ⟨expression, assignments, rfl⟩ | ⟨texts, rfl⟩
        · exact .inr (.inl ⟨expression, assignments, rfl⟩)
        · exact .inr (.inr ⟨texts, rfl⟩)
      · rw [if_neg whole]
        exact .inl ⟨_, rfl⟩
  next => cases named

theorem parse_solve_plain {first : String} {others : List String}
    (plain : ∀ a ∈ first :: others, a.toList.head? ≠ some '-') :
    named? ("solve" :: first :: others) = some ("solve", first :: others) ∧
      parse ("solve" :: first :: others) = .ok (.solve (first :: others)) := by
  have outer : outerGrammar.parse ("solve" :: first :: others) = .ok ([], "solve" :: first :: others, []) :=
    Grammar.parse_plain_all rfl (List.forall_mem_cons.mpr ⟨by decide, plain⟩)
  have inner : parseNamed "solve" (first :: others) = .ok (.solve (first :: others), []) := by
    rw [parseNamed, Grammar.parse_plain_many rfl plain]
    rfl
  constructor
  · rw [named?, outer]
  · rw [parse_eq_match outer, inner]
    rfl

/-! ## Checking what they say -/

theorem check_evaluate_cases (isFile : Path → Bool) (expression : String)
    (assignments : List (String × String)) :
    (∃ text bindings, check isFile (.evaluate expression assignments) = .ok (.evaluate text bindings)) ∨
      ∃ issues, check isFile (.evaluate expression assignments) = .error (.invalid issues) := by
  rw [check]
  split
  next text bindings _ => exact .inl ⟨text, bindings, rfl⟩
  next issues _ => exact .inr ⟨issues, rfl⟩

theorem length_of_checkNumbers {numbers kept : List Nat} (h : checkNumbers numbers = .ok kept) :
    kept.length ≤ defaultLimit := by
  unfold checkNumbers at h
  split at h
  next => cases h
  next =>
    split at h
    next => cases h
    next few =>
      cases h
      exact Nat.le_of_not_lt few

theorem check_solve_cases (isFile : Path → Bool) (texts : List String) :
    (∃ numbers, numbers.length ≤ defaultLimit ∧ check isFile (.solve texts) = .ok (.solve numbers)) ∨
      (∃ issues, check isFile (.solve texts) = .error (.invalid issues)) ∨
        ¬(solve texts).IsReadable ∧ ∃ e, check isFile (.solve texts) = .error (.tooManyDigits e) := by
  rw [check]
  cases parsed : parseNumbers (" ".intercalate texts) with
  | error e =>
    refine .inr (.inr ⟨?_, e, rfl⟩)
    intro readable
    obtain ⟨numbers, read⟩ := exists_parseNumbers_iff.mpr readable
    cases read.symm.trans parsed
  | ok numbers =>
    dsimp only
    split
    next kept checked => exact .inl ⟨kept, length_of_checkNumbers (Checked.under_eq_ok_iff.mp checked), rfl⟩
    next issues _ => exact .inr (.inl ⟨issues, rfl⟩)

end Command

/-! ## Answering -/

namespace Request

theorem answers_configOf (bindings : List (LetteredName × Float)) : (configOf bindings).Answers := by
  intro s op found
  rw [configOf, Config.operators_bind] at found
  exact Config.answers_standard s op found

theorem exists_answer_evaluate (setting : Setting) (expression : String)
    (bindings : List (LetteredName × Float)) :
    ∃ response, answer setting (.evaluate expression bindings) = .ok response ∧
      (response.status = 0 ∨ response.status = 1) := by
  rw [answer, answerEvaluate]
  rcases evaluate_cases (answers_configOf bindings) expression with
    ⟨value, valued⟩ | ⟨cause, failed⟩ | ⟨cause, failed⟩
  · rw [valued]
    exact ⟨_, rfl, .inl rfl⟩
  · rw [failed]
    exact ⟨_, rfl, .inr rfl⟩
  · rw [failed]
    exact ⟨_, rfl, .inr rfl⟩

theorem exists_answer_solve (setting : Setting) {numbers : List Nat} (few : numbers.length ≤ defaultLimit) :
    ∃ response, answer setting (.solve numbers) = .ok response ∧ response.status = 0 := by
  obtain ⟨found, solved⟩ := Solver.exists_solve_of_natural Solver.answersAt_standard few
  rw [answer, answerSolve, solved]
  cases found with
  | none => exact ⟨_, rfl, rfl⟩
  | some e => exact ⟨_, rfl, rfl⟩

end Request

/-! ## The end -/

namespace Exit

theorem ofArguments_of_halt {halt : Halt} (h : Command.parse arguments = .error halt) (setting : Setting) :
    ofArguments setting arguments = ofRefusal (.halt halt) := by
  rw [ofArguments, Request.ofArguments, h]

theorem ofArguments_of_invalid {issues : List Issue}
    (h : Request.ofArguments setting.find? arguments = .error (.invalid issues)) :
    ofArguments setting arguments = .refused (.invalid issues) 2 := by
  rw [ofArguments, h]
  rfl

theorem ofArguments_of_answer {request : Request} {response : Response}
    (made : Request.ofArguments setting.find? arguments = .ok request)
    (answered : request.answer setting = .ok response) :
    ofArguments setting arguments = .returned response := by
  rw [ofArguments, made]
  dsimp only
  rw [answered]
  rfl

/-- The ways in which an evaluation or a search comes to an end. -/
inductive Ends (setting : Setting) (arguments : List String) : Prop
  | halted (halt : Halt) : Command.parse arguments = .error halt → Ends setting arguments
  | returned (response : Response) : ofArguments setting arguments = .returned response →
      response.status = 0 ∨ response.status = 1 → Ends setting arguments
  | refused (issues : List Issue) :
      ofArguments setting arguments = .refused (.invalid issues) 2 → Ends setting arguments
  | unreported (command : Command) (e : TooManyDigits) :
      Command.parse arguments = .ok command → ¬command.IsReadable →
      ofArguments setting arguments = .unreported (.tooManyDigits e) → Ends setting arguments

theorem ends_of_named (setting : Setting) (named : Command.named? arguments = some (name, own))
    (asked : name = "eval" ∨ name = "solve") : Ends setting arguments := by
  have made {command : Command} (read : Command.parse arguments = .ok command) :
      Request.ofArguments setting.find? arguments = command.check (isFileAt setting.find?) := by
    rw [Request.ofArguments, read]
  rcases Command.parse_cases named asked with
    ⟨halt, stopped⟩ | ⟨expression, assignments, read⟩ | ⟨texts, read⟩
  · exact .halted halt stopped
  · rcases Command.check_evaluate_cases (isFileAt setting.find?) expression assignments with
      ⟨text, bindings, checked⟩ | ⟨issues, failed⟩
    · obtain ⟨response, answered, status⟩ := Request.exists_answer_evaluate setting text bindings
      exact .returned response (ofArguments_of_answer ((made read).trans checked) answered) status
    · exact .refused issues (ofArguments_of_invalid ((made read).trans failed))
  · rcases Command.check_solve_cases (isFileAt setting.find?) texts with
      ⟨numbers, few, checked⟩ | ⟨issues, failed⟩ | ⟨unreadable, e, failed⟩
    · obtain ⟨response, answered, status⟩ := Request.exists_answer_solve setting few
      exact .returned response (ofArguments_of_answer ((made read).trans checked) answered) (.inl status)
    · exact .refused issues (ofArguments_of_invalid ((made read).trans failed))
    · refine .unreported _ e read unreadable ?_
      rw [ofArguments, made read, failed]
      rfl

theorem returned_or_crashed {request : Request}
    (made : Request.ofArguments setting.find? arguments = .ok request) :
    (∃ response, ofArguments setting arguments = .returned response) ∨
      ∃ crash, ofArguments setting arguments = .crashed crash := by
  rw [ofArguments, made]
  dsimp only
  cases request.answer setting with
  | ok response => exact .inl ⟨response, rfl⟩
  | error crash => exact .inr ⟨crash, rfl⟩

/-- An evaluation or a search ends in order, whatever its arguments are. -/
theorem inOrder_of_named (setting : Setting) (named : Command.named? arguments = some (name, own))
    (asked : name = "eval" ∨ name = "solve") : InOrder setting arguments where
  help := fun asked => ofArguments_of_halt asked setting
  invalid := fun issues => ofArguments_of_invalid
  answered := by
    intro request made
    cases ends_of_named setting named asked with
    | halted halt stopped =>
      rw [Request.ofArguments, stopped] at made
      cases made
    | returned response ended status => exact ⟨response, ended, status⟩
    | refused issues ended =>
      rcases returned_or_crashed made with ⟨_, other⟩ | ⟨_, other⟩ <;> cases ended.symm.trans other
    | unreported command e _ _ ended =>
      rcases returned_or_crashed made with ⟨_, other⟩ | ⟨_, other⟩ <;> cases ended.symm.trans other
  orderly := by
    intro noHelp readable
    cases ends_of_named setting named asked with
    | halted halt stopped =>
      rw [ofArguments_of_halt stopped]
      cases halt with
      | usage e => rfl
      | help => exact absurd stopped noHelp
    | returned response ended status =>
      rw [ended]
      rcases status with status | status <;> simp [isOrderly, status]
    | refused issues ended =>
      rw [ended]
      rfl
    | unreported command e read unreadable => exact absurd (readable command read) unreadable

/-- No files, and one slot. -/
def bareSetting : Setting := ⟨fun _ => none, ⟨1, by decide⟩, .oldestFirst⟩

theorem inOrder_of_named_assignment :
    Command.named? ["eval", "x + 5", "-v", "x=7"] = some ("eval", ["x + 5", "-v", "x=7"]) ∧
      ("eval" = "eval" ∨ "eval" = "solve") ∧
      InOrder bareSetting ["eval", "x + 5", "-v", "x=7"] ∧
      (ofArguments bareSetting ["eval", "x + 5", "-v", "x=7"]).isOrderly = true := by
  have named : Command.named? ["eval", "x + 5", "-v", "x=7"] = some ("eval", ["x + 5", "-v", "x=7"]) := by rfl
  have read : Command.parse ["eval", "x + 5", "-v", "x=7"] = .ok (.evaluate "x + 5" [("x", "7")]) := by rfl
  have inOrder : InOrder bareSetting ["eval", "x + 5", "-v", "x=7"] :=
    inOrder_of_named bareSetting named (.inl rfl)
  refine ⟨named, .inl rfl, inOrder, inOrder.orderly ?_ ?_⟩
  · rw [read]
    exact nofun
  · rw [read]
    rintro command ⟨⟩
    trivial

/-! ## What is not in order -/

theorem exists_unreported {texts : List String} (read : Command.parse arguments = .ok (.solve texts))
    (unreadable : ¬(Command.solve texts).IsReadable) (setting : Setting) :
    ∃ e, ofArguments setting arguments = .unreported (.tooManyDigits e) := by
  cases parsed : parseNumbers (" ".intercalate texts) with
  | ok numbers => exact absurd (exists_parseNumbers_iff.mp ⟨numbers, parsed⟩) unreadable
  | error e =>
    have made : Request.ofArguments setting.find? arguments = .error (.tooManyDigits e) := by
      rw [Request.ofArguments, read]
      dsimp only
      rw [Command.check, parsed]
    refine ⟨e, ?_⟩
    rw [ofArguments, made]
    rfl

/-- A number with one digit more than can be read. -/
def tooLong : String := String.ofList (List.replicate (digitLimit + 1) '9')

theorem head?_tooLong : tooLong.toList.head? = some '9' := by
  rw [tooLong, String.toList_ofList, List.replicate_succ]
  rfl

theorem digitRuns_tooLong : digitRuns tooLong.toList = [tooLong.toList] := by
  have nines : ∀ c ∈ tooLong.toList, isDecimal c = true := by
    intro c hc
    rw [tooLong, String.toList_ofList] at hc
    rw [List.eq_of_mem_replicate hc]
    decide
  have filled : tooLong.toList ≠ [] := by
    intro empty
    have first := head?_tooLong
    rw [empty] at first
    cases first
  have run : digitRuns (tooLong.toList ++ []) = tooLong.toList :: digitRuns [] :=
    digitRuns_run filled nines nofun
  rwa [List.append_nil, digitRuns] at run

theorem not_isReadable_tooLong : ¬(Command.solve [tooLong, "1"]).IsReadable := by
  intro readable
  have run : tooLong.toList ∈ digitRuns tooLong.toList := by
    rw [digitRuns_tooLong]
    exact List.mem_cons_self
  have fits := readable tooLong List.mem_cons_self tooLong.toList run
  rw [tooLong, String.toList_ofList, List.length_replicate] at fits
  omega

/-- Not all arguments for an evaluation or a search end in order: help has the status 0,
and a number with too many digits is not reported. -/
theorem not_always_isOrderly :
    (Command.named? ["eval", "-h"] = some ("eval", ["-h"]) ∧
        ofArguments bareSetting ["eval", "-h"] = .refused (.halt .help) 0) ∧
      (Command.named? ["solve", tooLong, "1"] = some ("solve", [tooLong, "1"]) ∧
        ∃ e, ofArguments bareSetting ["solve", tooLong, "1"] = .unreported (.tooManyDigits e)) ∧
      ¬∀ arguments name own, Command.named? arguments = some (name, own) →
        name = "eval" ∨ name = "solve" → (ofArguments bareSetting arguments).isOrderly = true := by
  have help : ofArguments bareSetting ["eval", "-h"] = .refused (.halt .help) 0 := by rfl
  have plain : ∀ a ∈ [tooLong, "1"], a.toList.head? ≠ some '-' := by
    rw [List.forall_mem_cons, head?_tooLong]
    exact ⟨by decide, by decide⟩
  obtain ⟨named, read⟩ := Command.parse_solve_plain plain
  have unreported := exists_unreported read not_isReadable_tooLong bareSetting
  refine ⟨⟨rfl, help⟩, ⟨named, unreported⟩, ?_⟩
  intro always
  have orderly := always ["eval", "-h"] "eval" ["-h"] rfl (.inl rfl)
  rw [help] at orderly
  cases orderly

end Exit

end Abacus
