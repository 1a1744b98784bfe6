/-
Sessions: configurations that are made and changed one after the other.

A session has every configuration that was made in it, in the order in which they
were made; the place of a configuration there is how it is referred to.  An action
makes one more, or changes the one at a place.  An action that is refused says why,
and the session goes on from where it was.
-/
import Abacus.Config.Field

namespace Abacus

inductive Action where
  | standard
  | empty
  | construct (record : Value)
  | register (place : Nat) (symbol : String) (record : Value)
  | assign (place : Nat) (name : String) (value : Value)

inductive ActionError where
  | nowhere (place : Nat)
  | rejected (cause : Rejection)

/-- The configurations made so far. -/
structure Session where
  configs : List Config

namespace Session

/-- A session after an action, and why the action was refused, if it was. -/
structure Answer where
  session : Session
  refusal : Option ActionError

def start : Session := ⟨[]⟩

def add (session : Session) : Checked Config → Answer
  | .ok c => ⟨⟨session.configs ++ [c]⟩, none⟩
  | .error issues => ⟨session, some (.rejected (.issues issues))⟩

def change (session : Session) (place : Nat) (edit : Config → Except Rejection Config) : Answer :=
  match session.configs[place]? with
  | none => ⟨session, some (.nowhere place)⟩
  | some c =>
    match edit c with
    | .ok c => ⟨⟨session.configs.set place c⟩, none⟩
    | .error cause => ⟨session, some (.rejected cause)⟩

def act (session : Session) : Action → Answer
  | .standard => session.add (.ok .standard)
  | .empty => session.add (.ok .empty)
  | .construct record => session.add (Config.ofRecord record)
  | .register place symbol record => session.change place fun c => c.register symbol record
  | .assign place name value => session.change place fun c => c.assign name value

/-- The session after some actions, refused ones among them. -/
def run (actions : List Action) : Session :=
  actions.foldl (fun session action => (session.act action).session) start

end Session

end Abacus
