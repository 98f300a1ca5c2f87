import BranchGuard.Remote

/-!
# Attempts

An `Attempt` is a conversation that the first `EngineError` ends.  `Attempt.carryOut` makes it part
of a verb: a failure is then labelled with the verb and noted in the log.
-/

namespace BranchGuard

/-- A conversation that can fail. -/
abbrev Attempt (α : Type) : Type :=
  ExceptT EngineError (Dialogue Request.Reply Event) α

namespace Attempt

variable {α : Type}

/-- Takes a note. -/
def note (event : Event) : Attempt Unit :=
  ExceptT.lift (Dialogue.say event)

/-- Takes notes, one after the other. -/
def noteAll (events : List Event) : Attempt Unit :=
  ExceptT.lift (Dialogue.sayAll events)

/-- Calls a remote operation and takes its answer, whether it failed or not. -/
def answer (request : Request) : Attempt request.Reply :=
  ExceptT.lift request.send

/-- Fails where a check failed. -/
def check (result : Except EngineError α) : Attempt α :=
  ExceptT.mk (pure result)

/-- Calls a remote operation; its failure is a failure of the attempt. -/
def call (request : Request) : Attempt request.Result := do
  match ← answer request with
  | .ok result => return result
  | .error cause => throw (.remote cause)

/-- Notes that a verb failed, and fails with it. -/
def fail (verb : Verb) (cause : EngineError) : Conversation (Except VerbError α) :=
  .note (.verbFailed ⟨verb, cause⟩) (.done (.error ⟨verb, cause⟩))

/-- Carries an attempt through as part of a verb. -/
def carryOut (verb : Verb) (attempt : Attempt α) : Conversation (Except VerbError α) := do
  match ← attempt.run with
  | .ok value => return .ok value
  | .error cause => fail verb cause

end Attempt

end BranchGuard
