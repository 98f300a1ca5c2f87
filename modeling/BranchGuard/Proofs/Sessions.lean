import BranchGuard.Proofs.Calls

/-!
# Sessions

A session is a list of steps, each of them a verb or a whole cycle.  Nothing ties the steps to one
another: every step comes with a record and an identity of its own, so whatever a caller makes of
the results before it chooses the next step is among the sessions.

`deeds` carries a session out against any responder and keeps, for each step, its result and its
calls.  A fact about the deed of a single step, at any state, is a fact about all the deeds of a
session (`forall_deeds`).
-/

namespace BranchGuard

open Dialogue

/-- A step of a session: a verb or a cycle, with what it is given. -/
inductive Step where
  | observe (desired : Desired)
  | create (desired : Desired)
  | update (desired : Desired) (identity : RuleIdentity)
  | delete (identity : RuleIdentity)
  | reconcile (desired : Desired)

namespace Step

/-- What the step results in; observing and reconciling hand the record back. -/
abbrev Result : Step → Type
  | .observe _ => RuleVerbs.Observing
  | .create _ => Except VerbError RuleIdentity
  | .update _ _ => Except VerbError Unit
  | .delete _ => Except VerbError Unit
  | .reconcile _ => Except VerbError (Outcome RuleIdentity) × Desired

/-- What is said and asked in the step. -/
def conversation : (step : Step) → Conversation step.Result
  | .observe desired => ruleVerbs.observe desired
  | .create desired => ruleVerbs.create desired
  | .update desired identity => ruleVerbs.update desired identity
  | .delete identity => ruleVerbs.delete identity
  | .reconcile desired => ruleVerbs.reconcileOnce desired

/-- The record that the step creates or updates a rule from, if it does: the one it was given, or
the one that observing left in a cycle. -/
def record? : (step : Step) → step.Result → Option Desired
  | .create desired, _ => some desired
  | .update desired _, _ => some desired
  | .reconcile _, (_, left) => some left
  | .observe _, _ => none
  | .delete _, _ => none

end Step

/-- A step that was carried out. -/
structure Deed where
  step : Step
  result : step.Result
  calls : List Call

section Deeds

variable {σ : Type} (responder : Responder Request.Reply σ)

/-- What comes of a step in a state of the responder. -/
def deed (step : Step) (state : σ) : Deed :=
  ⟨step, (step.conversation.run responder state).value,
    (step.conversation.run responder state).transcript.calls⟩

/-- What comes of the steps of a session, one after the other. -/
def deeds : List Step → σ → List Deed
  | [], _ => []
  | step :: rest, state =>
    deed responder step state :: deeds rest (step.conversation.run responder state).state

theorem forall_deeds {holds : Deed → Prop} (each : ∀ step state, holds (deed responder step state))
    (steps : List Step) (state : σ) : ∀ done ∈ deeds responder steps state, holds done := by
  induction steps generalizing state with
  | nil =>
      intro done member
      cases member
  | cons step rest ih =>
      intro done member
      rcases List.mem_cons.mp member with rfl | member
      · exact each step state
      · exact ih _ done member

end Deeds

end BranchGuard
