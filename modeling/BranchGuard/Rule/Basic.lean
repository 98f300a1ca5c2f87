import BranchGuard.Actor
import BranchGuard.Policy

/-!
# Branch protection rules as GitHub reports them

Everything but the identity and the pattern of a rule may be absent, because GitHub leaves out
what was not asked for.  An absent value is kept apart from `false`, from an empty list and from an
empty connection.
-/

namespace BranchGuard

/-- The repository a rule belongs to. -/
structure RuleRepository where
  id : String
  name : String
deriving DecidableEq, Repr

/-- An actor of a reported allowance list. -/
inductive ReportedActor where
  | known (actor : Actor)
  /-- An actor of a kind that the engine does not deal with. -/
  | unsupported
deriving DecidableEq, Repr

/-- The actor, unless its kind is unsupported. -/
def ReportedActor.toActor? : ReportedActor → Option Actor
  | .known actor => some actor
  | .unsupported => none

/-- A reported allowance list.  An entry without an actor belongs to a deleted account. -/
structure Connection where
  entries : List (Option ReportedActor)
deriving DecidableEq, Repr

namespace Connection

/-- The connection without entries. -/
def empty : Connection := ⟨[]⟩

/-- A connection with one entry for each actor. -/
def ofActors (actors : List ReportedActor) : Connection :=
  ⟨actors.map some⟩

/-- The actors of the entries that have one. -/
def reported (connection : Connection) : List ReportedActor :=
  connection.entries.filterMap id

/-- The actors whose kind is supported. -/
def actors (connection : Connection) : List Actor :=
  connection.reported.filterMap ReportedActor.toActor?

end Connection

/-- A branch protection rule as GitHub reports it. -/
structure Rule where
  id : String
  pattern : String
  repository : Option RuleRepository := none
  flags : Flags (Option Bool) := .replicate none
  reviewCount : Option Int32 := none
  contexts : Option (List String) := none
  requiresApprovingReviews : Option Bool := none
  requiresStatusChecks : Option Bool := none
  restrictsPushes : Option Bool := none
  restrictsReviewDismissals : Option Bool := none
  allowances : Allowances (Option Connection) := .replicate none
  /-- The actors that may dismiss reviews; the engine passes them over. -/
  dismissalAllowances : Option Connection := none
deriving DecidableEq, Repr

end BranchGuard
