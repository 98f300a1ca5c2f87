import BranchGuard.Desired.Basic
import BranchGuard.Event

/-!
# Mutations

A mutation carries the `Settings` that a rule should get.  An absent setting is not sent, and
GitHub then takes its default (creation) or keeps what it has (update).  Most settings are copied
from the desired rule; three follow from the others:

* pushes are restricted when the desired rule names actors that may push;
* approving reviews are required when actors may bypass pull requests, stale reviews are dismissed,
  reviews of code owners are required, or a number of reviews other than zero is asked for;
* status checks are always required, because GitHub passes over the settings about them otherwise.

What follows from a list follows from the references in the desired rule, whether or not they
could be resolved.
-/

namespace BranchGuard

/-- The node IDs for each allowance list; absent for a list that cannot be sent. -/
abbrev ActorIds := Allowances (Option (List String))

/-- The settings of a rule in a mutation. -/
structure Settings where
  flags : Flags (Option Bool) := .replicate none
  actorIds : ActorIds := .replicate none
  reviewCount : Option Int32 := none
  contexts : Option (List String) := none
  requiresApprovingReviews : Option Bool := none
  requiresStatusChecks : Option Bool := none
  restrictsPushes : Option Bool := none
deriving DecidableEq, Repr

/-- The mutation that creates a rule in a repository. -/
structure Creation where
  repositoryId : String
  pattern : String
  settings : Settings
deriving DecidableEq, Repr

/-- The mutation that updates the rule with an ID. -/
structure Update where
  ruleId : String
  pattern : String
  settings : Settings
deriving DecidableEq, Repr

namespace Desired

/-- Whether the desired rule implies that pushes are restricted. -/
def restrictsPushes (desired : Desired) : Bool :=
  !desired.allowances.push.isEmpty

/-- Whether the desired rule implies that approving reviews are required. -/
def requiresApprovingReviews (desired : Desired) : Bool :=
  !desired.allowances.bypassPullRequest.isEmpty ||
    desired.flags.dismissesStaleReviews.isOn ||
    desired.flags.requiresCodeOwnerReviews.isOn ||
    (match desired.reviewCount with
      | some count => count != 0
      | none => false)

/-- The settings for the desired rule, with the node IDs of its actors. -/
def settings (desired : Desired) (actorIds : ActorIds) : Settings where
  flags := desired.flags.map Opinion.toOption
  actorIds := actorIds
  reviewCount := desired.reviewCount.map fun count => Int32.ofNat count.toNat
  contexts := if desired.contexts.isEmpty then none else some desired.contexts
  requiresApprovingReviews := some desired.requiresApprovingReviews
  requiresStatusChecks := some true
  restrictsPushes := some desired.restrictsPushes

/-- What is noted each time settings are worked out. -/
def settingsEvents : List Event :=
  [.settingsDerived]

/-- The mutation that creates the desired rule. -/
def creation (desired : Desired) (actorIds : ActorIds) (repositoryId : String) : Creation where
  repositoryId := repositoryId
  pattern := desired.pattern
  settings := desired.settings actorIds

/-- The mutation that makes a rule the desired one. -/
def update (desired : Desired) (actorIds : ActorIds) (ruleId : String) : Update where
  ruleId := ruleId
  pattern := desired.pattern
  settings := desired.settings actorIds

end Desired

end BranchGuard
