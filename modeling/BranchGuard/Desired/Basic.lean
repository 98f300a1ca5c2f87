import BranchGuard.Actor
import BranchGuard.Error
import BranchGuard.Policy

/-!
# The desired rule

`Desired` is what a caller wants a branch protection rule to look like.  A caller need not have an
opinion on everything: an unset flag, an empty list, no contexts and no review count are all
opinions left open.  `Desired.validate` says whether the engine can act on it, before anything
remote happens.
-/

namespace BranchGuard

/-- The greatest number of approving reviews that GitHub accepts. -/
def maxReviewCount : UInt8 := 6

/-- The desired state of a branch protection rule. -/
structure Desired where
  /-- The branch name pattern that the rule protects. -/
  pattern : String := ""
  /-- The organization or user that owns the repository. -/
  owner : String := ""
  /-- The name of the repository. -/
  repository : Option String := none
  /-- The node ID of the repository, recorded when it is looked up. -/
  repositoryId : Option String := none
  /-- References to the actors of each allowance list. -/
  allowances : Allowances (List String) := .replicate []
  flags : Flags Opinion := .replicate .unset
  reviewCount : Option UInt8 := none
  /-- The status checks that have to pass. -/
  contexts : List String := []
deriving DecidableEq, Repr

namespace Desired

/-- A rule for a pattern of a repository, with no opinion on any policy. -/
def named (owner repository pattern : String) : Desired where
  pattern := pattern
  owner := owner
  repository := some repository

/-- The name of the repository, unless it is blank. -/
def repositoryName (desired : Desired) : Option String :=
  desired.repository.filter fun name => !Text.isBlank name

/-- The references of all allowance lists, one list after the other. -/
def references (desired : Desired) : List String :=
  desired.allowances.toList.flatten

/-- Reads a reference. -/
def readReference (reference : String) : Except EngineError ActorReference :=
  (ActorReference.parse reference).mapError fun fault =>
    .invalidReference reference fault.reason

/-- The first of the references that is malformed. -/
def checkReferences : List String → Except EngineError Unit
  | [] => .ok ()
  | reference :: rest =>
    match readReference reference with
    | .ok _ => checkReferences rest
    | .error cause => .error cause

/-- Refuses more approving reviews than GitHub accepts. -/
def checkReviewCount : Option UInt8 → Except EngineError Unit
  | none => .ok ()
  | some count =>
    if maxReviewCount < count then
      .error (.invalidField "requiredApprovingReviewCount"
        (toString count.toNat ++ " is outside the range 0..=" ++ toString maxReviewCount.toNat))
    else .ok ()

/--
Whether the engine can act on the rule: it names an owner, a pattern and a repository, its review
count is in range, and all its references can be read.  The first fault in this order is reported.
-/
def validate (desired : Desired) : Except EngineError Unit :=
  if Text.isBlank desired.owner then .error (.missingField "owner")
  else if Text.isBlank desired.pattern then .error (.missingField "pattern")
  else if desired.repositoryName.isNone then .error (.missingField "repository")
  else
    match checkReviewCount desired.reviewCount with
    | .error cause => .error cause
    | .ok () => checkReferences desired.references

end Desired

/-- Where a rule lives on GitHub. -/
structure RuleIdentity where
  repositoryId : String
  ruleId : String
deriving DecidableEq, Repr

end BranchGuard
