import BranchGuard.Error

/-!
# Reconciliation cycles

A managed resource offers four verbs (`Verbs`), whatever it is and however it is reached.  A cycle
(`Verbs.reconcileOnce`) observes the resource and then creates it, updates it, or leaves it alone,
as the observation calls for.  Nothing is retried within a cycle, and every verb can be run again
from scratch.
-/

namespace BranchGuard

/-- What a cycle does after observing. -/
inductive Action where
  | create
  | update
  | skip
deriving DecidableEq, Repr

/-- The action in one word. -/
def Action.text : Action → String
  | .create => "create"
  | .update => "update"
  | .skip => "skip"

/-- What observing a resource finds. -/
structure Observation (Identity : Type) where
  present : Bool
  upToDate : Bool
  /-- Observing filled in parts of the desired record, which the caller should keep. -/
  lateInitialized : Bool
  /-- How the resource differs from the desired record, in words. -/
  drift : String
  /-- Where the resource lives, if it exists. -/
  identity : Option Identity
deriving DecidableEq, Repr

namespace Observation

variable {Identity : Type}

/-- The observation that the resource does not exist. -/
def absent (lateInitialized : Bool) : Observation Identity where
  present := false
  upToDate := false
  lateInitialized := lateInitialized
  drift := ""
  identity := none

/-- What the observation calls for. -/
def requiredAction (observation : Observation Identity) : Action :=
  if !observation.present then .create
  else if !observation.upToDate then .update
  else .skip

end Observation

/-- What a cycle did. -/
structure Outcome (Identity : Type) where
  action : Action
  identity : Identity
  lateInitialized : Bool
  /-- The drift that led to an update, empty otherwise. -/
  drift : String
deriving DecidableEq, Repr

/-- The four verbs of a managed resource. -/
structure Verbs (M : Type → Type) (Resource Identity : Type) where
  /-- Finds out how things stand, and fills in what the desired record leaves open.  The record is
  returned in any case. -/
  observe : Resource → M (Except VerbError (Observation Identity) × Resource)
  create : Resource → M (Except VerbError Identity)
  update : Resource → Identity → M (Except VerbError Unit)
  delete : Identity → M (Except VerbError Unit)

namespace Verbs

variable {M : Type → Type} {Resource Identity : Type} [Monad M]

/-- The failure to act on a resource of which nobody said where it lives. -/
def missingIdentity : VerbError :=
  ⟨.update, .missingField "identity"⟩

/-- Does what an observation calls for. -/
def act (verbs : Verbs M Resource Identity) (resource : Resource)
    (observation : Observation Identity) : M (Except VerbError Identity) :=
  match observation.requiredAction with
  | .create => verbs.create resource
  | .update =>
    match observation.identity with
    | none => pure (.error missingIdentity)
    | some identity => do
      match ← verbs.update resource identity with
      | .error failure => pure (.error failure)
      | .ok () => pure (.ok identity)
  | .skip =>
    match observation.identity with
    | none => pure (.error missingIdentity)
    | some identity => pure (.ok identity)

/-- Observes the resource and does what the observation calls for. -/
def reconcileOnce (verbs : Verbs M Resource Identity) (resource : Resource) :
    M (Except VerbError (Outcome Identity) × Resource) := do
  match ← verbs.observe resource with
  | (.error failure, resource) => pure (.error failure, resource)
  | (.ok observation, resource) =>
    match ← verbs.act resource observation with
    | .error failure => pure (.error failure, resource)
    | .ok identity =>
      pure (.ok
        { action := observation.requiredAction
          identity := identity
          lateInitialized := observation.lateInitialized
          drift := observation.drift }, resource)

end Verbs

end BranchGuard
