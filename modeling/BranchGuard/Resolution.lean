import BranchGuard.Attempt
import BranchGuard.Desired.Basic

/-!
# Resolving actors

A mutation names actors by their node IDs, so the references of a desired rule are looked up before
it is sent: one list after the other, one reference after the other, and the first failure ends it.

Apps cannot be looked up.  A list that names an app is left out of the mutation altogether, and
GitHub keeps what it has there.
-/

namespace BranchGuard.Resolution

/-- Makes something of the answer to looking up the actor of a reference. -/
def conclude (reference : String) : Except RemoteError String → Attempt String
  | .ok nodeId => do
    Attempt.note (.actorResolved reference nodeId)
    return nodeId
  | .error .notFound => throw (.actorNotFound reference)
  | .error cause => throw (.remote cause)

/-- The node ID of the actor that a reference names. -/
def resolveActor (reference : String) : Attempt String :=
  match Desired.readReference reference with
  | .error cause => throw cause
  | .ok (.user login) => do
    conclude reference (← Attempt.answer (.resolveUser login))
  | .ok (.team organization slug) => do
    conclude reference (← Attempt.answer (.resolveTeam organization slug))
  | .ok (.app _) => do
    Attempt.note (.appUnresolvable reference)
    throw (.unsupportedActor reference)

/-- The node IDs of the actors of a list, in its order and with its repetitions. -/
def resolveActors : List String → Attempt (List String)
  | [] => pure []
  | reference :: rest => do
    let nodeId ← resolveActor reference
    let nodeIds ← resolveActors rest
    return nodeId :: nodeIds

/-- The node IDs for an allowance list, absent if the list names an app. -/
def resolveList (list : AllowanceList) (references : List String) :
    Attempt (Option (List String)) := do
  if namesApp references then
    Attempt.note (.listLeftOut list)
    return none
  else
    return some (← resolveActors references)

/-- The node IDs for the three allowance lists of a desired rule. -/
def resolveRule (desired : Desired) : Attempt ActorIds := do
  let bypassForcePush ← resolveList .bypassForcePush desired.allowances.bypassForcePush
  let bypassPullRequest ← resolveList .bypassPullRequest desired.allowances.bypassPullRequest
  let push ← resolveList .push desired.allowances.push
  Attempt.note .allowancesResolved
  return { bypassForcePush, bypassPullRequest, push }

end BranchGuard.Resolution
