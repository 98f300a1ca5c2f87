import BranchGuard.Drift.Basic
import BranchGuard.Observed

/-!
# Overlay and late initialization

`Desired.overlay` is the desired rule with everything replaced that the observed rule reports; it
is what the rule would have to say for there to be no drift.  Late initialization takes over from
it whatever the caller has left open (`Desired.fillFrom`), and never touches what the caller has
set.  The drift of a desired rule is its difference from its own overlay (`Drift.against`).
-/

namespace BranchGuard

namespace Desired

/-- The desired rule with every reported value in place of its own. -/
def overlay (desired : Desired) (observed : Observed) : Desired :=
  { desired with
    allowances := .ofFn fun list =>
      match observed.allowances.get list with
      | some actors => normalizeActors desired.owner actors
      | none => desired.allowances.get list
    flags := .ofFn fun flag => (observed.flags.get flag).orElse (desired.flags.get flag)
    reviewCount := observed.reviewCount.or desired.reviewCount
    contexts := observed.contexts.getD desired.contexts }

/-- Whether the caller has left a policy field open. -/
def leavesOpen (desired : Desired) : PolicyField → Bool
  | .allowances list => (desired.allowances.get list).isEmpty
  | .flag flag => !(desired.flags.get flag).isSet
  | .reviewCount => desired.reviewCount.isNone
  | .contexts => desired.contexts.isEmpty

/-- The policy fields that are open in one rule and not in the other. -/
def filledFields (desired current : Desired) : List PolicyField :=
  PolicyField.all.filter fun field => desired.leavesOpen field && !current.leavesOpen field

/-- The desired rule with every open policy field taken from another rule. -/
def fillFrom (desired current : Desired) : Desired :=
  { desired with
    allowances := .ofFn fun list =>
      if (desired.allowances.get list).isEmpty then current.allowances.get list
      else desired.allowances.get list
    flags := .ofFn fun flag => (desired.flags.get flag).orElse (current.flags.get flag)
    reviewCount := desired.reviewCount.or current.reviewCount
    contexts := if desired.contexts.isEmpty then current.contexts else desired.contexts }

/-- The desired rule with every open policy field filled in from the observed rule. -/
def lateInitialize (desired : Desired) (observed : Observed) : Desired :=
  desired.fillFrom (desired.overlay observed)

/-- The policy fields that late initialization fills in. -/
def lateFields (desired : Desired) (observed : Observed) : List PolicyField :=
  desired.filledFields (desired.overlay observed)

/-- Whether late initialization fills in anything. -/
def isLateInitialized (desired : Desired) (observed : Observed) : Bool :=
  !(desired.lateFields observed).isEmpty

/-- What is noted about late initialization: one entry for each flag filled in. -/
def lateEvents (desired : Desired) (observed : Observed) : List Event :=
  (desired.lateFields observed).filterMap fun
    | .flag flag => some (.flagFilled flag)
    | _ => none

end Desired

/-- The drift of a desired rule from what is observed. -/
def Drift.against (desired : Desired) (observed : Observed) : Drift :=
  Drift.between desired (desired.overlay observed)

end BranchGuard
