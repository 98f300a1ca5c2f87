import BranchGuard.Event
import BranchGuard.Rule.Basic

/-!
# The observed rule

`Observed` is a reported rule as the engine looks at it: flags are opinions, the review count has
the range of a desired one, and allowance lists hold supported actors only.  What a report leaves
out stays absent.  `Observed.ofRule` makes it, and `Observed.events` says what it passed over.
-/

namespace BranchGuard

/-- A branch protection rule as the engine sees it. -/
structure Observed where
  id : String
  repositoryId : Option String
  repositoryName : Option String
  flags : Flags Opinion
  /-- Mutations always turn status checks on, so having them off is no drift. -/
  requiresStatusChecks : Opinion
  reviewCount : Option UInt8
  contexts : Option (List String)
  /-- Absent when the connection was not part of the report. -/
  allowances : Allowances (Option (List Actor))
deriving DecidableEq, Repr

namespace Observed

/-- A reported review count, unless it does not fit eight bits. -/
def reviewCount? (count : Int32) : Option UInt8 :=
  if 0 ≤ count.toInt ∧ count.toInt < 256 then some (UInt8.ofNat count.toInt.toNat) else none

/-- What the engine sees of a reported rule. -/
def ofRule (rule : Rule) : Observed where
  id := rule.id
  repositoryId := rule.repository.map (·.id)
  repositoryName := rule.repository.map (·.name)
  flags := rule.flags.map Opinion.ofOption
  requiresStatusChecks := .ofOption rule.requiresStatusChecks
  reviewCount := rule.reviewCount.bind reviewCount?
  contexts := rule.contexts
  allowances := rule.allowances.map fun connection => connection.map Connection.actors

/-- One entry for each reported actor of an unsupported kind. -/
def unsupportedEvents (connection : Connection) : List Event :=
  connection.reported.filterMap fun actor =>
    if actor.toActor?.isNone then some .unsupportedActorIgnored else none

/-- What is noted about a reported rule: first the count, then the lists in their order. -/
def events (rule : Rule) : List Event :=
  (match rule.reviewCount with
    | some count => if (reviewCount? count).isNone then [.reviewCountIgnored] else []
    | none => []) ++
  rule.allowances.toList.flatMap fun connection =>
    connection.toList.flatMap unsupportedEvents

end Observed

end BranchGuard
