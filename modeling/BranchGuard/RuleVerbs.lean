import BranchGuard.Attempt
import BranchGuard.Cycle
import BranchGuard.Drift.Overlay
import BranchGuard.Resolution

/-!
# The verbs of a branch protection rule

`ruleVerbs` are the four verbs for a rule on GitHub.

Observing looks the rule up by its pattern, records the node ID of the repository in the desired
rule, fetches the rule, fills in what the desired rule leaves open, and then compares the two.  A
repository or a rule that is not there makes the observation that the rule does not exist; any
other failure of a call is a failure to observe.  The desired rule keeps what was recorded in it
before a failure.

Creating and updating check the desired rule again and resolve all its actors before the mutation
is sent.
-/

namespace BranchGuard

namespace RuleVerbs

/-- The result of observing: what was found, and the desired rule as it then stands. -/
abbrev Observing : Type :=
  Except VerbError (Observation RuleIdentity) × Desired

/-- What is noted when a fetched rule is looked at. -/
def fetchEvents (lookup : Lookup) (observed : Observed) : List Event :=
  (match observed.repositoryId with
    | some repositoryId => if repositoryId = lookup.repositoryId then [] else [.ruleForeign]
    | none => []) ++
  (if observed.requiresStatusChecks = .off then [.statusChecksOff] else [])

/--
The end of observing, when the rule has been fetched: fills in what the desired rule leaves open
and compares it with the result.  `recorded` says whether the repository was recorded before.
-/
def observeFetched (desired : Desired) (lookup : Lookup) (ruleId : String) (recorded : Bool)
    (rule : Rule) : Conversation Observing := do
  let observed := Observed.ofRule rule
  Dialogue.sayAll (Observed.events rule)
  Dialogue.sayAll (fetchEvents lookup observed)
  Dialogue.sayAll (desired.lateEvents observed)
  let lateInitialized := desired.isLateInitialized observed || recorded
  let desired := desired.lateInitialize observed
  let drift := Drift.against desired observed
  Dialogue.say (.ruleObserved drift.isEmpty lateInitialized)
  if !drift.isEmpty then
    Dialogue.say .ruleOutOfDate
  return (.ok
    { present := true
      upToDate := drift.isEmpty
      lateInitialized := lateInitialized
      drift := drift.text
      identity := some ⟨lookup.repositoryId, ruleId⟩ }, desired)

/-- Observing from the point where the rule has been looked up and its repository recorded. -/
def observeFound (desired : Desired) (lookup : Lookup) (recorded : Bool) :
    Conversation Observing := do
  match lookup.ruleId with
  | none =>
    Dialogue.say .ruleAbsent
    return (.ok (.absent recorded), desired)
  | some ruleId =>
    match ← (Request.fetchRule ruleId).send with
    | .ok rule => observeFetched desired lookup ruleId recorded rule
    | .error .notFound =>
      Dialogue.say (.ruleVanished ruleId)
      return (.ok (.absent recorded), desired)
    | .error cause => return (← Attempt.fail .observe (.remote cause), desired)

/-- Records the repository that was looked up, if another one or none was recorded. -/
def observeRepository (desired : Desired) (lookup : Lookup) : Conversation Observing :=
  if desired.repositoryId = some lookup.repositoryId then
    observeFound desired lookup false
  else do
    Dialogue.say (.repositoryRecorded lookup.repositoryId)
    observeFound { desired with repositoryId := some lookup.repositoryId } lookup true

/-- Finds out whether the rule exists and is as desired. -/
def observe (desired : Desired) : Conversation Observing :=
  match desired.validate with
  | .error cause => do
    return (← Attempt.fail .observe cause, desired)
  | .ok () => do
    let repository := desired.repositoryName.getD ""
    match ← (Request.findRule desired.owner repository desired.pattern).send with
    | .ok lookup => observeRepository desired lookup
    | .error .notFound =>
      Dialogue.say .repositoryAbsent
      return (.ok (.absent false), desired)
    | .error cause => return (← Attempt.fail .observe (.remote cause), desired)

/-- Creates the rule in the repository that was recorded. -/
def create (desired : Desired) : Conversation (Except VerbError RuleIdentity) :=
  Attempt.carryOut .create do
    Attempt.check desired.validate
    match desired.repositoryId with
    | none => throw (.missingField "repositoryId")
    | some repositoryId =>
      let actorIds ← Resolution.resolveRule desired
      Attempt.noteAll Desired.settingsEvents
      let ruleId ← Attempt.call (.createRule (desired.creation actorIds repositoryId))
      Attempt.note .ruleCreated
      return ⟨repositoryId, ruleId⟩

/-- Makes the rule on GitHub the desired one. -/
def update (desired : Desired) (identity : RuleIdentity) :
    Conversation (Except VerbError Unit) :=
  Attempt.carryOut .update do
    Attempt.check desired.validate
    let actorIds ← Resolution.resolveRule desired
    Attempt.noteAll Desired.settingsEvents
    Attempt.call (.updateRule (desired.update actorIds identity.ruleId))
    Attempt.note .ruleUpdated

/-- Deletes the rule. -/
def delete (identity : RuleIdentity) : Conversation (Except VerbError Unit) :=
  Attempt.carryOut .delete do
    Attempt.call (.deleteRule identity.ruleId)
    Attempt.note .ruleDeleted

end RuleVerbs

/-- The verbs of a branch protection rule. -/
def ruleVerbs : Verbs (Dialogue Request.Reply Event) Desired RuleIdentity where
  observe := RuleVerbs.observe
  create := RuleVerbs.create
  update := RuleVerbs.update
  delete := RuleVerbs.delete

end BranchGuard
