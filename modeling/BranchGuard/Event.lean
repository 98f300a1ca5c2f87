import BranchGuard.Error
import BranchGuard.Policy
import BranchGuard.Text.Quoted

/-!
# The log of the engine

What the engine notes while it works is data: an `Event` has a `level` and a `message`, and code
that is otherwise pure returns the events it gives rise to.
-/

namespace BranchGuard

/-- How urgent a log entry is. -/
inductive Level where
  | error
  | warn
  | info
  | debug
deriving DecidableEq, Repr

namespace Level

/-- The level in upper case, as it stands in a log line. -/
def label : Level → String
  | .error => "ERROR"
  | .warn => "WARN"
  | .info => "INFO"
  | .debug => "DEBUG"

/-- How many levels are more urgent. -/
def rank : Level → Nat
  | .error => 0
  | .warn => 1
  | .info => 2
  | .debug => 3

end Level

/-- The operations that the remote side offers. -/
inductive RemoteOperation where
  | findRule
  | fetchRule
  | resolveTeam
  | resolveUser
  | createRule
  | updateRule
  | deleteRule
deriving DecidableEq, Repr

namespace RemoteOperation

/-- All operations. -/
def all : List RemoteOperation :=
  [.findRule, .fetchRule, .resolveTeam, .resolveUser, .createRule, .updateRule, .deleteRule]

/-- The operation as the log names it. -/
def label : RemoteOperation → String
  | .findRule => "find_rule_by_pattern"
  | .fetchRule => "fetch_rule"
  | .resolveTeam => "resolve_team_id"
  | .resolveUser => "resolve_user_id"
  | .createRule => "create_rule"
  | .updateRule => "update_rule"
  | .deleteRule => "delete_rule"

end RemoteOperation

/-- Something worth a log entry. -/
inductive Event where
  /-- A configuration file is about to be read. -/
  | configLoading (path : String)
  | configLoaded
  /-- The base URI of the API is not a URI. -/
  | baseUriRefused
  /-- A reported review count does not fit the range of a desired one. -/
  | reviewCountIgnored
  /-- A reported allowance list holds an actor of an unsupported kind. -/
  | unsupportedActorIgnored
  /-- A flag without an opinion was filled in. -/
  | flagFilled (flag : Flag)
  /-- The settings that follow from others were worked out for a mutation. -/
  | settingsDerived
  | verbFailed (failure : VerbError)
  /-- The repository does not exist, so its rule does not either. -/
  | repositoryAbsent
  /-- The node ID of the repository was taken into the desired rule. -/
  | repositoryRecorded (repositoryId : String)
  | ruleAbsent
  /-- The rule was found, but was gone when it was fetched. -/
  | ruleVanished (ruleId : String)
  /-- The fetched rule says that it belongs to another repository. -/
  | ruleForeign
  | statusChecksOff
  | ruleObserved (upToDate lateInitialized : Bool)
  | ruleOutOfDate
  | ruleCreated
  | ruleUpdated
  | ruleDeleted
  | appUnresolvable (reference : String)
  | actorResolved (reference nodeId : String)
  /-- A list that names an app is left out of the mutation. -/
  | listLeftOut (list : AllowanceList)
  | allowancesResolved
  /-- A request is about to be sent. -/
  | requestSent (operation : RemoteOperation)
  /-- The answer lists errors. -/
  | answerHasErrors (operation : RemoteOperation)
  | payloadDecoding (operation : RemoteOperation)
  /-- GitHub turned the request down. -/
  | requestRefused (operation : RemoteOperation)
  /-- No usable answer came back. -/
  | requestBroken (operation : RemoteOperation)
  | repositoryNotFound
  /-- A page of rules was looked through. -/
  | pageScanned (page : UInt32)
  | patternFound (page : UInt32)
  /-- The scan ended at the page limit although more pages follow. -/
  | scanCutShort (pages : UInt32)
  | patternNotFound
  | nodeNotFound
  | teamResolved
  | userResolved
  | creationUnconfirmed
  | updateUnconfirmed
deriving DecidableEq, Repr

namespace Event

/-- The level and the message of an entry. -/
def entry : Event → Level × String
  | .configLoading path => (.debug, "Loading configuration from " ++ Text.quoted path)
  | .configLoaded => (.info, "Loaded engine configuration")
  | .baseUriRefused => (.error, "Invalid GitHub API base URI")
  | .reviewCountIgnored => (.warn, "Ignoring out of range approving review count")
  | .unsupportedActorIgnored => (.warn, "Ignoring allowance actor of an unsupported type")
  | .flagFilled _ => (.debug, "Late-initialized policy flag")
  | .settingsDerived => (.debug, "Derived implied protection settings")
  | .verbFailed _ => (.error, "Branch protection operation failed")
  | .repositoryAbsent => (.info, "Repository not found, the rule does not exist")
  | .repositoryRecorded _ => (.debug, "Recorded repository node id")
  | .ruleAbsent => (.info, "Branch protection rule does not exist")
  | .ruleVanished _ => (.warn, "Branch protection rule disappeared between lookup and fetch")
  | .ruleForeign => (.warn, "Fetched rule belongs to another repository than the lookup")
  | .statusChecksOff => (.debug, "Status checks are off on GitHub, next mutation enables")
  | .ruleObserved _ _ => (.info, "Observed branch protection rule")
  | .ruleOutOfDate => (.debug, "Branch protection rule is out of date")
  | .ruleCreated => (.info, "Created branch protection rule")
  | .ruleUpdated => (.info, "Updated branch protection rule")
  | .ruleDeleted => (.info, "Deleted branch protection rule")
  | .appUnresolvable _ => (.warn, "App actors cannot be resolved to node IDs")
  | .actorResolved _ _ => (.debug, "Resolved actor reference")
  | .listLeftOut _ =>
    (.warn, "Allowance list names an app actor, leaving it out of the mutation")
  | .allowancesResolved => (.debug, "Resolved allowance actors")
  | .requestSent _ => (.debug, "Sending GraphQL request")
  | .answerHasErrors _ => (.warn, "GraphQL response contained errors")
  | .payloadDecoding _ => (.debug, "Decoding GraphQL payload")
  | .requestRefused operation =>
    (.error, operation.label ++ ". Received an error from GitHub")
  | .requestBroken operation => (.error, operation.label)
  | .repositoryNotFound => (.error, "Repository not found")
  | .pageScanned _ => (.debug, "Scanned page of branch protection rules")
  | .patternFound _ => (.info, "Found branch protection rule for pattern")
  | .scanCutShort _ =>
    (.warn, "Stopped scanning branch protection rules at the configured page limit")
  | .patternNotFound => (.info, "No branch protection rule matches the pattern")
  | .nodeNotFound => (.error, "Branch protection rule node not found")
  | .teamResolved => (.debug, "Resolved team node id")
  | .userResolved => (.debug, "Resolved user node id")
  | .creationUnconfirmed => (.error, "Create mutation returned no branch protection rule")
  | .updateUnconfirmed => (.error, "Update mutation returned no branch protection rule")

/-- The log line of an entry. -/
def line (event : Event) : String :=
  event.entry.1.label ++ " " ++ event.entry.2

/-- The log lines at least as urgent as `level`. -/
def linesAt (level : Level) (events : List Event) : List String :=
  (events.filter fun event => event.entry.1.rank ≤ level.rank).map line

end Event

end BranchGuard
