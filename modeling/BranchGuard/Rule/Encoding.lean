import BranchGuard.Json.Record
import BranchGuard.Rule.Basic

/-!
# The JSON form of a reported rule

Each part of a rule has a reader (`ofJson?`) and a writer (`toJson`).  A written rule leaves out an
absent repository and absent connections; every other absent value is written as `null`, and a
reader takes `null` and a missing member for the same.

An actor is an object whose member `__typename` says which kind it is.  Its array form starts with
the kind.  A kind that is not known makes an unsupported actor, whatever else the object holds.
-/

namespace BranchGuard

open Json

namespace ReportedActor

/-- The member that holds the kind of an actor. -/
def kindName : String := "__typename"

/-- The member under which an actor of a known kind has its name, and the actor with a name. -/
def kind? : String → Option (String × (String → Actor))
  | "Team" => some ("slug", .team)
  | "User" => some ("login", .user)
  | "App" => some ("slug", .app)
  | _ => none

/-- Reads the members of an actor object. -/
def ofMembers? (members : List (String × Json)) : Option ReportedActor := do
  guard (!isRepeated members kindName)
  match kind? (← required kindName string? members) with
  | none => some .unsupported
  | some (nameField, actor) =>
    guard (!isRepeated members nameField)
    (required nameField string? members).map fun name => .known (actor name)

/-- Reads the items of the array form. -/
def ofItems? : List Json → Option ReportedActor
  | .string kind :: rest =>
    match kind? kind, rest with
    | none, [] => some .unsupported
    | some (_, actor), [.string name] => some (.known (actor name))
    | _, _ => none
  | _ => none

/-- Reads an actor that nests no deeper than `depth`.  Every part of it has to denote something and
to keep within that depth, also what is not looked at. -/
def ofJsonWithin? (depth : Nat) (json : Json) : Option ReportedActor :=
  if json.isSound depth then
    match json with
    | .object members => ofMembers? members
    | .array items => ofItems? items
    | _ => none
  else none

/-- Reads an actor that stands by itself. -/
def ofJson? : Json → Option ReportedActor :=
  ofJsonWithin? maxDepth

/-- Writes an actor. -/
def toJson : ReportedActor → Json
  | .known (.team slug) => .object [(kindName, .string "Team"), ("slug", .string slug)]
  | .known (.user login) => .object [(kindName, .string "User"), ("login", .string login)]
  | .known (.app slug) => .object [(kindName, .string "App"), ("slug", .string slug)]
  | .unsupported => .object [(kindName, .string "Unsupported")]

end ReportedActor

namespace Connection

/-- The number of containers around an actor in a rule: the rule, the connection, its list of nodes,
and the entry. -/
def outerDepth : Nat := 4

/-- Reads one entry, whose actor has only the depth that the containers around it leave. -/
def entryOfJson? (json : Json) : Option (Option ReportedActor) := do
  nullable "actor" (ReportedActor.ofJsonWithin? (maxDepth - outerDepth))
    (← fields? [⟨"actor", false⟩] json)

/-- Writes one entry. -/
def entryToJson (entry : Option ReportedActor) : Json :=
  .object [("actor", orNull ReportedActor.toJson entry)]

/-- Reads a connection; without its list of nodes it is empty. -/
def ofJson? (json : Json) : Option Connection := do
  let fields ← fields? [⟨"nodes", true⟩] json
  (defaulted "nodes" [] (listOf? entryOfJson?) fields).map Connection.mk

/-- Writes a connection. -/
def toJson (connection : Connection) : Json :=
  .object [("nodes", .array (connection.entries.map entryToJson))]

end Connection

namespace RuleRepository

/-- Reads a repository. -/
def ofJson? (json : Json) : Option RuleRepository := do
  let fields ← fields? [⟨"id", false⟩, ⟨"name", false⟩] json
  return { id := ← required "id" string? fields, name := ← required "name" string? fields }

/-- Writes a repository. -/
def toJson (repository : RuleRepository) : Json :=
  .object [("id", .string repository.id), ("name", .string repository.name)]

end RuleRepository

namespace Rule

/-- The fields of a rule in the order of its array form. -/
def fields : List Field :=
  ["id", "pattern", "repository", "allowsDeletions", "allowsForcePushes",
   "dismissesStaleReviews", "isAdminEnforced", "requiredApprovingReviewCount",
   "requiredStatusCheckContexts", "requiresApprovingReviews", "requiresCodeOwnerReviews",
   "requiresCommitSignatures", "requiresConversationResolution", "requiresLinearHistory",
   "requiresStatusChecks", "requiresStrictStatusChecks", "restrictsPushes",
   "restrictsReviewDismissals", "pushAllowances", "bypassPullRequestAllowances",
   "bypassForcePushAllowances", "reviewDismissalAllowances"].map (⟨·, false⟩)

/-- Reads a rule. -/
def ofJson? (json : Json) : Option Rule := do
  let record ← fields? fields json
  return {
    id := ← required "id" string? record
    pattern := ← required "pattern" string? record
    repository := ← nullable "repository" RuleRepository.ofJson? record
    flags := ← Flags.mapM? fun flag => nullable flag.name bool? record
    reviewCount := ← nullable "requiredApprovingReviewCount" int32? record
    contexts := ← nullable "requiredStatusCheckContexts" strings? record
    requiresApprovingReviews := ← nullable "requiresApprovingReviews" bool? record
    requiresStatusChecks := ← nullable "requiresStatusChecks" bool? record
    restrictsPushes := ← nullable "restrictsPushes" bool? record
    restrictsReviewDismissals := ← nullable "restrictsReviewDismissals" bool? record
    allowances :=
      { bypassForcePush :=
          ← nullable AllowanceList.bypassForcePush.name Connection.ofJson? record
        bypassPullRequest :=
          ← nullable AllowanceList.bypassPullRequest.name Connection.ofJson? record
        push := ← nullable AllowanceList.push.name Connection.ofJson? record }
    dismissalAllowances := ← nullable "reviewDismissalAllowances" Connection.ofJson? record }

/-- Writes a rule. -/
def toJson (rule : Rule) : Json :=
  ofFields <|
    [("id", some (.string rule.id)),
     ("pattern", some (.string rule.pattern)),
     ("repository", rule.repository.map RuleRepository.toJson)] ++
    Flag.all.map (fun flag => (flag.name, some (orNull .bool (rule.flags.get flag)))) ++
    [("requiredApprovingReviewCount",
       some (orNull (fun count => .integer count.toInt) rule.reviewCount)),
     ("requiredStatusCheckContexts", some (orNull ofStrings rule.contexts)),
     ("requiresApprovingReviews", some (orNull .bool rule.requiresApprovingReviews)),
     ("requiresStatusChecks", some (orNull .bool rule.requiresStatusChecks)),
     ("restrictsPushes", some (orNull .bool rule.restrictsPushes)),
     ("restrictsReviewDismissals", some (orNull .bool rule.restrictsReviewDismissals))] ++
    AllowanceList.all.map
      (fun list => (list.name, (rule.allowances.get list).map Connection.toJson)) ++
    [("reviewDismissalAllowances", rule.dismissalAllowances.map Connection.toJson)]

end Rule

end BranchGuard
