import BranchGuard.Json.Record
import BranchGuard.Mutation.Basic

/-!
# The JSON form of a mutation

The settings stand beside the other members, and those that are absent are left out.
-/

namespace BranchGuard

open Json

namespace Settings

/-- The members of the settings. -/
def members (settings : Settings) : List (String × Option Json) :=
  Flag.all.map (fun flag => (flag.name, (settings.flags.get flag).map .bool)) ++
    AllowanceList.all.map
      (fun list => (list.inputName, (settings.actorIds.get list).map ofStrings)) ++
    [("requiredApprovingReviewCount",
       settings.reviewCount.map fun count => .integer count.toInt),
     ("requiredStatusCheckContexts", settings.contexts.map ofStrings),
     ("requiresApprovingReviews", settings.requiresApprovingReviews.map .bool),
     ("requiresStatusChecks", settings.requiresStatusChecks.map .bool),
     ("restrictsPushes", settings.restrictsPushes.map .bool)]

/-- Writes settings. -/
def toJson (settings : Settings) : Json :=
  ofFields settings.members

end Settings

/-- Writes a creation. -/
def Creation.toJson (creation : Creation) : Json :=
  ofFields <|
    [("repositoryId", some (.string creation.repositoryId)),
     ("pattern", some (.string creation.pattern))] ++ creation.settings.members

/-- Writes an update. -/
def Update.toJson (update : Update) : Json :=
  ofFields <|
    [("branchProtectionRuleId", some (.string update.ruleId)),
     ("pattern", some (.string update.pattern))] ++ update.settings.members

end BranchGuard
