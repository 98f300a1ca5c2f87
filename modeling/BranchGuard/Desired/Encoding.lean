import BranchGuard.Desired.Basic
import BranchGuard.Json.Record

/-!
# The JSON form of a desired rule

The flags stand beside the other members.  A desired rule is an object and has no array form.
Members that may be absent are left out when they are; an unset flag is written as `null`.
-/

namespace BranchGuard

open Json

namespace Opinion

/-- Reads an opinion: a truth value, or `null` for none. -/
def ofJson? : Json → Option Opinion
  | .null => some .unset
  | .bool value => some (.ofOption (some value))
  | _ => none

/-- Writes an opinion. -/
def toJson (opinion : Opinion) : Json :=
  orNull .bool opinion.toOption

end Opinion

namespace Desired

/-- The members that a desired rule knows, flags apart. -/
def memberNames : List String :=
  ["pattern", "owner", "repository", "repositoryId"] ++ AllowanceList.all.map AllowanceList.name ++
    ["requiredApprovingReviewCount", "requiredStatusCheckContexts"]

/-- Reads the members of a desired rule. -/
def ofMembers? (record : List (String × Json)) : Option Desired := do
  return {
    pattern := ← required "pattern" string? record
    owner := ← required "owner" string? record
    repository := ← nullable "repository" string? record
    repositoryId := ← nullable "repositoryId" string? record
    allowances :=
      { bypassForcePush := ← defaulted AllowanceList.bypassForcePush.name [] strings? record
        bypassPullRequest := ← defaulted AllowanceList.bypassPullRequest.name [] strings? record
        push := ← defaulted AllowanceList.push.name [] strings? record }
    flags := ← Flags.mapM? fun flag => defaulted flag.name .unset Opinion.ofJson? record
    reviewCount := ← nullable "requiredApprovingReviewCount" uint8? record
    contexts := ← defaulted "requiredStatusCheckContexts" [] strings? record }

/--
Reads a desired rule.  Every member has to denote something, also one that is not known, because
the flags are looked for among all of them.
-/
def ofJson? (json : Json) : Option Desired := do
  guard (json.isSound maxDepth)
  match json with
  | .object members =>
    guard (!(memberNames ++ Flag.all.map Flag.name).any (isRepeated members))
    ofMembers? members
  | _ => none

/-- Writes a desired rule. -/
def toJson (desired : Desired) : Json :=
  Json.ofFields <|
    [("pattern", some (.string desired.pattern)),
     ("owner", some (.string desired.owner)),
     ("repository", desired.repository.map .string),
     ("repositoryId", desired.repositoryId.map .string)] ++
    AllowanceList.all.map
      (fun list => (list.name, some (ofStrings (desired.allowances.get list)))) ++
    Flag.all.map (fun flag => (flag.name, some (desired.flags.get flag).toJson)) ++
    [("requiredApprovingReviewCount",
       desired.reviewCount.map fun count => .integer count.toNat),
     ("requiredStatusCheckContexts", some (ofStrings desired.contexts))]

end Desired

namespace RuleIdentity

/-- Reads an identity. -/
def ofJson? (json : Json) : Option RuleIdentity := do
  let record ← fields? [⟨"repositoryId", false⟩, ⟨"ruleId", false⟩] json
  return {
    repositoryId := ← required "repositoryId" string? record
    ruleId := ← required "ruleId" string? record }

/-- Writes an identity. -/
def toJson (identity : RuleIdentity) : Json :=
  .object [("repositoryId", .string identity.repositoryId), ("ruleId", .string identity.ruleId)]

end RuleIdentity

end BranchGuard
