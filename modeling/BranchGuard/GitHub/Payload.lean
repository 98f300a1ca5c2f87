import BranchGuard.Rule.Encoding

/-!
# Payloads

What the documents of the remote operations ask for, as it stands in the data of an answer.  An
object that GitHub does not know is `null`, which the readers keep apart from a payload of the
wrong shape.
-/

namespace BranchGuard.GitHub

open Json

/-- Reads a record with one field that may be `null`. -/
def single? {α : Type} (name : String) (read : Json → Option α) (json : Json) :
    Option (Option α) := do
  nullable name read (← fields? [⟨name, false⟩] json)

/-- Reads the ID of a node. -/
def nodeId? (json : Json) : Option String := do
  required "id" string? (← fields? [⟨"id", false⟩] json)

/-- A rule in a page: its ID and its pattern. -/
structure RuleSummary where
  id : String
  pattern : String
deriving DecidableEq, Repr

/-- Reads a rule in a page. -/
def RuleSummary.ofJson? (json : Json) : Option RuleSummary := do
  let record ← fields? [⟨"id", false⟩, ⟨"pattern", false⟩] json
  return { id := ← required "id" string? record, pattern := ← required "pattern" string? record }

/-- Reads a value that may be `null`. -/
def orAbsent? {α : Type} (read : Json → Option α) : Json → Option (Option α)
  | .null => some none
  | value => (read value).map some

/-- A page of the rules of a repository. -/
structure Page where
  repositoryId : String
  hasNextPage : Bool
  /-- Where the next page starts. -/
  endCursor : Option String
  rules : List (Option RuleSummary)
deriving DecidableEq, Repr

namespace Page

/-- Reads the page of a repository. -/
def ofRepository? (json : Json) : Option Page := do
  let repository ← fields? [⟨"id", false⟩, ⟨"branchProtectionRules", false⟩] json
  let repositoryId ← required "id" string? repository
  let connection ← required "branchProtectionRules"
    (fields? [⟨"pageInfo", false⟩, ⟨"nodes", true⟩]) repository
  let info ← required "pageInfo"
    (fields? [⟨"hasNextPage", false⟩, ⟨"endCursor", false⟩]) connection
  return {
    repositoryId := repositoryId
    hasNextPage := ← required "hasNextPage" bool? info
    endCursor := ← nullable "endCursor" string? info
    rules := ← defaulted "nodes" [] (listOf? (orAbsent? RuleSummary.ofJson?)) connection }

/-- Reads a page; there is none if the repository is not known. -/
def ofJson? : Json → Option (Option Page) :=
  single? "repository" ofRepository?

/-- The first rule of the page with a pattern. -/
def find? (page : Page) (pattern : String) : Option RuleSummary :=
  (page.rules.filterMap id).find? fun rule => rule.pattern == pattern

end Page

/-- Reads a fetched rule; there is none if no node has the ID. -/
def fetchedRule? : Json → Option (Option Rule) :=
  single? "node" Rule.ofJson?

/-- Reads the node ID of a team; there is none if the organization or the team is not known. -/
def teamId? (json : Json) : Option (Option String) :=
  (single? "organization" (single? "team" nodeId?) json).map Option.join

/-- Reads the node ID of a user; there is none if the user is not known. -/
def userId? : Json → Option (Option String) :=
  single? "user" nodeId?

/-- Reads the node ID of the rule that a mutation reports; there is none if it reports none. -/
def mutatedRule? (mutation : String) (json : Json) : Option (Option String) :=
  (single? mutation (single? "branchProtectionRule" nodeId?) json).map Option.join

end BranchGuard.GitHub
