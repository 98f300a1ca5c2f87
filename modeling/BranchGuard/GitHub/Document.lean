/-!
# GraphQL documents

The documents that the remote operations post, as trees of selections.  `Document.render` writes
one on a single line.
-/

namespace BranchGuard.GitHub

/-- A part of a selection set. -/
inductive Selection where
  /-- A field with its arguments, and what is selected of its value. -/
  | field (name : String) (arguments : List (String × String)) (selections : List Selection)
  /-- What is selected of a value of one type. -/
  | onType (type : String) (selections : List Selection)
deriving Repr

namespace Selection

/-- A field without arguments of which nothing further is selected. -/
def leaf (name : String) : Selection :=
  .field name [] []

/-- A field without arguments. -/
def under (name : String) (selections : List Selection) : Selection :=
  .field name [] selections

end Selection

/-- Names with something said about each, between parentheses; nothing if there are none. -/
def renderPairs : List (String × String) → String
  | [] => ""
  | pairs => "(" ++ ", ".intercalate (pairs.map fun pair => pair.1 ++ ": " ++ pair.2) ++ ")"

mutual

/-- The written form of a selection. -/
def Selection.render : Selection → String
  | .field name arguments selections =>
    name ++ renderPairs arguments ++ renderNested selections
  | .onType type selections => "... on " ++ type ++ renderNested selections

/-- The written form of what is selected of a value, which is nothing for a leaf. -/
def renderNested : List Selection → String
  | [] => ""
  | selection :: rest => " \x7b " ++ selection.render ++ renderRest rest ++ " \x7d"

/-- The written form of the selections after the first. -/
def renderRest : List Selection → String
  | [] => ""
  | selection :: rest => " " ++ selection.render ++ renderRest rest

end

/-- What a document asks for. -/
inductive DocumentKind where
  | query
  | mutation
deriving DecidableEq, Repr

/-- The keyword of the kind. -/
def DocumentKind.keyword : DocumentKind → String
  | .query => "query"
  | .mutation => "mutation"

/-- A GraphQL document with one operation. -/
structure Document where
  kind : DocumentKind
  name : String
  /-- The names of the variables, each with its type. -/
  parameters : List (String × String)
  selections : List Selection
deriving Repr

namespace Document

/-- What the document is called: its keyword and its name. -/
def heading (document : Document) : String :=
  document.kind.keyword ++ " " ++ document.name

/-- The written form of the document. -/
def render (document : Document) : String :=
  document.heading ++ renderPairs document.parameters ++ renderNested document.selections

/-- One page of the rules of a repository. -/
def rulesPage : Document where
  kind := .query
  name := "FindBranchProtectionRules"
  parameters :=
    [("$owner", "String!"), ("$name", "String!"), ("$pageSize", "Int!"), ("$cursor", "String")]
  selections :=
    [.field "repository" [("owner", "$owner"), ("name", "$name")]
      [.leaf "id",
       .field "branchProtectionRules" [("first", "$pageSize"), ("after", "$cursor")]
        [.under "pageInfo" [.leaf "hasNextPage", .leaf "endCursor"],
         .under "nodes" [.leaf "id", .leaf "pattern"]]]]

/-- An allowance list of a rule, with what identifies an actor of each kind. -/
def allowances (name : String) : Selection :=
  .field name [("first", "100")]
    [.under "nodes"
      [.under "actor"
        [.leaf "__typename",
         .onType "App" [.leaf "slug"],
         .onType "Team" [.leaf "slug"],
         .onType "User" [.leaf "login"]]]]

/-- The rule with an ID, with everything that the engine looks at. -/
def rule : Document where
  kind := .query
  name := "FetchBranchProtectionRule"
  parameters := [("$id", "ID!")]
  selections :=
    [.field "node" [("id", "$id")]
      [.onType "BranchProtectionRule" <|
        [.leaf "id", .leaf "pattern", .under "repository" [.leaf "id", .leaf "name"]] ++
        ["allowsDeletions", "allowsForcePushes", "dismissesStaleReviews", "isAdminEnforced",
         "requiredApprovingReviewCount", "requiredStatusCheckContexts",
         "requiresApprovingReviews", "requiresCodeOwnerReviews", "requiresCommitSignatures",
         "requiresConversationResolution", "requiresLinearHistory", "requiresStatusChecks",
         "requiresStrictStatusChecks", "restrictsPushes",
         "restrictsReviewDismissals"].map .leaf ++
        ["pushAllowances", "bypassPullRequestAllowances", "bypassForcePushAllowances",
         "reviewDismissalAllowances"].map allowances]]

/-- The node ID of a team. -/
def teamId : Document where
  kind := .query
  name := "ResolveTeamId"
  parameters := [("$organization", "String!"), ("$slug", "String!")]
  selections :=
    [.field "organization" [("login", "$organization")]
      [.field "team" [("slug", "$slug")] [.leaf "id"]]]

/-- The node ID of a user. -/
def userId : Document where
  kind := .query
  name := "ResolveUserId"
  parameters := [("$login", "String!")]
  selections := [.field "user" [("login", "$login")] [.leaf "id"]]

/-- A mutation with one input, of which `selections` are reported back. -/
def mutation (name inputType field : String) (selections : List Selection) : Document where
  kind := .mutation
  name := name
  parameters := [("$input", inputType)]
  selections := [.field field [("input", "$input")] selections]

/-- The creation of a rule, which reports the ID of the rule. -/
def createRule : Document :=
  mutation "CreateBranchProtectionRule" "CreateBranchProtectionRuleInput!"
    "createBranchProtectionRule" [.under "branchProtectionRule" [.leaf "id"]]

/-- The update of a rule, which reports the ID of the rule. -/
def updateRule : Document :=
  mutation "UpdateBranchProtectionRule" "UpdateBranchProtectionRuleInput!"
    "updateBranchProtectionRule" [.under "branchProtectionRule" [.leaf "id"]]

/-- The deletion of a rule. -/
def deleteRule : Document :=
  mutation "DeleteBranchProtectionRule" "DeleteBranchProtectionRuleInput!"
    "deleteBranchProtectionRule" [.leaf "clientMutationId"]

end Document

end BranchGuard.GitHub
