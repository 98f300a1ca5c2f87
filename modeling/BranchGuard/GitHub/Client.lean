import BranchGuard.GitHub.Delivery
import BranchGuard.GitHub.Envelope
import BranchGuard.GitHub.Payload
import BranchGuard.Mutation.Encoding
import BranchGuard.Remote

/-!
# GitHub over the network

`Client.answer` carries out each of the seven remote operations by posting GraphQL documents, one
request for each, except that looking up a pattern may take many: the rules of a repository come in
pages, and pages are asked for until one holds the pattern, no page follows, or the page limit of
the client is reached.  Nothing is posted twice.

`Client.conduct` turns a conversation with GitHub into an exchange of requests and deliveries.
-/

namespace BranchGuard.GitHub

open Json

/-- A program that posts requests and keeps a log. -/
abbrev Exchange (α : Type) : Type :=
  Dialogue (fun (_ : Post) => Delivery) Event α

/-- The settings of a client. -/
structure Client where
  /-- How many rules are asked for in one page. -/
  pageSize : UInt32 := 100
  /-- After how many pages a lookup stops, if it does. -/
  maxPages : Option UInt32 := none
deriving DecidableEq, Repr

/-- The greatest page size that GitHub accepts, and the default. -/
def maxPageSize : UInt32 := 100

namespace Client

/-- The client with another page size, brought into the range that GitHub accepts. -/
def withPageSize (client : Client) (pageSize : UInt32) : Client :=
  { client with
    pageSize :=
      if pageSize < 1 then 1 else if maxPageSize < pageSize then maxPageSize else pageSize }

/-- The client with another page limit. -/
def withMaxPages (client : Client) (maxPages : Option UInt32) : Client :=
  { client with maxPages := maxPages }

/-- Posts a document and reads the payload of the answer. -/
def post {α : Type} (operation : RemoteOperation) (document : Document) (arguments : Json)
    (read : Json → Option α) : Exchange (Except RemoteError α) := do
  Dialogue.say (.requestSent operation)
  let delivery ← Dialogue.query (⟨document, arguments⟩ : Post)
  match delivery.read with
  | .error failure =>
    Dialogue.say (Delivery.failureEvent operation failure)
    return .error failure
  | .ok body =>
    Dialogue.sayAll (payloadEvents operation body)
    return payload read body

/-- The values of the variables for a page. -/
def pageArguments (client : Client) (owner repository : String) (cursor : Option String) : Json :=
  .object
    [("owner", .string owner), ("name", .string repository),
     ("pageSize", .integer client.pageSize.toNat), ("cursor", orNull .string cursor)]

/-- Whether the limit stops a lookup after the page with this number. -/
def stopsAfter (client : Client) (page : UInt32) : Bool :=
  match client.maxPages with
  | some limit => limit ≤ page
  | none => false

/-- Where the next page starts, if it is to be asked for. -/
def nextCursor? (client : Client) (page : Page) (number : UInt32) : Option String :=
  if page.hasNextPage && !client.stopsAfter number then page.endCursor else none

/-- The end of a lookup that found no rule. -/
def concludeScan (client : Client) (page : Page) (number : UInt32) :
    Exchange (Except RemoteError Lookup) := do
  if client.stopsAfter number && page.hasNextPage then
    Dialogue.say (.scanCutShort number)
  Dialogue.say .patternNotFound
  return .ok ⟨page.repositoryId, none⟩

/--
Looks for a pattern from the page that starts at `cursor` and has this number.  The pages are
counted in 32 bits, and a lookup asks for no more than `budget` of them.

Running out of the budget stands for the overflow of this counter.  It takes `scanBudget` pages, that
is `2^32`, of which none has the pattern and each announces another one.  What comes of a lookup
there is left out, and the transport failure that ends it fills the place.
-/
def scan (client : Client) (owner repository pattern : String) :
    (budget : Nat) → (cursor : Option String) → (number : UInt32) →
    Exchange (Except RemoteError Lookup)
  | 0, _, _ => return .error .transport
  | budget + 1, cursor, number => do
    match ← post .findRule .rulesPage (client.pageArguments owner repository cursor)
        Page.ofJson? with
    | .error failure => return .error failure
    | .ok none =>
      Dialogue.say .repositoryNotFound
      return .error .notFound
    | .ok (some page) =>
      Dialogue.say (.pageScanned number)
      match page.find? pattern with
      | some rule =>
        Dialogue.say (.patternFound number)
        return .ok ⟨page.repositoryId, some rule.id⟩
      | none =>
        match client.nextCursor? page number with
        | some cursor => scan client owner repository pattern budget (some cursor) (number + 1)
        | none => client.concludeScan page number

/-- The number of pages that can be told apart in 32 bits. -/
def scanBudget : Nat := UInt32.size

/-- Looks up the rule with a pattern. -/
def findRule (client : Client) (owner repository pattern : String) :
    Exchange (Except RemoteError Lookup) :=
  client.scan owner repository pattern scanBudget none 1

/-- Makes something of an object that may not be there. -/
def orNotFound {α : Type} (found absent : List Event) :
    Except RemoteError (Option α) → Exchange (Except RemoteError α)
  | .error failure => return .error failure
  | .ok (some value) => do
    Dialogue.sayAll found
    return .ok value
  | .ok none => do
    Dialogue.sayAll absent
    return .error .notFound

/-- Fetches the rule with an ID. -/
def fetchRule (ruleId : String) : Exchange (Except RemoteError Rule) := do
  orNotFound [] [.nodeNotFound]
    (← post .fetchRule .rule (.object [("id", .string ruleId)]) fetchedRule?)

/-- Looks up the node ID of a team. -/
def resolveTeam (organization slug : String) : Exchange (Except RemoteError String) := do
  let arguments := .object [("organization", .string organization), ("slug", .string slug)]
  orNotFound [.teamResolved] [] (← post .resolveTeam .teamId arguments GitHub.teamId?)

/-- Looks up the node ID of a user. -/
def resolveUser (login : String) : Exchange (Except RemoteError String) := do
  orNotFound [.userResolved] []
    (← post .resolveUser .userId (.object [("login", .string login)]) GitHub.userId?)

/-- The values of the variables of a mutation. -/
def inputArguments (input : Json) : Json :=
  .object [("input", input)]

/-- Creates a rule.  Without the ID of the new rule nothing confirms that there is one. -/
def createRule (creation : Creation) : Exchange (Except RemoteError String) := do
  match ← post .createRule .createRule (inputArguments creation.toJson)
      (mutatedRule? "createBranchProtectionRule") with
  | .error failure => return .error failure
  | .ok none =>
    Dialogue.say .creationUnconfirmed
    return .error .invalidResponse
  | .ok (some ruleId) =>
    Dialogue.say .ruleCreated
    return .ok ruleId

/-- Updates a rule.  Without the ID of the rule nothing confirms that it was updated. -/
def updateRule (update : Update) : Exchange (Except RemoteError Unit) := do
  match ← post .updateRule .updateRule (inputArguments update.toJson)
      (mutatedRule? "updateBranchProtectionRule") with
  | .error failure => return .error failure
  | .ok none =>
    Dialogue.say .updateUnconfirmed
    return .error .invalidResponse
  | .ok (some _) =>
    Dialogue.say .ruleUpdated
    return .ok ()

/-- Deletes a rule.  Any data in the answer confirm it. -/
def deleteRule (ruleId : String) : Exchange (Except RemoteError Unit) := do
  let input := .object [("branchProtectionRuleId", .string ruleId)]
  match ← post .deleteRule .deleteRule (inputArguments input) some with
  | .error failure => return .error failure
  | .ok _ =>
    Dialogue.say .ruleDeleted
    return .ok ()

/-- Carries out a call of a remote operation. -/
def answer (client : Client) : (request : Request) → Exchange request.Reply
  | .findRule owner repository pattern => client.findRule owner repository pattern
  | .fetchRule ruleId => fetchRule ruleId
  | .resolveTeam organization slug => resolveTeam organization slug
  | .resolveUser login => resolveUser login
  | .createRule creation => createRule creation
  | .updateRule update => updateRule update
  | .deleteRule ruleId => deleteRule ruleId

/-- Carries out a conversation. -/
def conduct {α : Type} (client : Client) (conversation : Conversation α) : Exchange α :=
  Dialogue.expand client.answer conversation

end Client

end BranchGuard.GitHub
