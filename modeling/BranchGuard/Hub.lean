import BranchGuard.Remote

/-!
# GitHub in memory

A `Hub` is a GitHub with one repository, its rules, and the users and teams it knows.  It answers
the seven remote operations (`Hub.respond`) and applies mutations to its rules as GitHub does, so
that what was created is found when it is looked up.  Any operation can be made to fail, at once or
after a number of calls; a call that is made to fail changes no rule.
-/

namespace BranchGuard

/-- A breakdown of an operation: it works for some more calls and then fails with the same error
until the breakdown is lifted. -/
structure Outage where
  callsLeft : Nat
  cause : RemoteError
deriving DecidableEq, Repr

/-- A GitHub with one repository, which belongs to a test organization unless said otherwise. -/
structure Hub where
  owner : String := "test-org"
  repository : String := "test-repo"
  repositoryId : String := "R_test"
  rules : List Rule := []
  /-- Users by login, with their node IDs. -/
  users : List (String × String) := []
  /-- Teams by organization and slug, with their node IDs. -/
  teams : List ((String × String) × String) := []
  /-- The number of the next rule that is created.  It has no bound: the counter of 32 bits that it
  stands for overflows with the creation number `2^32`, and what comes of that is left out. -/
  nextNumber : Nat := 1
  outages : List (RemoteOperation × Outage) := []
deriving DecidableEq, Repr

namespace Hub

/-- Adds a value under a key, in place of an earlier one. -/
def insertBy {κ α : Type} [BEq κ] (key : κ) (value : α) (table : List (κ × α)) :
    List (κ × α) :=
  (key, value) :: table.filter fun entry => entry.1 != key

/-- Makes a user known. -/
def addUser (hub : Hub) (login nodeId : String) : Hub :=
  { hub with users := insertBy login nodeId hub.users }

/-- Makes a team known. -/
def addTeam (hub : Hub) (organization slug nodeId : String) : Hub :=
  { hub with teams := insertBy (organization, slug) nodeId hub.teams }

/-- Breaks an operation down after some more calls, in place of an earlier breakdown. -/
def breakDown (hub : Hub) (operation : RemoteOperation) (outage : Outage) : Hub :=
  { hub with outages := insertBy operation outage hub.outages }

/-- Lifts the breakdown of an operation. -/
def recover (hub : Hub) (operation : RemoteOperation) : Hub :=
  { hub with outages := hub.outages.filter fun entry => entry.1 != operation }

/-- The ID of the rule with a number. -/
def ruleId (number : Nat) : String :=
  "BPR_" ++ toString number

/-- A rule as it is reported when nothing has been set yet: every flag off, every list empty. -/
def blankRule (id pattern repositoryId : String) : Rule where
  id := id
  pattern := pattern
  repository := some ⟨repositoryId, "test-repo"⟩
  flags := .replicate (some false)
  reviewCount := some 0
  contexts := some []
  requiresApprovingReviews := some false
  requiresStatusChecks := some false
  restrictsPushes := some false
  restrictsReviewDismissals := some false
  allowances := .replicate (some .empty)
  dismissalAllowances := some .empty

/-- The actor with a node ID: a user, else a team, else one of an unsupported kind. -/
def actorOf (hub : Hub) (nodeId : String) : ReportedActor :=
  match hub.users.find? fun user => user.2 == nodeId with
  | some (login, _) => .known (.user login)
  | none =>
    match hub.teams.find? fun team => team.2 == nodeId with
    | some ((_, slug), _) => .known (.team slug)
    | none => .unsupported

/-- The rule with settings applied; what is absent from the settings stays as it is. -/
def applySettings (hub : Hub) (settings : Settings) (rule : Rule) : Rule :=
  { rule with
    flags := .ofFn fun flag => (settings.flags.get flag).or (rule.flags.get flag)
    reviewCount := settings.reviewCount.or rule.reviewCount
    contexts := settings.contexts.or rule.contexts
    requiresApprovingReviews := settings.requiresApprovingReviews.or rule.requiresApprovingReviews
    requiresStatusChecks := settings.requiresStatusChecks.or rule.requiresStatusChecks
    restrictsPushes := settings.restrictsPushes.or rule.restrictsPushes
    allowances := .ofFn fun list =>
      match settings.actorIds.get list with
      | some nodeIds => some (.ofActors (nodeIds.map hub.actorOf))
      | none => rule.allowances.get list }

/-- Changes the first rule with an ID, if there is one. -/
def changeFirst? (id : String) (change : Rule → Rule) : List Rule → Option (List Rule)
  | [] => none
  | rule :: rest =>
    if rule.id = id then some (change rule :: rest)
    else (changeFirst? id change rest).map (rule :: ·)

/-- Looks up a rule of the repository by its pattern. -/
def findRule (hub : Hub) (owner repository pattern : String) : Except RemoteError Lookup :=
  if owner = hub.owner ∧ repository = hub.repository then
    .ok ⟨hub.repositoryId, (hub.rules.find? fun rule => rule.pattern == pattern).map (·.id)⟩
  else .error .notFound

/-- A value that has to be there. -/
def orNotFound {α : Type} : Option α → Except RemoteError α
  | some value => .ok value
  | none => .error .notFound

/-- Creates a rule. -/
def createRule (hub : Hub) (creation : Creation) : String × Hub :=
  let id := ruleId hub.nextNumber
  let rule := hub.applySettings creation.settings
    (blankRule id creation.pattern creation.repositoryId)
  (id, { hub with rules := hub.rules ++ [rule], nextNumber := hub.nextNumber + 1 })

/-- Updates a rule. -/
def updateRule (hub : Hub) (update : Update) : Except RemoteError Unit × Hub :=
  match changeFirst? update.ruleId
      (fun rule => hub.applySettings update.settings { rule with pattern := update.pattern })
      hub.rules with
  | some rules => (.ok (), { hub with rules := rules })
  | none => (.error .notFound, hub)

/-- Deletes the rules with an ID. -/
def deleteRule (hub : Hub) (id : String) : Except RemoteError Unit × Hub :=
  if hub.rules.any fun rule => rule.id == id then
    (.ok (), { hub with rules := hub.rules.filter fun rule => rule.id != id })
  else (.error .notFound, hub)

/-- Answers a call of an operation that works. -/
def perform (hub : Hub) : (request : Request) → request.Reply × Hub
  | .findRule owner repository pattern => (hub.findRule owner repository pattern, hub)
  | .fetchRule id => (orNotFound (hub.rules.find? fun rule => rule.id == id), hub)
  | .resolveTeam organization slug => (orNotFound (hub.teams.lookup (organization, slug)), hub)
  | .resolveUser login => (orNotFound (hub.users.lookup login), hub)
  | .createRule creation =>
    let (id, hub) := hub.createRule creation
    (.ok id, hub)
  | .updateRule update => hub.updateRule update
  | .deleteRule id => hub.deleteRule id

/-- Answers a call: an operation that has broken down fails. -/
def respond (request : Request) (hub : Hub) : request.Reply × Hub :=
  match hub.outages.lookup request.operation with
  | none => hub.perform request
  | some ⟨0, cause⟩ => (.error cause, hub)
  | some ⟨callsLeft + 1, cause⟩ =>
    (hub.breakDown request.operation ⟨callsLeft, cause⟩).perform request

end Hub

end BranchGuard
