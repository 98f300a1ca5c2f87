import BranchGuard.Dialogue
import BranchGuard.Event
import BranchGuard.Mutation.Basic
import BranchGuard.Rule.Basic

/-!
# The remote side

Everything that the engine needs from GitHub are seven operations.  A `Request` is a call of one of
them, and its `Reply` is the result or a `RemoteError`.  The verbs of the engine are dialogues over
requests (`Conversation`), so they can be run against GitHub over the network, against the one in
memory, or against any other responder.
-/

namespace BranchGuard

/-- What looking up a pattern finds: the repository, and the rule if there is one. -/
structure Lookup where
  repositoryId : String
  ruleId : Option String
deriving DecidableEq, Repr

/-- A call of a remote operation. -/
inductive Request where
  /-- Looks up the rule with a pattern; a repository that is not there is not found. -/
  | findRule (owner repository pattern : String)
  | fetchRule (ruleId : String)
  /-- Looks up the node ID of a team. -/
  | resolveTeam (organization slug : String)
  /-- Looks up the node ID of a user. -/
  | resolveUser (login : String)
  | createRule (creation : Creation)
  | updateRule (update : Update)
  | deleteRule (ruleId : String)
deriving DecidableEq, Repr

namespace Request

/-- The operation that is called. -/
def operation : Request → RemoteOperation
  | .findRule _ _ _ => .findRule
  | .fetchRule _ => .fetchRule
  | .resolveTeam _ _ => .resolveTeam
  | .resolveUser _ => .resolveUser
  | .createRule _ => .createRule
  | .updateRule _ => .updateRule
  | .deleteRule _ => .deleteRule

/-- What a successful call results in; a creation results in the ID of the new rule. -/
abbrev Result : Request → Type
  | .findRule _ _ _ => Lookup
  | .fetchRule _ => Rule
  | .resolveTeam _ _ => String
  | .resolveUser _ => String
  | .createRule _ => String
  | .updateRule _ => Unit
  | .deleteRule _ => Unit

/-- The answer to a call. -/
abbrev Reply (request : Request) : Type :=
  Except RemoteError request.Result

/-- Whether the call changes a rule. -/
def isMutation : Request → Bool
  | .createRule _ | .updateRule _ | .deleteRule _ => true
  | _ => false

end Request

/-- A program that calls remote operations and keeps a log. -/
abbrev Conversation (α : Type) : Type :=
  Dialogue Request.Reply Event α

/-- Makes a call and goes on with its answer. -/
def Request.send (request : Request) : Conversation request.Reply :=
  Dialogue.query request

end BranchGuard
