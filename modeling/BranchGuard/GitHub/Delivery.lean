import BranchGuard.Event
import BranchGuard.GitHub.Document
import BranchGuard.Json.Parser
import BranchGuard.Json.Record

/-!
# Requests and answers on the wire

A `Post` is what is sent, a `Delivery` what comes back: a response with a status and a body, or
nothing at all.  `Delivery.read` turns it into the JSON body or the failure it amounts to.

* A response with a status from 200 to 299 holds a JSON value, of which the last member with a name
  counts; what follows the value is not looked at.
* Any other response holds a report of GitHub, whose message may say more than the status.
* A response that holds neither is a failure of the transport, whatever its status.
-/

namespace BranchGuard.GitHub

open Json

/-- A GraphQL request. -/
structure Post where
  document : Document
  /-- The values of the variables of the document. -/
  arguments : Json

/-- The method that every request uses. -/
def Post.method : String := "POST"

/-- The path that every request goes to. -/
def Post.path : String := "/graphql"

/-- The body of a request with a document. -/
def requestBody (query : String) (arguments : Json) : Json :=
  .object [("query", .string query), ("variables", arguments)]

/-- The body of the request. -/
def Post.body (post : Post) : Json :=
  requestBody post.document.render post.arguments

/-- What comes back for a request. -/
inductive Delivery where
  | response (status : Nat) (body : String)
  /-- The connection broke. -/
  | broken
deriving DecidableEq, Repr

namespace Delivery

/-- Whether the status means success. -/
def isSuccess (status : Nat) : Bool :=
  200 ≤ status && status ≤ 299

/-- Reads the message of GitHub's report on a request that it turned down. -/
def reportMessage? (body : String) : Option String := do
  let record ← fields? [⟨"documentation_url", false⟩, ⟨"errors", false⟩, ⟨"message", false⟩]
    (← parseLoose? body)
  let _ ← nullable "documentation_url" string? record
  let errors ← nullable "errors" (listOf? some) record
  guard ((errors.getD []).all (isSound (maxDepth - 2)))
  required "message" string? record

/-- Whether the characters of `part` stand together somewhere in the text. -/
def holds (part : List Char) : List Char → Bool
  | [] => part.isEmpty
  | c :: rest => part.isPrefixOf (c :: rest) || holds part rest

/-- Whether the message speaks of a rate limit, in any case of its letters. -/
def mentionsRateLimit (message : String) : Bool :=
  holds "rate limit".toList (message.toList.map Char.toLower)

/-- What GitHub's report on a request amounts to. -/
def reportedFailure (status : Nat) (message : String) : RemoteError :=
  if status = 404 then .notFound
  else if status = 429 || mentionsRateLimit message then .rateLimited
  else if status = 401 then .authentication message
  else .refused message

/-- The JSON body of a delivery, or the failure it amounts to. -/
def read : Delivery → Except RemoteError Json
  | .response status body =>
    if isSuccess status then
      match parseLeading? body with
      | some value => .ok value.lastWins
      | none => .error .transport
    else
      match reportMessage? body with
      | some message => .error (reportedFailure status message)
      | none => .error .transport
  | .broken => .error .transport

/-- What is noted about a delivery that fails. -/
def failureEvent (operation : RemoteOperation) : RemoteError → Event
  | .transport => .requestBroken operation
  | _ => .requestRefused operation

end Delivery

end BranchGuard.GitHub
