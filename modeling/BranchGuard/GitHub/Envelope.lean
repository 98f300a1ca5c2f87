import BranchGuard.Event
import BranchGuard.Json.Record

/-!
# The envelope of an answer

GitHub answers a GraphQL request with an envelope that holds the data asked for, errors, or both.
Errors count for more than data: an answer with any error yields no data (`Envelope.contents`).  A
missing object counts for more than a rate limit, and a rate limit for more than any other error
(`Envelope.failure?`).
-/

namespace BranchGuard.GitHub

open Json

/-- An error in an envelope. -/
structure GraphQlError where
  message : String
  /-- GitHub's classification of the error. -/
  type : Option String
deriving DecidableEq, Repr

namespace GraphQlError

/-- Reads an error. -/
def ofJson? (json : Json) : Option GraphQlError := do
  let record ← fields? [⟨"message", false⟩, ⟨"type", true⟩] json
  return {
    message := ← required "message" string? record
    type := ← nullable "type" string? record }

/-- Writes an error. -/
def toJson (error : GraphQlError) : Json :=
  .object [("message", .string error.message), ("type", orNull .string error.type)]

end GraphQlError

/-- The body of an answer; `null` data are absent. -/
structure Envelope where
  data : Option Json
  errors : Option (List GraphQlError)
deriving Repr

namespace Envelope

/-- Reads an envelope. -/
def ofJson? (json : Json) : Option Envelope := do
  let record ← fields? [⟨"data", false⟩, ⟨"errors", true⟩] json
  return {
    data := ← nullable "data" some record
    errors := ← nullable "errors" (listOf? GraphQlError.ofJson?) record }

/-- What a list of errors comes down to, if there are any. -/
def failure? (errors : List GraphQlError) : Option RemoteError :=
  if errors.isEmpty then none
  else if errors.any fun error => error.type == some "NOT_FOUND" then some .notFound
  else if errors.any fun error => error.type == some "RATE_LIMITED" then some .rateLimited
  else some (.graphQl (errors.map GraphQlError.message))

/-- The data of an envelope. -/
def contents (envelope : Envelope) : Except RemoteError Json :=
  match failure? (envelope.errors.getD []) with
  | some failure => .error failure
  | none =>
    match envelope.data with
    | some data => .ok data
    | none => .error .invalidResponse

/-- What is noted when the data of an envelope are looked at. -/
def events (operation : RemoteOperation) (envelope : Envelope) : List Event :=
  if (failure? (envelope.errors.getD [])).isSome then [.answerHasErrors operation]
  else if envelope.data.isSome then [.payloadDecoding operation]
  else []

end Envelope

/-- The payload of an answer, read from the data in its envelope. -/
def payload {α : Type} (read : Json → Option α) (body : Json) : Except RemoteError α :=
  match Envelope.ofJson? body with
  | none => .error .undecodable
  | some envelope =>
    match envelope.contents with
    | .error failure => .error failure
    | .ok data =>
      match read data with
      | some value => .ok value
      | none => .error .undecodable

/-- What is noted when the payload of an answer is read. -/
def payloadEvents (operation : RemoteOperation) (body : Json) : List Event :=
  match Envelope.ofJson? body with
  | none => []
  | some envelope => envelope.events operation

end BranchGuard.GitHub
