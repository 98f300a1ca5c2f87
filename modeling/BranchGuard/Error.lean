/-!
# What can go wrong

* `RemoteError`: a remote operation failed.
* `EngineError`: the desired rule cannot be acted on, an actor cannot be resolved, or a remote
  operation failed.  Its `kind` is what a caller branches on.
* `VerbError`: an engine error together with the verb it ended.
* `ConfigError`: the configuration cannot be loaded.

Each type has one function `message` that puts a failure into words.
-/

namespace BranchGuard

/-- Why a remote operation failed. -/
inductive RemoteError where
  /-- GitHub turned the request down with this message. -/
  | refused (message : String)
  /-- No usable answer came back over the network. -/
  | transport
  /-- GitHub did not accept the credentials, or no client could be built. -/
  | authentication (message : String)
  /-- The answer does not have the shape that was asked for. -/
  | undecodable
  /-- The answer lists errors that are neither a missing object nor a rate limit. -/
  | graphQl (messages : List String)
  /-- The answer carries neither data nor errors, or confirms nothing. -/
  | invalidResponse
  | notFound
  | rateLimited
deriving DecidableEq, Repr

/-- The failure in words. -/
def RemoteError.message : RemoteError → String
  | .refused message => "API request failed: " ++ message
  | .transport => "API request failed: no usable answer was received"
  | .authentication message =>
    "Failed to authenticate or initialize GitHub client: " ++ message
  | .undecodable => "Failed to deserialize GitHub response: unexpected shape"
  | .graphQl messages => "GitHub GraphQL API returned errors: " ++ "; ".intercalate messages
  | .invalidResponse => "Invalid response format"
  | .notFound => "Resource not found"
  | .rateLimited => "Rate limit exceeded"

/-- The category of an engine failure. -/
inductive ErrorKind where
  /-- A reference is malformed, or names an actor that cannot be resolved. -/
  | classification
  /-- A reference is well formed, but GitHub does not know the actor. -/
  | resolution
  /-- The desired rule is not complete or not valid enough to act on. -/
  | precondition
  /-- GitHub or the way to it failed. -/
  | remote
deriving DecidableEq, Repr

/-- All categories, from the caller's mistakes to the remote side's. -/
def ErrorKind.all : List ErrorKind :=
  [.classification, .resolution, .precondition, .remote]

/-- The category in one word. -/
def ErrorKind.text : ErrorKind → String
  | .classification => "classification"
  | .resolution => "resolution"
  | .precondition => "precondition"
  | .remote => "remote"

/-- Why the engine cannot go on. -/
inductive EngineError where
  | invalidReference (reference reason : String)
  | unsupportedActor (reference : String)
  | actorNotFound (reference : String)
  | missingField (field : String)
  | invalidField (field reason : String)
  | remote (cause : RemoteError)
deriving DecidableEq, Repr

namespace EngineError

/-- The category of the failure. -/
def kind : EngineError → ErrorKind
  | .invalidReference _ _ | .unsupportedActor _ => .classification
  | .actorNotFound _ => .resolution
  | .missingField _ | .invalidField _ _ => .precondition
  | .remote _ => .remote

/-- The failure in words. -/
def message : EngineError → String
  | .invalidReference reference reason =>
    "Invalid actor reference '" ++ reference ++ "': " ++ reason
  | .unsupportedActor reference =>
    "Actor reference '" ++ reference ++ "' names an actor type that cannot be resolved"
  | .actorNotFound reference => "Actor '" ++ reference ++ "' was not found"
  | .missingField field => "Required field missing: " ++ field
  | .invalidField field reason => "Invalid value for " ++ field ++ ": " ++ reason
  | .remote cause => "GitHub request failed: " ++ cause.message

end EngineError

/-- What a scheduler can ask of a managed resource. -/
inductive Verb where
  | observe
  | create
  | update
  | delete
deriving DecidableEq, Repr

/-- All verbs. -/
def Verb.all : List Verb :=
  [.observe, .create, .update, .delete]

/-- What is reported when the verb fails. -/
def Verb.failure : Verb → String
  | .observe => "cannot observe branch protection rule"
  | .create => "cannot create branch protection rule"
  | .update => "cannot update branch protection rule"
  | .delete => "cannot delete branch protection rule"

/-- A verb that failed, and why. -/
structure VerbError where
  verb : Verb
  cause : EngineError
deriving DecidableEq, Repr

/-- The failure in words: the verb first, then the cause. -/
def VerbError.message (failure : VerbError) : String :=
  failure.verb.failure ++ ": " ++ failure.cause.message

/-- Why a configuration cannot be loaded. -/
inductive ConfigError where
  /-- The file cannot be read. -/
  | fileAccess (path reason : String)
  /-- The text is not TOML, or does not hold the expected settings. -/
  | unreadable
  /-- A setting is out of its range. -/
  | invalid (field reason : String)
deriving DecidableEq, Repr

/-- The failure in words. -/
def ConfigError.message : ConfigError → String
  | .fileAccess path reason => "Failed to access configuration file: " ++ path ++ " - " ++ reason
  | .unreadable => "Failed to parse configuration: not the expected settings in TOML"
  | .invalid field reason => "Invalid configuration: " ++ field ++ " - " ++ reason

end BranchGuard
