import BranchGuard.Folder
import BranchGuard.GitHub.Client
import BranchGuard.Toml.Parser
import BranchGuard.Uri

/-!
# Configuration

The engine is configured by a TOML document with one table `github`, all settings of which may be
left out.  Settings are read first and checked for their ranges afterwards (`Config.validate`), and
a client is built from settings that passed (`Config.client`).
-/

namespace BranchGuard

open Json

/-- The settings of the connection to GitHub. -/
structure Config where
  /-- The root of the API, absent for the public one. -/
  baseUri : Option String := none
  /-- How many rules are asked for in one page. -/
  pageSize : UInt32 := GitHub.maxPageSize
  /-- After how many pages a lookup stops, if it does. -/
  maxPages : Option UInt32 := none
deriving DecidableEq, Repr

namespace Config

/-- The settings in the order of their array form. -/
def fields : List Field :=
  [⟨"api_base_uri", true⟩, ⟨"rules_page_size", true⟩, ⟨"max_rule_pages", true⟩]

/-- Reads the table of settings. -/
def ofSettings? (json : Json) : Option Config := do
  let record ← fields? fields json
  return {
    baseUri := ← nullable "api_base_uri" string? record
    pageSize := ← defaulted "rules_page_size" GitHub.maxPageSize uint32? record
    maxPages := ← nullable "max_rule_pages" uint32? record }

/-- Reads a configuration. -/
def ofJson? (json : Json) : Option Config := do
  defaulted "github" {} ofSettings? (← fields? [⟨"github", true⟩] json)

/-- Writes a configuration; absent settings are left out. -/
def toJson (config : Config) : Json :=
  .object [("github", ofFields
    [("api_base_uri", config.baseUri.map .string),
     ("rules_page_size", some (.integer config.pageSize.toNat)),
     ("max_rule_pages", config.maxPages.map fun pages => .integer pages.toNat)])]

/-- The table of settings of a document, of which a list counts only as far as there are
settings. -/
def cutSettings : String × Json → String × Json
  | ("github", .array items) => ("github", .array (items.take fields.length))
  | member => member

/-- Reads the configuration in a document that nests no deeper than `depth`.  Whatever else the
document holds has to denote something. -/
def ofDocument? (depth : Nat) : Json → Option Config
  | .object members =>
    let document := Json.object (members.map cutSettings)
    if document.isSound depth then ofJson? document else none
  | _ => none

/-- The check of the page size. -/
def checkPageSize (pageSize : UInt32) : Except ConfigError Unit :=
  if 1 ≤ pageSize ∧ pageSize ≤ GitHub.maxPageSize then .ok ()
  else .error (.invalid "github.rules_page_size"
    ("must be between 1 and " ++ toString GitHub.maxPageSize.toNat ++ ", got " ++
      toString pageSize.toNat))

/-- The check of the page limit. -/
def checkMaxPages (maxPages : Option UInt32) : Except ConfigError Unit :=
  if maxPages = some 0 then .error (.invalid "github.max_rule_pages" "must be at least 1")
  else .ok ()

/-- The check of the base URI, which only has to be there. -/
def checkBaseUri (baseUri : Option String) : Except ConfigError Unit :=
  if baseUri.any Text.isBlank then .error (.invalid "github.api_base_uri" "must not be empty")
  else .ok ()

/-- Whether every setting is in its range.  The first that is not is reported. -/
def validate (config : Config) : Except ConfigError Unit := do
  checkPageSize config.pageSize
  checkMaxPages config.maxPages
  checkBaseUri config.baseUri

/-- The configuration, if every setting is in its range. -/
def validated (config : Config) : Except ConfigError Config :=
  config.validate.map fun () => config

/-- Reads the configuration in a TOML document, which nests at most one level more than it has
characters. -/
def parse (text : String) : Except ConfigError Config :=
  match (Toml.parse? text).bind (ofDocument? (text.length + 1)) with
  | none => .error .unreadable
  | some config => config.validated

/-- Reads the configuration in a file. -/
def load (folder : Folder) (path : String) : Except ConfigError Config :=
  match folder.read path with
  | .error fault => .error (.fileAccess path fault.reason)
  | .ok text => parse text

/-- What is noted when the configuration in a file is read. -/
def loadEvents (folder : Folder) (path : String) : List Event :=
  .configLoading path ::
    match load folder path with
    | .ok _ => [.configLoaded]
    | .error _ => []

/-- The base URI, if it is one, or the public API. -/
def checkedUri (config : Config) : Except RemoteError Unit :=
  match config.baseUri with
  | none => .ok ()
  | some uri =>
    if Uri.isUri uri then .ok ()
    else .error (.authentication ("Invalid base URI \x27" ++ uri ++ "\x27: UriParse"))

/-- The client with these settings. -/
def client (config : Config) : Except RemoteError GitHub.Client :=
  config.checkedUri.map fun () =>
    (({} : GitHub.Client).withPageSize config.pageSize).withMaxPages config.maxPages

/-- What is noted when a client is built. -/
def clientEvents (config : Config) : List Event :=
  match config.checkedUri with
  | .ok () => []
  | .error _ => [.baseUriRefused]

end Config

end BranchGuard
