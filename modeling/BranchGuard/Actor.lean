import BranchGuard.Text.Blank
import BranchGuard.Text.Segments

/-!
# Actors and their references

An allowance list of a rule names the users, teams and apps that are exempt from it.  GitHub
reports an actor by one name and its kind (`Actor`).  A caller writes a reference instead:

* `/{login}` for a user,
* `/{organization}/{team}` for a team of an organization,
* `/app/{app}` for an app.

`ActorReference.parse` reads a reference and `ActorReference.text` writes it.  GitHub does not
report the organization of a team, so a reported team is taken to belong to the owner of the
repository (`ActorReference.ofActor`); a team of another organization can be granted an allowance,
but is never recognised when it is reported back.
-/

namespace BranchGuard

/-- An actor as an allowance list reports it. -/
inductive Actor where
  | team (slug : String)
  | user (login : String)
  | app (slug : String)
deriving DecidableEq, Repr

/-- An actor as a caller refers to it. -/
inductive ActorReference where
  | user (login : String)
  | team (organization slug : String)
  | app (slug : String)
deriving DecidableEq, Repr

/-- Why a text is not a reference. -/
inductive ReferenceFault where
  /-- The text does not start with a slash. -/
  | unrooted
  /-- A segment between two slashes is blank. -/
  | emptySegment
  /-- There are more than two segments. -/
  | tooManySegments
deriving DecidableEq, Repr

/-- The fault in words. -/
def ReferenceFault.reason : ReferenceFault → String
  | .unrooted => "must start with '/'"
  | .emptySegment => "contains an empty segment"
  | .tooManySegments =>
    "expected '/\x7buser\x7d', '/\x7borg\x7d/\x7bteam-slug\x7d' or '/app/\x7bapp-slug\x7d'"

namespace ActorReference

/-- The segment that marks a reference to an app. -/
def appSegment : String := "app"

/-- The reference with these segments. -/
def ofSegments : List String → Except ReferenceFault ActorReference
  | [login] => .ok (.user login)
  | [organization, slug] =>
    if organization = appSegment then .ok (.app slug) else .ok (.team organization slug)
  | _ => .error .tooManySegments

/--
Reads a reference.  Segments are taken as they stand, surrounding blanks included; only a segment
of nothing but blanks is refused.
-/
def parse (text : String) : Except ReferenceFault ActorReference :=
  match text.toList with
  | '/' :: path =>
    let parts := (Text.segments '/' path).map String.ofList
    if parts.any Text.isBlank then .error .emptySegment else ofSegments parts
  | _ => .error .unrooted

/-- The written form of a reference. -/
def text : ActorReference → String
  | .user login => "/" ++ login
  | .team organization slug => "/" ++ organization ++ "/" ++ slug
  | .app slug => "/" ++ appSegment ++ "/" ++ slug

/-- Whether the reference names an app. -/
def isApp : ActorReference → Bool
  | .app _ => true
  | _ => false

/-- The reference to a reported actor; a team is placed in the organization `owner`. -/
def ofActor (owner : String) : Actor → ActorReference
  | .team slug => .team owner slug
  | .user login => .user login
  | .app slug => .app slug

end ActorReference

/-- The references to the reported actors of a list, in their order. -/
def normalizeActors (owner : String) (actors : List Actor) : List String :=
  actors.map fun actor => (ActorReference.ofActor owner actor).text

/-- Whether a list of references names an app; a text that is no reference names nothing. -/
def namesApp (references : List String) : Bool :=
  references.any fun reference =>
    match ActorReference.parse reference with
    | .ok actor => actor.isApp
    | .error _ => false

end BranchGuard
