/-!
# URIs

Whether a text can serve as the base URI of an API: a path, the name of a host, or a scheme
followed by the name of a host and a path.  Nothing is decoded, and a host without a scheme must be
all there is.
-/

namespace BranchGuard.Uri

/-- The greatest number of bytes of a URI. -/
def maxSize : Nat := 65534

/-- The greatest number of characters of a scheme. -/
def maxSchemeLength : Nat := 64

/-- The greatest number of colons before any of them is accounted for, as in an address of eight
groups and a port. -/
def maxColons : Nat := 8

/-- Whether the character may stand in a scheme. -/
def isSchemeChar (c : Char) : Bool :=
  c.isAlphanum || c ∈ ['+', '-', '.', '~']

/-- Whether the character may stand in an authority, percent signs apart. -/
def isAuthorityChar (c : Char) : Bool :=
  c.isAlphanum || c ∈ ['!', '$', '&', '\x27', '(', ')', '*', '+', ',', '-', '.', ':', ';', '=',
    '@', '[', ']', '_', '~']

/-- Whether the character ends an authority. -/
def endsAuthority (c : Char) : Bool :=
  c ∈ ['/', '?', '#']

/-- Whether the character may stand in a path; every character outside ASCII may. -/
def isPathChar (c : Char) : Bool :=
  !(c.toNat ≤ 0x20 || c ∈ ['#', '<', '>', '?', '\x60', '\x7f'])

/-- Whether the character may stand in a query; every character outside ASCII may. -/
def isQueryChar (c : Char) : Bool :=
  !(c.toNat ≤ 0x20 || c ∈ ['"', '#', '<', '>', '\x7f'])

/-- What an authority consists of so far.  Colons and percent signs in the part before an `@`, and
those between brackets, are not part of the name of a host and are forgotten. -/
structure Authority where
  colons : Nat := 0
  opened : Bool := false
  closed : Bool := false
  percent : Bool := false
  /-- Whether the last character was an `@`. -/
  atEnd : Bool := false
deriving DecidableEq, Repr

namespace Authority

/-- Takes one more character. -/
def extend? (authority : Authority) (c : Char) : Option Authority :=
  let authority := { authority with atEnd := c = '@' }
  match c with
  | ':' =>
    if authority.colons < maxColons then some { authority with colons := authority.colons + 1 }
    else none
  | '[' =>
    if authority.percent || authority.opened then none else some { authority with opened := true }
  | ']' =>
    if !authority.opened || authority.closed then none
    else some { authority with closed := true, colons := 0, percent := false }
  | '@' => some { authority with colons := 0, percent := false }
  | '%' => some { authority with percent := true }
  | _ => if isAuthorityChar c then some authority else none

/-- Whether the authority may end here. -/
def isComplete (authority : Authority) : Bool :=
  authority.opened == authority.closed && authority.colons ≤ 1 && !authority.atEnd &&
    !authority.percent

end Authority

/-- Whether the text is an authority, possibly an empty one. -/
def isAuthority (text : List Char) : Bool :=
  match text.foldlM Authority.extend? {} with
  | some authority => authority.isComplete
  | none => false

/-- Whether the text is a path, which a query may follow; a fragment is not looked at. -/
def isPath (text : List Char) : Bool :=
  match text.dropWhile isPathChar with
  | [] | '#' :: _ => true
  | '?' :: query =>
    match query.dropWhile isQueryChar with
    | [] | '#' :: _ => true
    | _ => false
  | _ => false

/-- The scheme of a text and what follows `://`, if there is a scheme. -/
def splitScheme? (text : List Char) : Option (List Char × List Char) :=
  match text.span isSchemeChar with
  | (scheme, ':' :: '/' :: '/' :: rest) => some (scheme, rest)
  | _ => none

/-- Whether the text, which does not start with a slash, is a URI. -/
def isHosted (text : List Char) : Bool :=
  match splitScheme? text with
  | none => isAuthority text
  | some (scheme, rest) =>
    let (authority, path) := rest.span fun c => !endsAuthority c
    decide (scheme.length ≤ maxSchemeLength) && !authority.isEmpty && isAuthority authority &&
      isPath path

/-- Whether the text is a URI. -/
def isUri (text : String) : Bool :=
  decide (text.utf8ByteSize ≤ maxSize) &&
    match text.toList with
    | [] => false
    | '/' :: rest => isPath ('/' :: rest)
    | chars => isHosted chars

end BranchGuard.Uri
