import BranchGuard.Double

/-!
# JSON values

A `Json` value keeps what the readers of this library can tell apart: an integer from a number
written with a fraction or an exponent, and the members of an object in their written order with
repeated names.  A reader that wants one value per name first applies `Json.lastWins`.

Text can be well formed and still denote nothing: a string whose escapes name half of a surrogate
pair, or a number beyond the range of a double.  Such a value is `Json.void`.  It may stand where
nobody looks at it, in a member that a record does not know, and is refused anywhere else.
-/

namespace BranchGuard

/-- A JSON value. -/
inductive Json where
  | null
  | bool (value : Bool)
  /-- A number without fraction and exponent that fits 64 bits, signed or unsigned. -/
  | integer (value : Int)
  /-- Any other number. -/
  | double (value : Double)
  | string (value : String)
  | array (items : List Json)
  /-- The members in their written order, repeated names included. -/
  | object (members : List (String × Json))
  /-- A well-formed text that denotes no value. -/
  | void
deriving Repr

namespace Json

instance : Inhabited Json := ⟨.null⟩

/-- Whether 64 bits hold the integer, with or without a sign. -/
def fitsWord (value : Int) : Bool :=
  decide (Int64.minValue.toInt ≤ value) && decide (value < UInt64.size)

/-- The result of an operation on doubles as a JSON value; without a result it denotes nothing. -/
def ofDouble : Option Double → Json
  | some value => .double value
  | none => .void

mutual

/-- Whether the value denotes something throughout and nests at most `depth` containers deep. -/
def isSound (depth : Nat) : Json → Bool
  | .void => false
  | .array items =>
    match depth with
    | 0 => false
    | depth + 1 => allSound depth items
  | .object members =>
    match depth with
    | 0 => false
    | depth + 1 => membersSound depth members
  | _ => true

/-- `isSound` for the items of an array. -/
def allSound (depth : Nat) : List Json → Bool
  | [] => true
  | item :: rest => isSound depth item && allSound depth rest

/-- `isSound` for the members of an object. -/
def membersSound (depth : Nat) : List (String × Json) → Bool
  | [] => true
  | (_, value) :: rest => isSound depth value && membersSound depth rest

end

/-- The greatest number of containers that may stand inside one another. -/
def maxDepth : Nat := 127

/-- Keeps, of members with the same name, only the last one. -/
def keepLast : List (String × Json) → List (String × Json)
  | [] => []
  | (name, value) :: rest =>
    if rest.any (·.1 == name) then keepLast rest else (name, value) :: keepLast rest

mutual

/-- The value with at most one member for each name: of several, the last one stays. -/
def lastWins : Json → Json
  | .array items => .array (lastWinsItems items)
  | .object members => .object (keepLast (lastWinsMembers members))
  | other => other

/-- `lastWins` for the items of an array. -/
def lastWinsItems : List Json → List Json
  | [] => []
  | item :: rest => lastWins item :: lastWinsItems rest

/-- `lastWins` for the values of an object's members. -/
def lastWinsMembers : List (String × Json) → List (String × Json)
  | [] => []
  | (name, value) :: rest => (name, lastWins value) :: lastWinsMembers rest

end

/-- The value of the first member called `name`, if the value is an object that has one. -/
def member? (name : String) : Json → Option Json
  | .object members => members.lookup name
  | _ => none

end Json

end BranchGuard
