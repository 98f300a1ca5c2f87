import BranchGuard.Json.Basic

/-!
# Records in JSON

A record with named fields has two JSON forms: an object, read by name, and an array, read by
position in the order in which the fields are declared.

* In an object a member that the record does not know is passed over, and a known name that is
  repeated is refused.
* In an array every field has its place; an item beyond the last field is refused, and so is an
  array that ends early, unless each of the fields it leaves out is `optional`.

Both forms are turned into the same list of named values (`fields?`), from which the readers below
take one field each.  A record is written as an object of the fields that are present.
-/

namespace BranchGuard.Json

/-- A field of a record: its name, and whether the array form may stop before it. -/
structure Field where
  name : String
  optional : Bool := false
deriving DecidableEq, Repr

/-- Reads the array form: names the items by position. -/
def nameItems? : List Field → List Json → Option (List (String × Json))
  | [], [] => some []
  | [], _ :: _ => none
  | field :: fields, [] => if field.optional then nameItems? fields [] else none
  | field :: fields, item :: items => ((field.name, item) :: ·) <$> nameItems? fields items

/-- Whether the name stands more than once among the members. -/
def isRepeated (members : List (String × Json)) (name : String) : Bool :=
  1 < members.countP (·.1 == name)

/-- The named values of a record in either form, with no known name twice. -/
def fields? (fields : List Field) : Json → Option (List (String × Json))
  | .object members =>
    if fields.any fun field => isRepeated members field.name then none else some members
  | .array items => nameItems? fields items
  | _ => none

variable {α : Type}

/-- The value of a field that has to be there. -/
def required (name : String) (read : Json → Option α) (fields : List (String × Json)) :
    Option α :=
  (fields.lookup name).bind read

/-- The value of a field that may be `null` or left out. -/
def nullable (name : String) (read : Json → Option α) (fields : List (String × Json)) :
    Option (Option α) :=
  match fields.lookup name with
  | none | some .null => some none
  | some value => (read value).map some

/-- The value of a field that stands for `default` when it is left out. -/
def defaulted (name : String) (default : α) (read : Json → Option α)
    (fields : List (String × Json)) : Option α :=
  match fields.lookup name with
  | none => some default
  | some value => read value

/-- An object of those fields that have a value. -/
def ofFields (fields : List (String × Option Json)) : Json :=
  .object (fields.filterMap fun field => field.2.map (field.1, ·))

/-! ### Values of fields -/

/-- Reads a string. -/
def string? : Json → Option String
  | .string value => some value
  | _ => none

/-- Reads a truth value. -/
def bool? : Json → Option Bool
  | .bool value => some value
  | _ => none

/-- Reads an integer from `low` to `high`. -/
def integerBetween? (low high : Int) : Json → Option Int
  | .integer value => if low ≤ value ∧ value ≤ high then some value else none
  | _ => none

/-- Reads an integer of eight bits without sign. -/
def uint8? (json : Json) : Option UInt8 :=
  (json.integerBetween? 0 (UInt8.size - 1)).map fun value => UInt8.ofNat value.toNat

/-- Reads an integer of 32 bits without sign. -/
def uint32? (json : Json) : Option UInt32 :=
  (json.integerBetween? 0 (UInt32.size - 1)).map fun value => UInt32.ofNat value.toNat

/-- Reads an integer of 32 bits with sign. -/
def int32? (json : Json) : Option Int32 :=
  (json.integerBetween? Int32.minValue.toInt Int32.maxValue.toInt).map Int32.ofInt

/-- Reads a list, item by item. -/
def listOf? (read : Json → Option α) : Json → Option (List α)
  | .array items => items.mapM read
  | _ => none

/-- Reads a list of strings. -/
def strings? : Json → Option (List String) :=
  listOf? string?

/-- Writes a list of strings. -/
def ofStrings (texts : List String) : Json :=
  .array (texts.map .string)

/-- Writes a value that may be absent, as `null` when it is. -/
def orNull (write : α → Json) : Option α → Json
  | none => .null
  | some value => write value

end BranchGuard.Json
