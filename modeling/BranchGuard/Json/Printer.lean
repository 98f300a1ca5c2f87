import BranchGuard.Json.Basic

/-!
# Writing JSON text

Values are written on one line without blanks.  Control characters and the line separators U+0085,
U+2028 and U+2029 are escaped, so that a written value never holds a line break; every other
character stands as it is.
-/

namespace BranchGuard.Json

/-- The hexadecimal digits of a code unit, four of them. -/
def unitDigits (unit : Nat) : List Char :=
  [unit / 4096 % 16, unit / 256 % 16, unit / 16 % 16, unit % 16].map Nat.digitChar

/-- Whether the character is written by its code. -/
def isEscapedByCode (c : Char) : Bool :=
  c.toNat < 0x20 || c.toNat = 0x7F || c.toNat = 0x85 || c.toNat = 0x2028 || c.toNat = 0x2029

/-- The written form of a character inside a string. -/
def writeChar (c : Char) : List Char :=
  if c = '"' then ['\\', '"']
  else if c = '\\' then ['\\', '\\']
  else if isEscapedByCode c then '\\' :: 'u' :: unitDigits c.toNat
  else [c]

/-- The written form of a string. -/
def writeString (text : String) : String :=
  "\"" ++ String.ofList (text.toList.flatMap writeChar) ++ "\""

mutual

/-- The written form of a value; one that denotes nothing is written as `null`. -/
def write : Json → String
  | .null => "null"
  | .bool value => if value then "true" else "false"
  | .integer value => toString value
  | .double value => value.text
  | .string value => writeString value
  | .array items => "[" ++ writeItems items ++ "]"
  | .object members => "\x7b" ++ writeMembers members ++ "\x7d"
  | .void => "null"

/-- The items of an array, with commas between them. -/
def writeItems : List Json → String
  | [] => ""
  | [item] => write item
  | item :: rest => write item ++ "," ++ writeItems rest

/-- The members of an object, with commas between them. -/
def writeMembers : List (String × Json) → String
  | [] => ""
  | [(name, value)] => writeString name ++ ":" ++ write value
  | (name, value) :: rest => writeString name ++ ":" ++ write value ++ "," ++ writeMembers rest

end

end BranchGuard.Json
