import BranchGuard.Json.Numeral

/-!
# Reading JSON text

The reader takes one character after another and holds two things: what it is in the middle of
(`Scan`: a word, a numeral, a string) and which containers are open (`Progress`).  Reading a text
is a fold of `Reader.advance` over its characters, so it ends on every text and needs no bound on
the nesting of containers.

* `Json.parse?` takes a whole text that denotes one value;
* `Json.parseLeading?` takes the value a text begins with, whatever follows it;
* `Json.parseLoose?` takes a whole text and lets `Json.void` stand in it.
-/

namespace BranchGuard.Json

/-- A lexical unit of JSON text. -/
inductive Token where
  | openArray
  | closeArray
  | openObject
  | closeObject
  | comma
  | colon
  /-- A string, absent when its escapes name half of a surrogate pair. -/
  | text (value : Option String)
  /-- A number or one of the three words. -/
  | scalar (value : Json)

/-- A container that is not closed yet; what it holds so far stands in reverse order. -/
inductive Open where
  | array (items : List Json)
  /-- `sound` turns off when a name denotes no text. -/
  | object (members : List (String × Json)) (sound : Bool)
  /-- An object that waits for the value of the member `name`. -/
  | member (name : String) (members : List (String × Json)) (sound : Bool)

/-- What may come next inside the innermost open container. -/
inductive Expect where
  | value
  | valueOrClose
  | name
  | nameOrClose
  | colon
  | commaOrClose
deriving DecidableEq

/-- How much of the value has been read. -/
inductive Progress where
  | building (containers : List Open) (expect : Expect)
  | complete (value : Json)

namespace Progress

/-- Puts a finished value where the innermost container wants it. -/
def place (value : Json) : List Open → Option Progress
  | [] => some (.complete value)
  | .array items :: outer => some (.building (.array (value :: items) :: outer) .commaOrClose)
  | .member name members sound :: outer =>
    some (.building (.object ((name, value) :: members) sound :: outer) .commaOrClose)
  | .object _ _ :: _ => none

/-- Closes the innermost container with the closing token of its kind. -/
def close (token : Token) : List Open → Option Progress
  | .array items :: outer =>
    match token with
    | .closeArray => place (.array items.reverse) outer
    | _ => none
  | .object members sound :: outer =>
    match token with
    | .closeObject => place (if sound then .object members.reverse else .void) outer
    | _ => none
  | _ => none

/-- Starts or places a value. -/
def takeValue (containers : List Open) : Token → Option Progress
  | .openArray => some (.building (.array [] :: containers) .valueOrClose)
  | .openObject => some (.building (.object [] true :: containers) .nameOrClose)
  | .text value => place ((value.map .string).getD .void) containers
  | .scalar value => place value containers
  | _ => none

/-- Takes the name of a member. -/
def takeName : List Open → Token → Option Progress
  | .object members sound :: outer, .text name =>
    some (.building (.member (name.getD "") members (sound && name.isSome) :: outer) .colon)
  | _, _ => none

/-- Takes the comma after an item or a member. -/
def takeComma : List Open → Option Progress
  | .array items :: outer => some (.building (.array items :: outer) .value)
  | .object members sound :: outer => some (.building (.object members sound :: outer) .name)
  | _ => none

/-- Takes one token, or nothing if the token cannot stand here. -/
def feed (progress : Progress) (token : Token) : Option Progress :=
  match progress with
  | .complete _ => none
  | .building containers expect =>
    match expect with
    | .value => takeValue containers token
    | .valueOrClose => (close token containers).orElse fun _ => takeValue containers token
    | .name => takeName containers token
    | .nameOrClose => (close token containers).orElse fun _ => takeName containers token
    | .colon =>
      match token with
      | .colon => some (.building containers .value)
      | _ => none
    | .commaOrClose =>
      match token with
      | .comma => takeComma containers
      | _ => close token containers

/-- Whether a whole value has been read. -/
def isComplete : Progress → Bool
  | .complete _ => true
  | .building _ _ => false

end Progress

/-- A string in the middle of being read. -/
structure StringBody where
  /-- The characters so far, last one first. -/
  characters : List Char := []
  /-- Off when an escape named half of a surrogate pair. -/
  sound : Bool := true
  /-- The leading half of a surrogate pair that waits for the other half. -/
  leading : Option Nat := none

namespace StringBody

/-- Adds a character; a waiting half of a surrogate pair is then left alone. -/
def push (body : StringBody) (c : Char) : StringBody :=
  { characters := c :: body.characters, sound := body.sound && body.leading.isNone }

/-- Adds a code unit that was written as four hexadecimal digits. -/
def pushUnit (body : StringBody) (unit : Nat) : StringBody :=
  if 0xD800 ≤ unit ∧ unit < 0xDC00 then
    { body with sound := body.sound && body.leading.isNone, leading := some unit }
  else if 0xDC00 ≤ unit ∧ unit < 0xE000 then
    match body.leading with
    | some leading =>
      { body with
        characters :=
          Char.ofNat (0x10000 + (leading - 0xD800) * 0x400 + (unit - 0xDC00)) :: body.characters
        leading := none }
    | none => { body with sound := false }
  else body.push (Char.ofNat unit)

/-- The text of a finished string, absent if a half of a surrogate pair stands alone. -/
def text? (body : StringBody) : Option String :=
  if body.sound && body.leading.isNone then some (String.ofList body.characters.reverse) else none

end StringBody

/-- What the reader is in the middle of. -/
inductive Scan where
  | between
  /-- A word of which `rest` is still to come. -/
  | word (rest : List Char) (value : Json)
  | number (numeral : Numeral)
  | string (body : StringBody)
  /-- Just after a backslash. -/
  | escape (body : StringBody)
  /-- A code unit of which `count` hexadecimal digits are still to come. -/
  | unit (body : StringBody) (count : Nat) (value : Nat)

/-- The character that a backslash before `c` stands for. -/
def escaped? (c : Char) : Option Char :=
  match c with
  | '"' => some '"'
  | '\\' => some '\\'
  | '/' => some '/'
  | 'b' => some '\x08'
  | 'f' => some '\x0c'
  | 'n' => some '\n'
  | 'r' => some '\r'
  | 't' => some '\t'
  | _ => none

/-- The token that a character is on its own. -/
def punctuation? (c : Char) : Option Token :=
  match c with
  | '[' => some .openArray
  | ']' => some .closeArray
  | '\x7b' => some .openObject
  | '\x7d' => some .closeObject
  | ',' => some .comma
  | ':' => some .colon
  | _ => none

/-- Whether the character may stand between tokens. -/
def isSpace (c : Char) : Bool :=
  c = ' ' || c = '\n' || c = '\r' || c = '\t'

/-- The state of reading a text. -/
structure Reader where
  scan : Scan
  progress : Progress

namespace Reader

/-- The reader before the first character. -/
def start : Reader :=
  ⟨.between, .building [] .value⟩

/-- Hands a finished token on and goes on between tokens. -/
def emit (reader : Reader) (token : Token) : Option Reader :=
  (reader.progress.feed token).map fun progress => ⟨.between, progress⟩

/-- Takes a character that stands between tokens. -/
def begin (reader : Reader) (c : Char) : Option Reader :=
  if isSpace c then some { reader with scan := .between }
  else match punctuation? c with
  | some token => reader.emit token
  | none =>
    match c with
    | '"' => some { reader with scan := .string {} }
    | 't' => some { reader with scan := .word ['r', 'u', 'e'] (.bool true) }
    | 'f' => some { reader with scan := .word ['a', 'l', 's', 'e'] (.bool false) }
    | 'n' => some { reader with scan := .word ['u', 'l', 'l'] .null }
    | _ => (Numeral.start? c).map fun numeral => { reader with scan := .number numeral }

/-- Takes a character inside a string. -/
def inString (reader : Reader) (body : StringBody) (c : Char) : Option Reader :=
  if c = '"' then reader.emit (.text body.text?)
  else if c = '\\' then some { reader with scan := .escape body }
  else if c.toNat < 0x20 then none
  else some { reader with scan := .string (body.push c) }

/-- Takes the character after a backslash. -/
def inEscape (reader : Reader) (body : StringBody) (c : Char) : Option Reader :=
  if c = 'u' then some { reader with scan := .unit body 4 0 }
  else (escaped? c).map fun character => { reader with scan := .string (body.push character) }

/-- Takes a hexadecimal digit of a code unit. -/
def inUnit (reader : Reader) (body : StringBody) (count value : Nat) (c : Char) :
    Option Reader :=
  (Text.digitIn? 16 c).map fun digit =>
    let value := value * 16 + digit
    if count ≤ 1 then { reader with scan := .string (body.pushUnit value) }
    else { reader with scan := .unit body (count - 1) value }

/--
Takes one character.  With `leading` set nothing is looked at once a whole value has been read;
otherwise only blanks may follow it.
-/
def advance (leading : Bool) (reader : Reader) (c : Char) : Option Reader :=
  if leading && reader.progress.isComplete then some reader
  else match reader.scan with
  | .between => reader.begin c
  | .word rest value =>
    match rest with
    | [] => none
    | [last] => if c = last then reader.emit (.scalar value) else none
    | next :: rest => if c = next then some { reader with scan := .word rest value } else none
  | .number numeral =>
    match numeral.extend? c with
    | some numeral => some { reader with scan := .number numeral }
    | none => do
      let ended ← reader.emit (.scalar (← numeral.value?))
      if leading && ended.progress.isComplete then some ended else ended.begin c
  | .string body => reader.inString body c
  | .escape body => reader.inEscape body c
  | .unit body count value => reader.inUnit body count value c

/-- The value read, once the text is at its end. -/
def finish (reader : Reader) : Option Json := do
  let ended ←
    match reader.scan with
    | .between => some reader
    | .number numeral => reader.emit (.scalar (← numeral.value?))
    | _ => none
  match ended.progress with
  | .complete value => some value
  | .building _ _ => none

end Reader

/-- Folds the reader over a text. -/
def readText (leading : Bool) (text : String) : Option Json := do
  (← text.toList.foldlM (Reader.advance leading) Reader.start).finish

/-- Keeps a value that denotes something throughout and does not nest too deep. -/
def sound? (value : Json) : Option Json :=
  if value.isSound maxDepth then some value else none

/-- The value that the whole text denotes. -/
def parse? (text : String) : Option Json :=
  (readText false text).bind sound?

/-- The value that the text begins with; what follows it is not looked at. -/
def parseLeading? (text : String) : Option Json :=
  (readText true text).bind sound?

/-- The value of a whole well-formed text, parts that denote nothing included. -/
def parseLoose? (text : String) : Option Json :=
  readText false text

end BranchGuard.Json
