import BranchGuard.Toml.Scalar
import BranchGuard.Toml.Table
import BranchGuard.Toml.Token

/-!
# Reading TOML

The reader takes one token after another.  Besides the tables built so far it knows where in a
statement it is (`Place`), and inside a value which lists and inline tables are open (`Open`).
Reading a document is a fold of `Reader.feed` over its tokens; `Toml.parse?` makes of the whole
document the JSON value with the same content.
-/

namespace BranchGuard.Toml

/-- A list or an inline table that is not closed yet, or the statement around them. -/
inductive Open where
  /-- The statement that gives a value to the key with these parts, last one first. -/
  | statement (keys : List String)
  /-- A list; its items stand in reverse order. -/
  | array (items : List Json)
  | inline (table : Table)
  /-- An inline table that waits for the value of the key with these parts, last one first. -/
  | member (keys : List String) (table : Table)

/-- What may come next inside a value. -/
inductive Expect where
  | value
  /-- An item, or the end of the list. -/
  | item
  /-- A comma, or the end of the list or table. -/
  | comma
  /-- A key, or the end of the table. -/
  | key
  /-- The next part of a dotted key. -/
  | part (keys : List String)
  /-- The rest of a dotted key after one of its parts. -/
  | separator (keys : List String)
  | equals (keys : List String)
  /-- The rest of a value without quotation marks. -/
  | scalar (text : List Char)
  /-- The time that may follow a date and one blank. -/
  | time (date : List Char)

/-- How far a statement has come.  Keys stand with their last part first. -/
inductive Place where
  /-- Before a statement. -/
  | line
  /-- After the first bracket of a header. -/
  | bracket
  /-- Inside a header, where a part of the key comes next. -/
  | headerPart (double : Bool) (keys : List String)
  /-- Inside a header, after a part of the key. -/
  | headerRest (double : Bool) (keys : List String)
  /-- After the first of the two brackets that close a header. -/
  | headerClose (keys : List String)
  /-- After a dot in the key of a statement. -/
  | keyPart (keys : List String)
  /-- After a part of the key of a statement. -/
  | keyRest (keys : List String)
  | value (containers : List Open) (expect : Expect)
  /-- After a statement. -/
  | lineEnd

/-- The state of reading a document. -/
structure Reader where
  root : Table := []
  /-- The key of the last header. -/
  header : List String := []
  place : Place := .line

/-- How many lists and inline tables may stand inside one another, and how many parts a key may
have. -/
def depthLimit : Nat := 80

/-- Whether the character may stand in a key without quotation marks. -/
def isBareKeyChar (c : Char) : Bool :=
  c.isAlphanum || c = '_' || c = '-'

/-- The part of a key that a token is. -/
def keyPart? : Token → Option String
  | .word text => if text.all isBareKeyChar then some (String.ofList text) else none
  | .quoted text false => some text
  | _ => none

/-- The path and the last part of a key whose parts stand last one first. -/
def splitKey? : List String → Option (List String × String)
  | [] => none
  | key :: path => if path.length < depthLimit then some (path.reverse, key) else none

namespace Reader

/-- The reader at another place. -/
def goto (reader : Reader) (place : Place) : Reader :=
  { reader with place := place }

/-- The reader inside a value. -/
def expect (reader : Reader) (containers : List Open) (expect : Expect) : Reader :=
  reader.goto (.value containers expect)

/-- Takes a header. -/
def takeHeader? (reader : Reader) (double : Bool) (keys : List String) : Option Reader := do
  let (path, key) ← splitKey? keys
  let root ← if double then reader.root.extend path key else reader.root.define path key
  return { root, header := path ++ [key], place := .lineEnd }

/-- Puts a finished value where the innermost container wants it. -/
def place? (reader : Reader) (value : Json) : List Open → Option Reader
  | [.statement keys] => do
    let (path, key) ← splitKey? keys
    let root ← reader.root.assignUnder reader.header path key value
    return { reader with root, place := .lineEnd }
  | .array items :: outer => some (reader.expect (.array (value :: items) :: outer) .comma)
  | .member keys table :: outer => do
    let (path, key) ← splitKey? keys
    return reader.expect (.inline (← table.assign path key value) :: outer) .comma
  | _ => none

/-- Opens a list or an inline table inside the containers. -/
def open? (reader : Reader) (containers : List Open) (inner : Open) (expect : Expect) :
    Option Reader :=
  if containers.length ≤ depthLimit then some (reader.expect (inner :: containers) expect)
  else none

/-- Closes the innermost container with a mark. -/
def close? (reader : Reader) (mark : Char) : List Open → Option Reader
  | .array items :: outer =>
    if mark = ']' then reader.place? (.array items.reverse) outer else none
  | .inline table :: outer =>
    if mark = '\x7d' then reader.place? table.toJson outer else none
  | _ => none

/-- Starts a value. -/
def takeValue? (reader : Reader) (containers : List Open) : Token → Option Reader
  | .mark '[' => reader.open? containers (.array []) .item
  | .mark '\x7b' => reader.open? containers (.inline []) .key
  | .quoted text _ => reader.place? (.string text) containers
  | .word text => some (reader.expect containers (.scalar text))
  | _ => none

/-- Goes on after a value, where a comma or the end of the container may come. -/
def takeComma? (reader : Reader) (containers : List Open) : Token → Option Reader
  | .mark ',' =>
    match containers with
    | .array _ :: _ => some (reader.expect containers .item)
    | .inline _ :: _ => some (reader.expect containers .key)
    | _ => none
  | .mark mark => reader.close? mark containers
  | _ => none

/-- Takes a part of a key in an inline table. -/
def takeKey? (reader : Reader) (containers : List Open) (keys : List String) (token : Token) :
    Option Reader :=
  (keyPart? token).map fun part => reader.expect containers (.separator (part :: keys))

/-- Takes the equals sign after a key in an inline table. -/
def takeEquals? (reader : Reader) (containers : List Open) (keys : List String)
    (token : Token) : Option Reader :=
  match token, containers with
  | .mark '=', .inline table :: outer => some (reader.expect (.member keys table :: outer) .value)
  | _, _ => none

/-- Whether the innermost container is the statement, whose value may not start on another line. -/
def isStatement : List Open → Bool
  | [.statement _] => true
  | _ => false

/-- Takes a token inside a list, an inline table or the statement around them. -/
def takeInner? (reader : Reader) (containers : List Open) (expect : Expect) (token : Token) :
    Option Reader :=
  match expect, token with
  | _, .blank _ => some (reader.expect containers expect)
  | .value, .newline =>
    if isStatement containers then none else some (reader.expect containers .value)
  | .value, _ => reader.takeValue? containers token
  | .item, .newline | .comma, .newline | .key, .newline | .equals _, .newline =>
    some (reader.expect containers expect)
  | .item, .mark ']' => reader.close? ']' containers
  | .item, _ => reader.takeValue? containers token
  | .comma, _ => reader.takeComma? containers token
  | .key, .mark '\x7d' => reader.close? '\x7d' containers
  | .key, _ => reader.takeKey? containers [] token
  | .part keys, _ => reader.takeKey? containers keys token
  | .separator keys, .mark '.' => some (reader.expect containers (.part keys))
  | .separator keys, .newline => some (reader.expect containers (.equals keys))
  | .separator keys, _ | .equals keys, _ => reader.takeEquals? containers keys token
  | _, _ => none

/-- Takes a token outside a value. -/
def takeOuter? (reader : Reader) (token : Token) : Option Reader :=
  match reader.place, token with
  | .bracket, .mark '[' => some (reader.goto (.headerPart true []))
  | .headerClose keys, .mark ']' => reader.takeHeader? true keys
  | .headerClose _, _ => none
  | .bracket, .blank _ => some (reader.goto (.headerPart false []))
  | _, .blank _ => some reader
  | .line, .newline | .lineEnd, .newline => some (reader.goto .line)
  | .line, .mark '[' => some (reader.goto .bracket)
  | .line, _ => (keyPart? token).map fun part => reader.goto (.keyRest [part])
  | .bracket, _ => (keyPart? token).map fun part => reader.goto (.headerRest false [part])
  | .headerPart double keys, _ =>
    (keyPart? token).map fun part => reader.goto (.headerRest double (part :: keys))
  | .headerRest double keys, .mark '.' => some (reader.goto (.headerPart double keys))
  | .headerRest true keys, .mark ']' => some (reader.goto (.headerClose keys))
  | .headerRest false keys, .mark ']' => reader.takeHeader? false keys
  | .keyPart keys, _ => (keyPart? token).map fun part => reader.goto (.keyRest (part :: keys))
  | .keyRest keys, .mark '.' => some (reader.goto (.keyPart keys))
  | .keyRest keys, .mark '=' => some (reader.expect [.statement keys] .value)
  | _, _ => none

/-- Takes a token that does not belong to a value without quotation marks. -/
def takeOther? (reader : Reader) (token : Token) : Option Reader :=
  match reader.place with
  | .value containers expect => reader.takeInner? containers expect token
  | _ => reader.takeOuter? token

/-- Takes one token.  A value without quotation marks goes on as long as words and dots follow one
another; a date may be followed by one blank and a time. -/
def feed? (reader : Reader) (token : Token) : Option Reader :=
  match reader.place with
  | .value containers (.scalar text) =>
    match token with
    | .mark '.' => some (reader.expect containers (.scalar (text ++ ['.'])))
    | .word more => some (reader.expect containers (.scalar (text ++ more)))
    | .blank true =>
      if isDate text then some (reader.expect containers (.time text))
      else do (← reader.place? (← scalar? text) containers).takeOther? token
    | _ => do (← reader.place? (← scalar? text) containers).takeOther? token
  | .value containers (.time date) =>
    match token with
    | .word time => some (reader.expect containers (.scalar (date ++ ' ' :: time)))
    | _ => do (← reader.place? (← scalar? date) containers).takeOther? token
  | _ => reader.takeOther? token

/-- The document that has been read, once the text is at its end. -/
def finish? (reader : Reader) : Option Json :=
  match reader.place with
  | .line => some reader.root.toJson
  | _ => none

end Reader

/-- The mark that may stand before a text to show its byte order. -/
def byteOrderMark : Char := '\ufeff'

/-- The text without a byte order mark before it. -/
def dropByteOrderMark : List Char → List Char
  | c :: rest => if c = byteOrderMark then rest else c :: rest
  | [] => []

/-- The JSON value with the content of a TOML document. -/
def parse? (text : String) : Option Json := do
  let tokens ← tokens? (dropByteOrderMark text.toList)
  (← (tokens ++ [Token.newline]).foldlM Reader.feed? {}).finish?

end BranchGuard.Toml
