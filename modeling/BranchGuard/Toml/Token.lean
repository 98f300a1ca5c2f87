import BranchGuard.Text.Digit

/-!
# TOML tokens

Text is cut into tokens by a fold of `Lexer.take?` and `Lexer.breakLine?` over its characters.
Comments leave no token behind.  A line ends with a line feed, before which a carriage return may
stand; a carriage return anywhere else is refused.

Strings come in four forms: between apostrophes everything stands for itself, between quotation
marks a backslash escapes; with the mark written three times, a string may span lines.
-/

namespace BranchGuard.Toml

/-- A lexical unit of TOML text. -/
inductive Token where
  /-- One of the characters `. = , [ ]` and the braces. -/
  | mark (c : Char)
  /-- A run of blanks and tabs; `single` if it is one blank. -/
  | blank (single : Bool)
  | newline
  /-- A run of other characters: a bare key or a value, or a part of one. -/
  | word (text : List Char)
  /-- A string; `tall` if it was written in a form that may span lines. -/
  | quoted (text : String) (tall : Bool)
deriving DecidableEq, Repr

/-- A string in the middle of being read. -/
structure Quotation where
  /-- The mark that delimits the string. -/
  mark : Char
  /-- Whether the mark was written three times. -/
  tall : Bool
  /-- The characters so far, last one first. -/
  characters : List Char := []
  /-- How many marks have just been read in a row, in a string that may span lines. -/
  marks : Nat := 0
deriving Repr

namespace Quotation

/-- Adds a character. -/
def push (quotation : Quotation) (c : Char) : Quotation :=
  { quotation with characters := c :: quotation.characters }

/-- Whether enough marks in a row have been read to end the string. -/
def isClosed (quotation : Quotation) : Bool :=
  3 ≤ quotation.marks

/-- Takes marks that do not end the string for a part of it. -/
def settle (quotation : Quotation) : Quotation :=
  { quotation with
    characters := List.replicate quotation.marks quotation.mark ++ quotation.characters
    marks := 0 }

/-- The finished string; of more than three marks the first ones belong to it. -/
def token (quotation : Quotation) : Token :=
  let whole := { quotation with marks := quotation.marks - 3 }.settle
  .quoted (String.ofList whole.characters.reverse) quotation.tall

end Quotation

/-- What the lexer is in the middle of. -/
inductive Scan where
  | between
  | blank (single : Bool)
  /-- The characters of a word so far, last one first. -/
  | word (characters : List Char)
  | comment
  /-- After one mark, which may start a string of either height. -/
  | firstMark (mark : Char)
  /-- After two marks, which are an empty string or two thirds of an opening. -/
  | secondMark (mark : Char)
  /-- After three marks, where a line break is not part of the string. -/
  | thirdMark (mark : Char)
  | string (quotation : Quotation)
  /-- Just after a backslash. -/
  | escape (quotation : Quotation)
  /-- A character code of which `count` hexadecimal digits are still to come. -/
  | code (quotation : Quotation) (count value : Nat)
  /-- Blanks after a backslash, which leave no trace if the line ends with them.  `broken` says
  whether it has ended; blanks and line breaks are then passed over. -/
  | fold (quotation : Quotation) (broken : Bool)
deriving Repr

/-- The state of cutting a text into tokens. -/
structure Lexer where
  scan : Scan := .between
  /-- The tokens so far, last one first. -/
  tokens : List Token := []
  /-- Whether a carriage return waits for its line feed. -/
  carriage : Bool := false
deriving Repr

/-- Whether the character is a blank or a tab. -/
def isSpace (c : Char) : Bool :=
  c = ' ' || c = '\t'

/-- Whether the character is a token of its own. -/
def isMark (c : Char) : Bool :=
  c ∈ ['.', '=', ',', '[', ']', '\x7b', '\x7d']

/-- Whether the character ends a word. -/
def endsWord (c : Char) : Bool :=
  isSpace c || isMark c || c = '#'

/-- Whether the character may not stand in strings and comments. -/
def isControl (c : Char) : Bool :=
  (c.toNat < 0x20 && c != '\t') || c.toNat = 0x7F

/-- The character that a backslash before `c` stands for. -/
def escaped? (c : Char) : Option Char :=
  match c with
  | '"' => some '"'
  | '\\' => some '\\'
  | 'b' => some '\x08'
  | 'e' => some '\x1b'
  | 'f' => some '\x0c'
  | 'n' => some '\n'
  | 'r' => some '\r'
  | 't' => some '\t'
  | _ => none

/-- How many digits the code of a character has after this letter. -/
def codeLength? (c : Char) : Option Nat :=
  match c with
  | 'x' => some 2
  | 'u' => some 4
  | 'U' => some 8
  | _ => none

/-- The character with a code. -/
def charOfCode? (code : Nat) : Option Char :=
  if code < 0xD800 ∨ (0xDFFF < code ∧ code < 0x110000) then some (Char.ofNat code) else none

namespace Lexer

/-- Adds a token and goes on between tokens. -/
def emit (lexer : Lexer) (token : Token) : Lexer :=
  { lexer with scan := .between, tokens := token :: lexer.tokens }

/-- Ends the token that the lexer is in the middle of, if it can end here. -/
def flush? (lexer : Lexer) : Option Lexer :=
  match lexer.scan with
  | .between | .comment => some { lexer with scan := .between }
  | .blank single => some (lexer.emit (.blank single))
  | .word characters => some (lexer.emit (.word characters.reverse))
  | .secondMark mark => some (lexer.emit (Quotation.token ⟨mark, false, [], 0⟩))
  | .string quotation =>
    if quotation.tall && quotation.isClosed then some (lexer.emit quotation.token) else none
  | _ => none

/-- Takes a character that stands between tokens. -/
def begin (lexer : Lexer) (c : Char) : Lexer :=
  if isSpace c then { lexer with scan := .blank (c = ' ') }
  else if isMark c then lexer.emit (.mark c)
  else if c = '#' then { lexer with scan := .comment }
  else if c = '"' ∨ c = '\x27' then { lexer with scan := .firstMark c }
  else { lexer with scan := .word [c] }

/-- Takes a character inside a string; the mark has been dealt with. -/
def inString? (lexer : Lexer) (quotation : Quotation) (c : Char) : Option Lexer :=
  if c = '\\' ∧ quotation.mark = '"' then some { lexer with scan := .escape quotation }
  else if isControl c then none
  else some { lexer with scan := .string (quotation.push c) }

/-- Takes a character of a string. -/
def takeString? (lexer : Lexer) (quotation : Quotation) (c : Char) : Option Lexer :=
  if c = quotation.mark then
    if !quotation.tall then some (lexer.emit quotation.token)
    else if quotation.marks < 5 then
      some { lexer with scan := .string { quotation with marks := quotation.marks + 1 } }
    else none
  else if quotation.isClosed then some ((lexer.emit quotation.token).begin c)
  else lexer.inString? quotation.settle c

/-- Takes the character after a backslash. -/
def takeEscape? (lexer : Lexer) (quotation : Quotation) (c : Char) : Option Lexer :=
  if quotation.tall && isSpace c then some { lexer with scan := .fold quotation false }
  else match codeLength? c with
  | some count => some { lexer with scan := .code quotation count 0 }
  | none =>
    (escaped? c).map fun character => { lexer with scan := .string (quotation.push character) }

/-- Takes a digit of a character code. -/
def takeCode? (lexer : Lexer) (quotation : Quotation) (count value : Nat) (c : Char) :
    Option Lexer := do
  let value := value * 16 + (← Text.digitIn? 16 c)
  if count ≤ 1 then
    return { lexer with scan := .string (quotation.push (← charOfCode? value)) }
  else
    return { lexer with scan := .code quotation (count - 1) value }

/-- Takes a character that does not end a line. -/
def take? (lexer : Lexer) (c : Char) : Option Lexer :=
  match lexer.scan with
  | .between => some (lexer.begin c)
  | .blank single =>
    if isSpace c then some { lexer with scan := .blank false }
    else some ((lexer.emit (.blank single)).begin c)
  | .word characters =>
    if endsWord c then some ((lexer.emit (.word characters.reverse)).begin c)
    else some { lexer with scan := .word (c :: characters) }
  | .comment => if isControl c then none else some lexer
  | .firstMark mark =>
    if c = mark then some { lexer with scan := .secondMark mark }
    else lexer.takeString? ⟨mark, false, [], 0⟩ c
  | .secondMark mark =>
    if c = mark then some { lexer with scan := .thirdMark mark }
    else some ((lexer.emit (Quotation.token ⟨mark, false, [], 0⟩)).begin c)
  | .thirdMark mark => lexer.takeString? ⟨mark, true, [], 0⟩ c
  | .string quotation => lexer.takeString? quotation c
  | .escape quotation => lexer.takeEscape? quotation c
  | .code quotation count value => lexer.takeCode? quotation count value c
  | .fold quotation broken =>
    if isSpace c then some lexer
    else if broken then lexer.takeString? quotation c
    else none

/-- Takes the end of a line in the form in which it is written. -/
def breakLine? (lexer : Lexer) (written : List Char) : Option Lexer :=
  match lexer.scan with
  | .thirdMark mark => some { lexer with scan := .string ⟨mark, true, [], 0⟩ }
  | .string quotation =>
    if !quotation.tall then none
    else if quotation.isClosed then some ((lexer.emit quotation.token).emit .newline)
    else
      let settled := quotation.settle
      some { lexer with
        scan := .string { settled with characters := written.reverse ++ settled.characters } }
  | .escape quotation | .fold quotation _ =>
    if quotation.tall then some { lexer with scan := .fold quotation true } else none
  | _ => lexer.flush?.map fun lexer => lexer.emit .newline

/-- Takes any character. -/
def advance? (lexer : Lexer) (c : Char) : Option Lexer :=
  if lexer.carriage then
    if c = '\n' then { lexer with carriage := false }.breakLine? ['\r', '\n'] else none
  else if c = '\r' then some { lexer with carriage := true }
  else if c = '\n' then lexer.breakLine? ['\n']
  else lexer.take? c

/-- The tokens of a text that has come to its end. -/
def finish? (lexer : Lexer) : Option (List Token) :=
  if lexer.carriage then none else lexer.flush?.map fun lexer => lexer.tokens.reverse

end Lexer

/-- The tokens of a text. -/
def tokens? (text : List Char) : Option (List Token) := do
  (← text.foldlM Lexer.advance? {}).finish?

end BranchGuard.Toml
