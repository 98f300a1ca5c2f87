import BranchGuard.Json.Basic
import BranchGuard.Text.Digit

/-!
# Unquoted values

A value without quotation marks is a truth value, a number, a date or a time.  JSON has no dates,
so a date or a time becomes an object that holds its text.  It has no infinities and no NaN either;
they become a number that is not an integer, as every number with a fraction does.

A number may be too large to be used but still be passed over, as long as it is an integer of 128
bits or rounds to a finite double; a larger one is `Json.void`.
-/

namespace BranchGuard.Toml

/-- Reads one more character of a run of digits.  The flag says whether the last one was a digit,
since an underscore may stand only between two digits. -/
def stepDigits (base : Nat) (state : Nat × Bool) (c : Char) : Option (Nat × Bool) :=
  if c = '_' then if state.2 then some (state.1, false) else none
  else (Text.digitIn? base c).map fun digit => (state.1 * base + digit, true)

/-- The value of a run of digits. -/
def digits? (base : Nat) (text : List Char) : Option Nat := do
  let (value, complete) ← text.foldlM (stepDigits base) (0, false)
  if complete then some value else none

/-- The value of a run of decimal digits that does not start with a superfluous zero. -/
def whole? (text : List Char) : Option Nat :=
  match text with
  | '0' :: _ :: _ => none
  | _ => digits? 10 text

/-- Whether 128 bits hold the integer, with or without a sign. -/
def fitsTwoWords (value : Int) : Bool :=
  if value < 0 then decide (value.natAbs ≤ Nat.pow 2 127)
  else decide (value.natAbs < Nat.pow 2 128)

/-- An integer as a JSON value. -/
def ofInteger (value : Int) : Json :=
  if Json.fitsWord value then .integer value
  else if fitsTwoWords value then .ofDouble (Double.ofNat? (value < 0) value.natAbs)
  else .void

/-- A sign in front of a text, if there is one; `true` for minus. -/
def splitSign : List Char → Bool × List Char
  | '+' :: rest => (false, rest)
  | '-' :: rest => (true, rest)
  | text => (false, text)

/-- Reads an integer. -/
def integer? (text : List Char) : Option Json :=
  match text with
  | '0' :: 'x' :: rest => (digits? 16 rest).map fun value => ofInteger value
  | '0' :: 'o' :: rest => (digits? 8 rest).map fun value => ofInteger value
  | '0' :: 'b' :: rest => (digits? 2 rest).map fun value => ofInteger value
  | _ =>
    let (negative, magnitude) := splitSign text
    (whole? magnitude).map fun value => ofInteger (if negative then -value else value)

/-- The number of digits in a run of digits. -/
def countDigits (text : List Char) : Nat :=
  text.countP (· != '_')

/-- Reads a number without exponent: its digits as one integer, and how many of them stand after
the point. -/
def mantissa? (text : List Char) : Option (Nat × Nat) := do
  let (whole, fraction) := text.span (· != '.')
  let digits ← whole? whole
  match fraction with
  | [] => some (digits, 0)
  | _ :: fraction =>
    let places := countDigits fraction
    some (digits * Nat.pow 10 places + (← digits? 10 fraction), places)

/-- Reads an exponent. -/
def exponent? (text : List Char) : Option Int :=
  let (negative, magnitude) := splitSign text
  (digits? 10 magnitude).map fun value => if negative then -(value : Int) else value

/-- Reads a number with a fraction, an exponent or both, an infinity, or NaN. -/
def float? (text : List Char) : Option Json := do
  let (negative, magnitude) := splitSign text
  if magnitude = "inf".toList ∨ magnitude = "nan".toList then
    return .double (Double.zero negative)
  let (mantissa, exponent) := magnitude.span fun c => c != 'e' && c != 'E'
  let (digits, places) ← mantissa? mantissa
  let power ←
    match exponent with
    | [] => some 0
    | _ :: exponent => exponent? exponent
  return .ofDouble (Double.ofDecimal? negative digits (power - places))

/-- The value of a run of decimal digits without underscores. -/
def plain? (text : List Char) : Option Nat :=
  if text.all Char.isDigit then digits? 10 text else none

/-- Whether a year has a 29th of February. -/
def isLeapYear (year : Nat) : Bool :=
  year % 4 = 0 && (year % 100 != 0 || year % 400 = 0)

/-- The number of days of a month. -/
def daysIn (year month : Nat) : Nat :=
  if month = 2 then if isLeapYear year then 29 else 28
  else if month ∈ [4, 6, 9, 11] then 30
  else 31

/-- Reads a date at the start of a text and returns the rest. -/
def date? : List Char → Option (List Char)
  | y₁ :: y₂ :: y₃ :: y₄ :: '-' :: m₁ :: m₂ :: '-' :: d₁ :: d₂ :: rest => do
    let year ← plain? [y₁, y₂, y₃, y₄]
    let month ← plain? [m₁, m₂]
    let day ← plain? [d₁, d₂]
    guard (1 ≤ month ∧ month ≤ 12 ∧ 1 ≤ day ∧ day ≤ daysIn year month)
    return rest
  | _ => none

/-- Reads the fraction of a second, if there is one, and returns the rest. -/
def fraction? : List Char → Option (List Char)
  | '.' :: rest =>
    let (digits, rest) := rest.span Char.isDigit
    if digits.isEmpty then none else some rest
  | text => some text

/-- Reads the seconds of a time, if there are any, and returns the rest. -/
def seconds? : List Char → Option (List Char)
  | ':' :: s₁ :: s₂ :: rest => do
    guard ((← plain? [s₁, s₂]) ≤ 60)
    fraction? rest
  | text => some text

/-- Reads hours and minutes at the start of a text and returns the rest. -/
def minutes? : List Char → Option (List Char)
  | h₁ :: h₂ :: ':' :: m₁ :: m₂ :: rest => do
    guard ((← plain? [h₁, h₂]) ≤ 23)
    guard ((← plain? [m₁, m₂]) ≤ 59)
    return rest
  | _ => none

/-- Whether the text is an offset from universal time, or nothing. -/
def isOffset : List Char → Bool
  | [] => true
  | ['Z'] | ['z'] => true
  | '+' :: rest | '-' :: rest => minutes? rest == some []
  | _ => false

/-- Whether the text is a time. -/
def isTime (text : List Char) : Bool :=
  ((minutes? text).bind seconds?) == some []

/-- Whether the text is a time, with or without an offset. -/
def isOffsetTime (text : List Char) : Bool :=
  (((minutes? text).bind seconds?).map isOffset).getD false

/-- Whether the text is a date without a time. -/
def isDate (text : List Char) : Bool :=
  date? text == some []

/-- Whether the text is a date, a time, or both. -/
def isMoment (text : List Char) : Bool :=
  match date? text with
  | none => isTime text
  | some [] => true
  | some (separator :: rest) => separator ∈ ['T', 't', ' '] && isOffsetTime rest

/-- Reads a value without quotation marks. -/
def scalar? (text : List Char) : Option Json :=
  if text = "true".toList then some (.bool true)
  else if text = "false".toList then some (.bool false)
  else if isMoment text then some (.object [("moment", .string (String.ofList text))])
  else (integer? text).orElse fun _ => float? text

end BranchGuard.Toml
