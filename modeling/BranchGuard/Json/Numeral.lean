import BranchGuard.Json.Basic
import BranchGuard.Text.Digit

/-!
# Numerals

The grammar of a JSON number as an automaton that takes one character at a time.  A numeral knows
in each phase which characters may continue it, so the reader needs no look-ahead: the first
character that does not continue a numeral ends it.

The digits before the exponent are kept as long as 64 bits hold them.  From the first one that does
not fit, the further digits of the whole part are only counted, and those of the fraction are
passed over.  A fraction starts afresh: its digits are tried again even if the whole part has left
some out.
-/

namespace BranchGuard.Json

/-- How far a numeral has come. -/
inductive Numeral.Phase where
  /-- The sign alone. -/
  | sign
  /-- A whole part that is a single zero. -/
  | zero
  /-- A zero with a digit behind it, which begins no number. -/
  | leadingZero
  | whole
  /-- A whole part with digits that are not kept. -/
  | longWhole
  /-- The point, which a digit must follow. -/
  | point
  | fraction
  /-- A fraction with digits that are not kept. -/
  | longFraction
  /-- The letter of the exponent. -/
  | mark
  /-- The sign of the exponent. -/
  | markSign
  | power
deriving DecidableEq, Repr

/-- A numeral read so far. -/
structure Numeral where
  negative : Bool := false
  /-- The digits kept, read as one integer. -/
  digits : Nat := 0
  /-- The power of ten that belongs to the last of these digits. -/
  scale : Int := 0
  powerNegative : Bool := false
  power : Nat := 0
  phase : Numeral.Phase := .sign
deriving Repr

namespace Numeral

/-- The digits kept with one more behind them, unless 64 bits do not hold them. -/
def pushDigit? (numeral : Numeral) (digit : Nat) : Option Nat :=
  let digits := numeral.digits * 10 + digit
  if digits < UInt64.size then some digits else none

/-- The numeral with one more digit. -/
def withDigit (numeral : Numeral) (digit : Nat) : Numeral :=
  match numeral.phase with
  | .sign => { numeral with digits := digit, phase := if digit = 0 then .zero else .whole }
  | .zero | .leadingZero => { numeral with phase := .leadingZero }
  | .whole =>
    match numeral.pushDigit? digit with
    | some digits => { numeral with digits }
    | none => { numeral with scale := 1, phase := .longWhole }
  | .longWhole => { numeral with scale := numeral.scale + 1 }
  | .point | .fraction =>
    match numeral.pushDigit? digit with
    | some digits => { numeral with digits, scale := numeral.scale - 1, phase := .fraction }
    | none => { numeral with phase := .longFraction }
  | .longFraction => numeral
  | .mark | .markSign | .power =>
    { numeral with power := numeral.power * 10 + digit, phase := .power }

/-- The numeral that starts with the character, if one can. -/
def start? (c : Char) : Option Numeral :=
  if c = '-' then some { negative := true }
  else (Text.digitIn? 10 c).map fun digit => ({} : Numeral).withDigit digit

/-- The numeral continued by the character, or nothing if the character cannot continue it. -/
def extend? (numeral : Numeral) (c : Char) : Option Numeral :=
  match Text.digitIn? 10 c with
  | some digit => some (numeral.withDigit digit)
  | none =>
    match numeral.phase with
    | .zero | .whole | .longWhole =>
      if c = '.' then some { numeral with phase := .point }
      else if c = 'e' ∨ c = 'E' then some { numeral with phase := .mark }
      else none
    | .fraction | .longFraction =>
      if c = 'e' ∨ c = 'E' then some { numeral with phase := .mark } else none
    | .mark =>
      if c = '+' then some { numeral with phase := .markSign }
      else if c = '-' then some { numeral with powerNegative := true, phase := .markSign }
      else none
    | _ => none

/-- The double that the numeral denotes, if it is finite: the digits are rounded to a double, which
is then scaled. -/
def double? (numeral : Numeral) : Option Double := do
  let power : Int := if numeral.powerNegative then -numeral.power else numeral.power
  (← Double.ofNat? numeral.negative numeral.digits).scale? (numeral.scale + power)

/-- Whether the digits are all zero after a minus sign. -/
def isMinusZero (numeral : Numeral) : Bool :=
  numeral.negative && numeral.digits = 0

/--
The value of a finished numeral, nothing if it ends too early.  Without fraction and exponent it
is an integer as long as 64 bits hold it; minus zero is not an integer.
-/
def value? (numeral : Numeral) : Option Json :=
  match numeral.phase with
  | .zero | .whole =>
    let value : Int := if numeral.negative then -numeral.digits else numeral.digits
    if fitsWord value && !numeral.isMinusZero then some (.integer value)
    else some (ofDouble numeral.double?)
  | .longWhole | .fraction | .longFraction | .power => some (ofDouble numeral.double?)
  | .sign | .leadingZero | .point | .mark | .markSign => none

end Numeral

end BranchGuard.Json
