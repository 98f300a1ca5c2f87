/-!
# Doubles

The finite numbers of binary64, each held exactly: a sign and a whole number of units, where a unit
is the least positive double.  Every operation rounds its exact result to the nearest double
(`Double.round?`), and has no result where the nearest double would be infinite.
-/

namespace BranchGuard

/-- A finite double. -/
structure Double where
  negative : Bool
  /-- The magnitude in units of `2^(-1074)`. -/
  units : Nat
deriving DecidableEq, Repr

namespace Double

/-- Zero with a sign. -/
def zero (negative : Bool) : Double :=
  ⟨negative, 0⟩

/-- The number one in units. -/
def one : Nat :=
  Nat.pow 2 1074

/-- The least power of two beyond the doubles, in units. -/
def bound : Nat :=
  Nat.pow 2 1024 * one

/-- How many binary digits a double has after its first one. -/
def fractionDigits : Nat := 52

/-- The whole number nearest to a quotient; of two equally near ones, the even one. -/
def nearest (numerator denominator : Nat) : Nat :=
  let whole := numerator / denominator
  let doubledRest := 2 * (numerator % denominator)
  if doubledRest < denominator then whole
  else if denominator < doubledRest then whole + 1
  else whole + whole % 2

/-- The distance in units between neighbouring doubles, near a magnitude with this whole part. -/
def spacing (whole : Nat) : Nat :=
  Nat.pow 2 (whole.log2 - fractionDigits)

/-- The double nearest to `numerator / denominator` units, of two equally near ones the one with
an even last binary digit, or nothing if that is not finite. -/
def round? (negative : Bool) (numerator denominator : Nat) : Option Double :=
  let spacing := spacing (numerator / denominator)
  let units := nearest numerator (denominator * spacing) * spacing
  if units < bound then some ⟨negative, units⟩ else none

/-- The double nearest to a whole number. -/
def ofNat? (negative : Bool) (magnitude : Nat) : Option Double :=
  round? negative (magnitude * one) 1

/-- The product of two doubles. -/
def mul? (left right : Double) : Option Double :=
  round? (left.negative != right.negative) (left.units * right.units) one

/-- The quotient of two doubles, of which the second is not zero. -/
def div? (left right : Double) : Option Double :=
  round? (left.negative != right.negative) (left.units * one) right.units

/-- The number of decimal digits of `n`. -/
def digitCount (n : Nat) : Nat :=
  (Nat.toDigits 10 n).length

/--
The double nearest to `digits * 10^power`.  Far from the doubles the size of the number decides
alone, so that no large power of ten is ever computed: below `10^(-330)` a number rounds to zero,
and from `10^310` on to infinity.
-/
def ofDecimal? (negative : Bool) (digits : Nat) (power : Int) : Option Double :=
  let size := power + digitCount digits
  if digits = 0 || size < -330 then some (zero negative)
  else if 310 < size then none
  else if 0 ≤ power then ofNat? negative (digits * Nat.pow 10 power.toNat)
  else round? negative (digits * one) (Nat.pow 10 (-power).toNat)

/-- The greatest power of ten that is a double. -/
def maxTenPower : Nat := 308

/--
A double times a power of ten, in steps each of which rounds: the double nearest to the power of
ten is multiplied by or divided by.  Below the least power that has a double the division is made
in two steps, and two steps of the greatest length leave nothing of any 64-bit number.
-/
def scale? (value : Double) (power : Int) : Option Double := do
  if value.units = 0 then return value
  else if maxTenPower < power then none
  else if 0 ≤ power then value.mul? (← ofNat? false (Nat.pow 10 power.toNat))
  else if -maxTenPower ≤ power then value.div? (← ofNat? false (Nat.pow 10 (-power).toNat))
  else if -(2 * maxTenPower) ≤ power then
    let first ← value.div? (← ofNat? false (Nat.pow 10 maxTenPower))
    first.div? (← ofNat? false (Nat.pow 10 (-power - maxTenPower).toNat))
  else return zero value.negative

/-- The exact value in digits and a power of ten, a form that every reader of JSON takes for a
number with a fraction. -/
def text (value : Double) : String :=
  let divisor := Nat.gcd value.units one
  let places := (one / divisor).log2
  (if value.negative then "-" else "") ++
    toString (value.units / divisor * Nat.pow 5 places) ++ "e-" ++ toString places

end Double

end BranchGuard
