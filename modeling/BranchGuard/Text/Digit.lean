/-!
# Digits

The digits of the bases up to sixteen, letters in either case.
-/

namespace BranchGuard.Text

/-- The value of a character as a digit in a base, if it is one. -/
def digitIn? (base : Nat) (c : Char) : Option Nat :=
  let value :=
    if c.isDigit then c.toNat - '0'.toNat
    else if 'a' ≤ c ∧ c ≤ 'f' then c.toNat - 'a'.toNat + 10
    else if 'A' ≤ c ∧ c ≤ 'F' then c.toNat - 'A'.toNat + 10
    else base
  if value < base then some value else none

end BranchGuard.Text
