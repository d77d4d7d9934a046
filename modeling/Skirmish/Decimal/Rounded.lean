import Skirmish.Decimal

namespace Skirmish.Decimal

-- The quotient rounded to the nearest integer, a half to the even one.
def nearestQuotient (numerator denominator : Nat) : Nat :=
  let whole := numerator / denominator
  let rest := 2 * (numerator % denominator)
  if denominator < rest ∨ (rest = denominator ∧ whole % 2 = 1) then whole + 1 else whole

-- The value mantissa * 2 ^ exponent with the given number of places.
def rounded (places mantissa : Nat) (exponent : Int) : Decimal :=
  let numerator := mantissa * Nat.pow 2 exponent.toNat * Nat.pow 10 places
  ⟨nearestQuotient numerator (Nat.pow 2 (-exponent).toNat), -places⟩

end Skirmish.Decimal
