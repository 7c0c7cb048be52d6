/-!
Quotients of natural numbers as the nearest whole number, a half as the even one.
-/

namespace Variants

def roundQuotient (numerator denominator : Nat) : Nat :=
  let whole := numerator / denominator
  let twice := 2 * (numerator % denominator)
  if twice > denominator ∨ (twice = denominator ∧ whole % 2 = 1) then whole + 1 else whole

end Variants
