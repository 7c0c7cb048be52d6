import Variants.Number.Rounding

/-!
Shares of a whole as percentages with a fixed number of places, where a half goes to the even
neighbour and a share of nothing is zero.
-/

namespace Variants

/-- The percentage `100 · part / total` in units of the last of `places` places. -/
def scaledPercentage (places part total : Nat) : Nat :=
  if total = 0 then 0 else roundQuotient (100 * part * Nat.pow 10 places) total

def percentageText (places part total : Nat) : String :=
  let digits := Nat.toDigits 10 (scaledPercentage places part total)
  let padded := List.replicate (places + 1 - digits.length) '0' ++ digits
  let whole := padded.take (padded.length - places)
  let fraction := padded.drop (padded.length - places)
  String.ofList (if fraction.isEmpty then whole else whole ++ '.' :: fraction)

end Variants
