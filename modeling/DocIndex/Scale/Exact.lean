import DocIndex.Scale
import Mathlib

/-!
Scores as exact fractions.
-/
namespace DocIndex.Scale

instance : Scale ℚ where
  perfect := 0
  slight := 1 / 8
  low := 1 / 4
  medium := 1 / 2
  unrelated := 1
  mean := clampedMean fun n => (n : ℚ)
  midpoint a b := (a + b) / 2
  le a b := decide (a ≤ b)
  hundredths q := roundedQuotient (100 * q.num.toNat) q.den

end DocIndex.Scale
