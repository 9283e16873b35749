/-!
The arithmetic of scores. A score runs from 0, a perfect match, to 1, no relation. The rules that
give scores are written once over any scale: binary floating point when the index runs, exact
fractions where statements speak of all scores.
-/
namespace DocIndex

class Scale (σ : Type) where
  /-- A perfect match. -/
  perfect : σ
  /-- Half of the least penalty. -/
  slight : σ
  /-- The least penalty, which is also the largest score that a match may have. -/
  low : σ
  medium : σ
  /-- No relation. -/
  unrelated : σ
  /-- The score of parts scored one by one. -/
  mean : List σ → σ
  midpoint : σ → σ → σ
  le : σ → σ → Bool
  /-- A score in hundredths, rounded to the nearest number, from halfway to the even one. -/
  hundredths : σ → Nat

namespace Scale

/-- The mean of scores, summed from left to right and at most 1; 0 for no scores. The numbers of the
scale are given by `number`. -/
def clampedMean {σ : Type} [Add σ] [Div σ] [Min σ] (number : Nat → σ) (ds : List σ) : σ :=
  if ds.isEmpty then number 0
  else min (ds.foldl (· + ·) (number 0) / number ds.length) (number 1)

/-- A quotient rounded to the nearest number; halfway goes to the even neighbour. -/
def roundedQuotient (num den : Nat) : Nat :=
  let q := num / den
  let r := num % den
  if 2 * r < den || (2 * r = den && q % 2 = 0) then q else q + 1

/-- The hundredths of a finite float that is not negative. Its value is the mantissa, which has a
hidden bit unless the exponent field is 0, times two to the exponent, over two to the 1075th. -/
def floatHundredths (x : Float) : Nat :=
  let code := x.toBits.toNat
  let unit := Nat.pow 2 52
  let field := code / unit % 2048
  let mantissa := code % unit + (if field = 0 then 0 else unit)
  roundedQuotient (100 * mantissa * Nat.pow 2 (max 1 field)) (Nat.pow 2 1075)

instance : Scale Float where
  perfect := 0.0
  slight := 0.125
  low := 0.25
  medium := 0.5
  unrelated := 1.0
  mean := clampedMean Float.ofNat
  midpoint a b := (a + b) / 2.0
  le a b := a ≤ b
  hundredths := floatHundredths

end Scale

end DocIndex
