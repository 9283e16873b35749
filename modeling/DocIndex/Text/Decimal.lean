import DocIndex.Text.Basic

/-!
Unsigned decimal numbers in texts.
-/
namespace DocIndex.Text

/-- The number below `bound` that a text writes: ASCII digits, of which leading zeros are allowed,
after an optional plus sign. -/
def natBelow? (bound : Nat) (t : Text) : Option Nat :=
  let digits := match t with
    | '+' :: rest => rest
    | t => t
  if !digits.isEmpty && digits.all Char.isDigit then
    let n := Nat.ofDigitChars 10 digits 0
    if n < bound then some n else none
  else none

end DocIndex.Text
