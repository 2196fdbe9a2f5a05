import Gatehouse.Text.Blank

/-! # Decimal digits of fixed width

Padded numbers, and numbers with a fraction whose last digit is not a zero. -/

namespace Gatehouse.Text

/-- The last `width` decimal digits of `n`. -/
def fixedDigits : Nat → Nat → List Char
  | 0, _ => []
  | width + 1, n => fixedDigits width (n / 10) ++ [Nat.digitChar (n % 10)]

@[simp] theorem length_fixedDigits (width n : Nat) : (fixedDigits width n).length = width := by
  induction width generalizing n with
  | zero => rfl
  | succ width ih => simp [fixedDigits, ih]

/-- The digits of a fraction, without the zeros at their end. -/
def trimmedFraction (width n : Nat) : List Char :=
  dropEnd (· == '0') (fixedDigits width n)

/-- `value / 10 ^ places`, with a point only if there is a fraction. -/
def writeScaled (places value : Nat) : List Char :=
  let whole := Nat.toDigits 10 (value / Nat.pow 10 places)
  let rest := value % Nat.pow 10 places
  if rest = 0 then whole else whole ++ '.' :: trimmedFraction places rest

end Gatehouse.Text
