/-! # Double precision numbers

A finite double is a sign, a significand and a power of two; `ofRatio` takes an exact quotient to
the nearest double, a tie to the even significand. Seconds, budgets and the numbers of a
document with a fraction or an exponent are of this type; what is computed from them is computed
exactly, on rationals. -/

namespace Gatehouse

/-- `finite negative m e` has magnitude `m · 2 ^ e`. -/
inductive Binary64
  | finite (negative : Bool) (significand : Nat) (exponent : Int)
  | infinite (negative : Bool)
  | notANumber
  deriving DecidableEq, Repr, Inhabited

/-- The nearest natural number to a quotient, of two equally near ones the even one. -/
def roundHalfEven (num den : Nat) : Nat :=
  let q := num / den
  let r := num % den
  if 2 * r < den then q else if den < 2 * r then q + 1 else if q % 2 = 0 then q else q + 1

/-- The nearest whole number, of two equally near ones the even one. -/
def roundRat (q : Rat) : Int :=
  let magnitude : Int := roundHalfEven q.num.natAbs q.den
  if q.num < 0 then -magnitude else magnitude

namespace Binary64

/-- The exponent of the subnormal numbers, the finest of all. -/
def minExponent : Int := -1074

/-- The least significand of 53 bits. -/
def leastNormal : Nat := Nat.pow 2 52

/-- The exponent of the largest finite numbers. -/
def maxExponent : Int := 971

def zero (negative : Bool) : Binary64 := finite negative 0 minExponent

/-- `num / den` divided by `2 ^ e`, as a quotient of naturals. -/
def scaleDown (num den : Nat) (e : Int) : Nat × Nat :=
  if 0 ≤ e then (num, den * Nat.pow 2 e.toNat) else (num * Nat.pow 2 (-e).toNat, den)

/-- The exponent with which a positive quotient has a significand of 53 bits, or the finest
exponent if that would be finer still. -/
def exponentFor (num den : Nat) : Int :=
  let guess : Int := (Nat.log2 num : Int) - Nat.log2 den - 52
  let (n, d) := scaleDown num den guess
  let fit := if n < d * leastNormal then guess - 1 else guess
  if fit < minExponent then minExponent else fit

/-- A significand that was rounded up to 54 bits is a power of two. -/
def carry (m : Nat) (e : Int) : Nat × Int :=
  if m = 2 * leastNormal then (leastNormal, e + 1) else (m, e)

/-- The double of a significand and an exponent, unless it is out of reach. -/
def pack (negative : Bool) (c : Nat × Int) : Binary64 :=
  if maxExponent < c.2 then infinite negative else finite negative c.1 c.2

/-- The double nearest to `± num / den`. -/
def ofRatio (negative : Bool) (num den : Nat) : Binary64 :=
  if num = 0 ∨ den = 0 then zero negative
  else
    let e := exponentFor num den
    let scaled := scaleDown num den e
    pack negative (carry (roundHalfEven scaled.1 scaled.2) e)

/-- The nearest double to a number. -/
def ofRat (q : Rat) : Binary64 :=
  ofRatio (decide (q.num < 0)) q.num.natAbs q.den

/-- The double nearest to `± digits · 10 ^ exponent`. Numbers that are out of reach by their
count of digits alone are settled without computing the power. -/
def ofDecimal (negative : Bool) (digits : Nat) (exponent : Int) : Binary64 :=
  let magnitude : Int := (Nat.toDigits 10 digits).length + exponent
  if digits = 0 then zero negative
  else if 320 < magnitude then infinite negative
  else if magnitude < -340 then zero negative
  else if 0 ≤ exponent then ofRatio negative (digits * Nat.pow 10 exponent.toNat) 1
  else ofRatio negative digits (Nat.pow 10 (-exponent).toNat)

/-- The exact value of a finite double. -/
def toRat? : Binary64 → Option Rat
  | finite negative m e =>
    let magnitude : Rat :=
      if 0 ≤ e then ((m * Nat.pow 2 e.toNat : Nat) : Rat) else mkRat m (Nat.pow 2 (-e).toNat)
    some (if negative then -magnitude else magnitude)
  | _ => none

/-- The integer part of a finite double. -/
def trunc? : Binary64 → Option Int
  | finite negative m e =>
    let magnitude : Nat := if 0 ≤ e then m * Nat.pow 2 e.toNat else m / Nat.pow 2 (-e).toNat
    some (if negative then -(magnitude : Int) else magnitude)
  | _ => none

/-- Whether a finite double has no fraction. -/
def isIntegral : Binary64 → Bool
  | finite _ m e => 0 ≤ e || m % Nat.pow 2 (-e).toNat == 0
  | _ => false

def isZero : Binary64 → Bool
  | finite _ m _ => m == 0
  | _ => false

end Binary64

end Gatehouse
