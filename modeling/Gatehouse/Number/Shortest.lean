import Gatehouse.Number.Binary64

/-! # Shortest decimals

`Binary64.shortest` gives the fewest digits that read back as the same double, and of those the
nearest to it. It tries one digit, two digits and so on up to seventeen, which always suffice;
for each count only the two neighbours of the value on that decimal grid can be read back. -/

namespace Gatehouse

/-- `digits · 10 ^ exponent`. -/
structure Decimal where
  digits : Nat
  exponent : Int
  deriving DecidableEq, Repr

namespace Binary64

def countDigits (n : Nat) : Nat := (Nat.toDigits 10 n).length

/-- The power of ten of the first digit of a positive quotient. -/
def leadingPower (num den : Nat) : Int :=
  if den ≤ num then countDigits (num / den) - 1
  else -(countDigits ((den + num - 1) / num - 1) : Int)

/-- The quotients that a double stands for: itself and the ends of the interval of numbers that
round to it, over one denominator. -/
structure Reach where
  value : Nat
  low : Nat
  high : Nat
  den : Nat
  closed : Bool
  deriving DecidableEq, Repr

/-- The numbers that are rounded to a double, in units of one denominator. -/
def reach (m : Nat) (e : Int) : Reach :=
  let step : Int := e - 2
  let up : Nat := if 0 ≤ step then Nat.pow 2 step.toNat else 1
  let den : Nat := if 0 ≤ step then 1 else Nat.pow 2 (-step).toNat
  let below : Nat := if m = leastNormal ∧ minExponent < e then 1 else 2
  { value := 4 * m * up, low := (4 * m - below) * up, high := (4 * m + 2) * up, den := den,
    closed := m % 2 == 0 }

/-- Whether `c · 10 ^ p` rounds to the double. -/
def Reach.holds (r : Reach) (c : Nat) (p : Int) : Bool :=
  let left := c * r.den * Nat.pow 10 p.toNat
  let scale := Nat.pow 10 (-p).toNat
  if r.closed then r.low * scale ≤ left && left ≤ r.high * scale
  else r.low * scale < left && left < r.high * scale

/-- The best decimal on the grid `10 ^ p`, if one rounds to the double. -/
def Reach.onGrid (r : Reach) (p : Int) : Option Decimal :=
  let num := r.value * Nat.pow 10 (-p).toNat
  let den := r.den * Nat.pow 10 p.toNat
  let c := num / den
  let rest := num % den
  match r.holds c p, r.holds (c + 1) p with
  | false, false => none
  | true, false => some ⟨c, p⟩
  | false, true => some ⟨c + 1, p⟩
  | true, true =>
    if 2 * rest < den ∨ (2 * rest = den ∧ c % 2 = 0) then some ⟨c, p⟩ else some ⟨c + 1, p⟩

/-- The first hit among the grids of `used + 1`, `used + 2`, … digits. -/
def Reach.search (r : Reach) (lead : Int) : Nat → Nat → Decimal
  | 0, _ => ⟨0, 0⟩
  | left + 1, used =>
    match r.onGrid (lead - used) with
    | some d => d
    | none => r.search lead left (used + 1)

/-- The digits without the zeros at their end; each step takes one off. -/
def trimZeros : Nat → Decimal → Decimal
  | 0, d => d
  | left + 1, d =>
    if d.digits ≠ 0 ∧ d.digits % 10 = 0 then trimZeros left ⟨d.digits / 10, d.exponent + 1⟩ else d

/-- The fewest digits that read back as the positive double `m · 2 ^ e`. -/
def shortest (m : Nat) (e : Int) : Decimal :=
  let r := reach m e
  trimZeros 18 (r.search (leadingPower r.value r.den) 17 0)

end Binary64

/-! ### Writing the digits -/

/-- How the shortest digits are laid out as text. -/
structure FloatText where
  /-- Powers of ten of the first digit from here up to, not including, `positionalBelow` are
  written without an exponent. -/
  positionalFrom : Int
  positionalBelow : Int
  notANumber : String
  infinity : String

namespace FloatText

def digitChars (n : Nat) : List Char := Nat.toDigits 10 n

/-- An exponent has a sign and at least two digits. -/
def exponentChars (x : Int) : List Char :=
  let digits := digitChars x.natAbs
  let padded := if digits.length < 2 then '0' :: digits else digits
  'e' :: (if x < 0 then '-' else '+') :: padded

/-- A number without an exponent has at least one digit on each side of the point. -/
def positional (digits : List Char) (lead : Int) : List Char :=
  if lead < 0 then
    '0' :: '.' :: (List.replicate (-lead - 1).toNat '0' ++ digits)
  else
    let whole := lead.toNat + 1
    if digits.length ≤ whole then
      digits ++ List.replicate (whole - digits.length) '0' ++ ['.', '0']
    else digits.take whole ++ '.' :: digits.drop whole

/-- Digits with a point after the first, and an exponent. -/
def scientific (digits : List Char) (lead : Int) : List Char :=
  match digits with
  | [] => exponentChars lead
  | [d] => d :: exponentChars lead
  | d :: rest => d :: '.' :: (rest ++ exponentChars lead)

/-- The fewest digits that read back, in the form that the exponent calls for. -/
def magnitude (style : FloatText) (m : Nat) (e : Int) : List Char :=
  if m = 0 then ['0', '.', '0']
  else
    let d := Binary64.shortest m e
    let digits := digitChars d.digits
    let lead := d.exponent + digits.length - 1
    if style.positionalFrom ≤ lead ∧ lead < style.positionalBelow then positional digits lead
    else scientific digits lead

/-- A double as text. -/
def write (style : FloatText) : Binary64 → String
  | .finite negative m e =>
    String.ofList ((if negative then ['-'] else []) ++ style.magnitude m e)
  | .infinite negative => (if negative then "-" else "") ++ style.infinity
  | .notANumber => style.notANumber

end FloatText

end Gatehouse
