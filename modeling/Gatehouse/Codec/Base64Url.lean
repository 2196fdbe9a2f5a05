/-! # Base 64 for URLs

Three bytes are written as four characters of an alphabet that is safe in URLs; at the end, one
byte as two characters and two bytes as three. Written text has no padding; text that is read
may have the padding that fills it up to whole groups. Unused bits must be zero. Main statement:
what was written reads back. -/

namespace Gatehouse.Base64Url

/-- Capital letters, small letters, decimal digits, hyphen, underscore. -/
def digit (n : Nat) : Char :=
  if n < 26 then Char.ofNat (n + 65)
  else if n < 52 then Char.ofNat (n + 71)
  else if n < 62 then Char.ofNat (n - 4)
  else if n = 62 then '-'
  else '_'

/-- The six bits that a character stands for. -/
def value? (c : Char) : Option Nat :=
  let n := c.toNat
  if 65 ≤ n ∧ n ≤ 90 then some (n - 65)
  else if 97 ≤ n ∧ n ≤ 122 then some (n - 71)
  else if 48 ≤ n ∧ n ≤ 57 then some (n + 4)
  else if n = 45 then some 62
  else if n = 95 then some 63
  else none

/-- The last `count` digits of `n`. -/
def digits : Nat → Nat → List Char
  | 0, _ => []
  | count + 1, n => digits count (n / 64) ++ [digit (n % 64)]

/-- Bytes in groups of three, without padding. -/
def encode : List UInt8 → List Char
  | [] => []
  | [a] => digits 2 (a.toNat * 16)
  | [a, b] => digits 3 ((a.toNat * 256 + b.toNat) * 4)
  | a :: b :: c :: rest =>
    digits 4 ((a.toNat * 256 + b.toNat) * 256 + c.toNat) ++ encode rest

/-- The number that some characters stand for, six bits each. -/
def number? (cs : List Char) : Option Nat :=
  cs.foldl (fun acc c => acc.bind fun n => (value? c).map fun d => 64 * n + d) (some 0)

/-- Reads text without padding. -/
def decodeBare? : List Char → Option (List UInt8)
  | [] => some []
  | [_] => none
  | [x, y] => do
    let n ← number? [x, y]
    if n % 16 = 0 then some [UInt8.ofNat (n / 16)] else none
  | [x, y, z] => do
    let n ← number? [x, y, z]
    if n % 4 = 0 then some [UInt8.ofNat (n / 1024), UInt8.ofNat (n / 4 % 256)] else none
  | x :: y :: z :: w :: rest => do
    let n ← number? [x, y, z, w]
    let bytes ← decodeBare? rest
    some (UInt8.ofNat (n / 65536) :: UInt8.ofNat (n / 256 % 256) :: UInt8.ofNat (n % 256) :: bytes)

/-- Reads text with at most two characters of padding, which must then make whole groups. -/
def decode? (s : List Char) : Option (List UInt8) :=
  let bare := (s.reverse.dropWhile (· == '=')).reverse
  let padding := s.length - bare.length
  if padding = 0 then decodeBare? s
  else if padding ≤ 2 ∧ s.length % 4 = 0 then decodeBare? bare
  else none

/-! ### What was written reads back -/

theorem value?_digit : ∀ n, n < 64 → value? (digit n) = some n := by decide

theorem number?_digits2 {n : Nat} (h : n < 4096) : number? (digits 2 n) = some n := by
  simp only [digits, number?, List.nil_append, List.cons_append, List.foldl_cons, List.foldl_nil,
    Option.bind_some, value?_digit _ (Nat.mod_lt _ (by omega : 64 > 0)), Option.map_some]
  congr 1; omega

theorem number?_digits3 {n : Nat} (h : n < 262144) : number? (digits 3 n) = some n := by
  simp only [digits, number?, List.nil_append, List.cons_append, List.foldl_cons, List.foldl_nil,
    Option.bind_some, value?_digit _ (Nat.mod_lt _ (by omega : 64 > 0)), Option.map_some]
  congr 1; omega

theorem number?_digits4 {n : Nat} (h : n < 16777216) : number? (digits 4 n) = some n := by
  simp only [digits, number?, List.nil_append, List.cons_append, List.foldl_cons, List.foldl_nil,
    Option.bind_some, value?_digit _ (Nat.mod_lt _ (by omega : 64 > 0)), Option.map_some]
  congr 1; omega

theorem decodeBare?_encode (bytes : List UInt8) : decodeBare? (encode bytes) = some bytes := by
  induction bytes using encode.induct with
  | case1 => rfl
  | case2 a =>
    have ha := a.toNat_lt
    have h := number?_digits2 (n := a.toNat * 16) (by omega)
    simp only [encode, digits, List.nil_append, List.cons_append] at h ⊢
    simp [decodeBare?, h]
  | case3 a b =>
    have ha := a.toNat_lt
    have hb := b.toNat_lt
    have h := number?_digits3 (n := (a.toNat * 256 + b.toNat) * 4) (by omega)
    simp only [encode, digits, List.nil_append, List.cons_append] at h ⊢
    have e1 : (a.toNat * 256 + b.toNat) * 4 / 1024 = a.toNat := by omega
    have e2 : (a.toNat * 256 + b.toNat) % 256 = b.toNat := by omega
    simp [decodeBare?, h, e1, e2]
  | case4 a b c rest ih =>
    have ha := a.toNat_lt
    have hb := b.toNat_lt
    have hc := c.toNat_lt
    have h := number?_digits4 (n := (a.toNat * 256 + b.toNat) * 256 + c.toNat) (by omega)
    simp only [encode, digits, List.nil_append, List.cons_append] at h ⊢
    have e1 : ((a.toNat * 256 + b.toNat) * 256 + c.toNat) / 65536 = a.toNat := by omega
    have e2 : ((a.toNat * 256 + b.toNat) * 256 + c.toNat) / 256 % 256 = b.toNat := by omega
    have e3 : ((a.toNat * 256 + b.toNat) * 256 + c.toNat) % 256 = c.toNat := by omega
    simp [decodeBare?, h, ih, e1, e2, e3]

end Gatehouse.Base64Url
