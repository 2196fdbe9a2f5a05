/-! # Hexadecimal digits

Numbers of a fixed width, written with lower case digits and read in either case. Main
statement: a number that fits the width reads back. -/

namespace Gatehouse.Hex

/-- The last `width` hexadecimal digits of `n`. -/
def write : Nat → Nat → List Char
  | 0, _ => []
  | width + 1, n => write width (n / 16) ++ [Nat.digitChar (n % 16)]

/-- The value of a digit. -/
def value? (c : Char) : Option Nat :=
  let n := c.toNat
  if 48 ≤ n ∧ n ≤ 57 then some (n - 48)
  else if 97 ≤ n ∧ n ≤ 102 then some (n - 87)
  else if 65 ≤ n ∧ n ≤ 70 then some (n - 55)
  else none

/-- Reads a run of digits onto the value already read. -/
def readOnto : Nat → List Char → Option Nat
  | acc, [] => some acc
  | acc, c :: rest => (value? c).bind fun d => readOnto (16 * acc + d) rest

def read (s : List Char) : Option Nat := readOnto 0 s

theorem value?_digitChar : ∀ n, n < 16 → value? (Nat.digitChar n) = some n := by decide

theorem readOnto_append (acc : Nat) (s t : List Char) :
    readOnto acc (s ++ t) = (readOnto acc s).bind fun v => readOnto v t := by
  induction s generalizing acc with
  | nil => rfl
  | cons c rest ih =>
    cases h : value? c with
    | none => simp [readOnto, h]
    | some d => simp [readOnto, h, ih]

theorem readOnto_write (width : Nat) : ∀ acc n, n < Nat.pow 16 width →
    readOnto acc (write width n) = some (Nat.pow 16 width * acc + n) := by
  induction width with
  | zero =>
    intro acc n h
    have h0 : Nat.pow 16 0 = 1 := rfl
    rw [h0] at h ⊢
    simp only [write, readOnto]
    congr 1
    omega
  | succ width ih =>
    intro acc n h
    have hw : Nat.pow 16 (width + 1) = Nat.pow 16 width * 16 := rfl
    have hq : n / 16 < Nat.pow 16 width := by
      rw [hw] at h; omega
    rw [write, readOnto_append, ih acc _ hq]
    simp only [Option.bind_some, readOnto, value?_digitChar _ (Nat.mod_lt n (by omega))]
    rw [hw, Nat.mul_right_comm, Nat.mul_comm (Nat.pow 16 width * acc) 16, Nat.mul_add]
    congr 1
    omega

/-- A number that fits the width reads back. -/
theorem read_write {width n : Nat} (h : n < Nat.pow 16 width) : read (write width n) = some n := by
  simp [read, readOnto_write width 0 n h]

end Gatehouse.Hex
