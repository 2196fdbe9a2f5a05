import Mathlib.Data.List.TakeWhile
import Gatehouse.Json.Reader
import Gatehouse.Json.Writer

/-! # Decimal integers

A written integer is a sign, if it is below zero, and its decimal digits, of which only zero starts
with a zero. Main statement: an integer literal that is not too long is read as what was written
(`read_writeInt`). -/

namespace Gatehouse

open Text

/-! ### Digits -/

section digits

variable {n : Nat} {c : Char}

theorem isDigit_toDigits (h : c ∈ Nat.toDigits 10 n) : c.isDigit = true :=
  Nat.isDigit_of_mem_toDigits (by decide) (by decide) h

/-- Only zero starts with a zero. -/
theorem toDigits_ne_zero_cons (hn : n ≠ 0) (rest : List Char) :
    Nat.toDigits 10 n ≠ '0' :: rest := by
  induction n using Nat.strongRecOn generalizing rest with
  | _ n ih =>
    rw [Nat.toDigits_eq_if (by decide)]
    split
    · intro h
      exact hn (Nat.digitChar_eq_zero.1 (List.cons.inj h).1)
    · intro h
      cases hds : Nat.toDigits 10 (n / 10) with
      | nil => exact Nat.toDigits_ne_nil hds
      | cons d ds =>
        rw [hds, List.cons_append] at h
        rw [(List.cons.inj h).1] at hds
        exact ih (n / 10) (by omega) (by omega) ds hds

theorem digit_bounds (h : c.isDigit = true) : 48 ≤ c.toNat ∧ c.toNat ≤ 57 :=
  Char.isDigit_iff_toNat.1 h

theorem digitValue?_digit (h : c.isDigit = true) : digitValue? c = some (c.toNat - 48) :=
  if_pos (digit_bounds h)

theorem ne_of_isDigit {d : Char} (h : c.isDigit = true) (hd : d.isDigit = false) : c ≠ d := by
  rintro rfl
  rw [h] at hd
  cases hd

theorem span_digits {digits rest : List Char} (hd : ∀ c ∈ digits, c.isDigit = true)
    (hr : ∀ c tail, rest = c :: tail → c.isDigit = false) :
    (digits ++ rest).takeWhile Char.isDigit = digits ∧
      (digits ++ rest).dropWhile Char.isDigit = rest := by
  rw [List.takeWhile_append_of_pos hd, List.dropWhile_append_of_pos hd]
  cases rest with
  | nil => simp
  | cons c tail => simp [hr c tail rfl]

theorem isNumberBlank_digit (h : c.isDigit = true) : isNumberBlank c = false := by
  have hb := digit_bounds h
  have hwide : wideBlanks.contains c.toNat = false := by
    rw [← Bool.not_eq_true, List.contains_iff_mem]
    intro hmem
    have : ∀ n ∈ wideBlanks, 57 < n := by decide
    have := this _ hmem
    omega
  unfold isNumberBlank
  dsimp only
  rw [hwide]
  simp only [Bool.or_false, Bool.or_eq_false_iff, Bool.and_eq_false_iff, decide_eq_false_iff_not,
    beq_eq_false_iff_ne]
  omega

end digits

/-! ### Literals -/

namespace IntegerLiteral

theorem wellSeparated_digits : ∀ {ds : List Char}, ds ≠ [] → (∀ c ∈ ds, c.isDigit = true) →
    wellSeparated ds = true
  | [], h, _ => absurd rfl h
  | [c], _, hd => by
    have hc : c ≠ '_' := ne_of_isDigit (hd c (by simp)) rfl
    unfold wellSeparated
    split <;> simp_all
  | c :: d :: rest, _, hd => by
    have hc : c ≠ '_' := ne_of_isDigit (hd c (by simp)) rfl
    have hd' : d ≠ '_' := ne_of_isDigit (hd d (by simp)) rfl
    have ih : wellSeparated (d :: rest) = true :=
      wellSeparated_digits (by simp) fun x hx => hd x (List.mem_cons_of_mem _ hx)
    rw [wellSeparated.eq_def]
    split <;> simp_all

theorem digitsOf_digits {ds : List Char} (hd : ∀ c ∈ ds, c.isDigit = true) :
    digitsOf ds = ds.map fun c => c.toNat - 48 := by
  unfold digitsOf
  induction ds with
  | nil => rfl
  | cons c rest ih =>
    rw [List.filterMap_cons_some (digitValue?_digit (hd c (by simp))), List.map_cons,
      ih fun x hx => hd x (List.mem_cons_of_mem _ hx)]

theorem valueOf_toDigits (n : Nat) :
    valueOf ((Nat.toDigits 10 n).map fun c => c.toNat - 48) = n := by
  unfold valueOf
  rw [List.foldl_map]
  exact Nat.ofDigitChars_toDigits (by decide) (by decide)

theorem takeWhile_toDigits (n : Nat) :
    (Nat.toDigits 10 n).takeWhile isDigitOrUnderscore = Nat.toDigits 10 n ∧
      (Nat.toDigits 10 n).dropWhile isDigitOrUnderscore = [] := by
  have hall : ∀ c ∈ Nat.toDigits 10 n, isDigitOrUnderscore c = true := by
    intro c hc
    unfold isDigitOrUnderscore
    rw [digitValue?_digit (isDigit_toDigits hc)]
    simp
  exact ⟨List.takeWhile_eq_self_iff.2 hall, List.dropWhile_eq_nil_iff.2 hall⟩

/-- The sign of a written integer is taken off, and its digits are left. -/
theorem takeSign_writeInt (n : Int) :
    takeSign ((Json.writeInt n).dropWhile isNumberBlank) =
      (decide (n < 0), Nat.toDigits 10 n.natAbs) := by
  unfold Json.writeInt
  by_cases hn : n < 0
  · rw [if_pos hn, decide_eq_true hn, List.dropWhile_cons_of_neg (by decide)]
    rfl
  · rw [if_neg hn, decide_eq_false hn]
    cases hds : Nat.toDigits 10 n.natAbs with
    | nil => exact absurd hds Nat.toDigits_ne_nil
    | cons d rest =>
      have hd : d.isDigit = true := isDigit_toDigits (n := n.natAbs) (by simp [hds])
      rw [List.dropWhile_cons_of_neg (by simp [isNumberBlank_digit hd])]
      have hminus : d ≠ '-' := ne_of_isDigit hd rfl
      have hplus : d ≠ '+' := ne_of_isDigit hd rfl
      unfold takeSign
      split <;> simp_all

/-- What was written is read, if it is not too long. -/
theorem read_writeInt {n : Int} (h : Fits n) : read (Json.writeInt n) = .ok n := by
  have hdigit : ∀ c ∈ Nat.toDigits 10 n.natAbs, c.isDigit = true := fun c => isDigit_toDigits
  obtain ⟨htake, hdrop⟩ := takeWhile_toDigits n.natAbs
  have hvalue := valueOf_toDigits n.natAbs
  have hlength : ¬maxDigits < ((Nat.toDigits 10 n.natAbs).map fun c => c.toNat - 48).length := by
    rw [List.length_map]
    exact Nat.not_lt.2 h
  unfold read
  rw [takeSign_writeInt]
  simp only [htake, hdrop, wellSeparated_digits Nat.toDigits_ne_nil hdigit, digitsOf_digits hdigit,
    hvalue, Bool.not_true, Bool.false_eq_true, if_false, List.all_nil, gt_iff_lt, hlength]
  congr 1
  by_cases hn : n < 0
  · rw [decide_eq_true hn, if_pos rfl]
    omega
  · rw [decide_eq_false hn, if_neg Bool.false_ne_true]
    omega

end IntegerLiteral

end Gatehouse
