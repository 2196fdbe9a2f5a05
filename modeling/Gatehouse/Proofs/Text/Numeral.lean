import Mathlib.Data.List.DropRight
import Mathlib.Tactic.FieldSimp
import Mathlib.Tactic.Linarith
import Mathlib.Tactic.Positivity
import Mathlib.Tactic.Ring
import Gatehouse.Proofs.Text.Decimal
import Gatehouse.Text.Digits

/-! # Decimal numbers with places

A `Numeral` is a number as it is written: digits, and the places after a point if there are any. It
is `Proper` if no zero in it is superfluous. Main statements: a numeral is read back from its text
(`Numeral.scan_chars`), and a number of units that is written with so many places is a proper
numeral of the same value (`Numeral.value_scaled`, `Numeral.proper_scaled`). -/

namespace Gatehouse.Text

variable {width n : Nat} {digits rest : List Char} {c : Char}

/-! ### Digits of fixed width -/

theorem isDigit_fixedDigits (h : c ∈ fixedDigits width n) : c.isDigit = true := by
  induction width generalizing n with
  | zero => cases h
  | succ width ih =>
    rw [fixedDigits, List.mem_append, List.mem_singleton] at h
    rcases h with h | rfl
    · exact ih h
    · rw [Nat.isDigit_digitChar, decide_eq_true_eq]
      omega

theorem ofDigitChars_fixedDigits (width n : Nat) :
    Nat.ofDigitChars 10 (fixedDigits width n) 0 = n % 10 ^ width := by
  induction width generalizing n with
  | zero => simp [fixedDigits, Nat.mod_one]
  | succ width ih =>
    rw [fixedDigits, Nat.ofDigitChars_append, ih,
      Nat.ofDigitChars_cons_digitChar_of_lt_ten (Nat.mod_lt n (by omega)), Nat.ofDigitChars_nil,
      Nat.pow_succ, Nat.mul_comm (10 ^ width) 10, Nat.mod_mul]
    omega

theorem fixedDigits_zero (width : Nat) : ∀ c ∈ fixedDigits width 0, c = '0' := by
  induction width with
  | zero => simp [fixedDigits]
  | succ width ih => simpa [fixedDigits, or_imp, forall_and] using ih

/-! ### Places -/

theorem exists_zeros (width n : Nat) :
    ∃ zeros, fixedDigits width n = trimmedFraction width n ++ List.replicate zeros '0' := by
  have hall : ∀ c ∈ (fixedDigits width n).rtakeWhile (· == '0'), c = '0' := by
    intro c hc
    simpa using List.mem_rtakeWhile_imp hc
  refine ⟨((fixedDigits width n).rtakeWhile (· == '0')).length, ?_⟩
  rw [← List.eq_replicate_of_mem hall]
  exact List.rdropWhile_append_rtakeWhile.symm

theorem isDigit_trimmedFraction (h : c ∈ trimmedFraction width n) : c.isDigit = true := by
  obtain ⟨zeros, hz⟩ := exists_zeros width n
  exact isDigit_fixedDigits (hz ▸ List.mem_append_left _ h)

theorem getLast?_trimmedFraction (width n : Nat) :
    (trimmedFraction width n).getLast? ≠ some '0' := by
  intro h
  have hne : trimmedFraction width n ≠ [] := by
    rintro hnil
    simp [hnil] at h
  rw [List.getLast?_eq_some_getLast hne] at h
  have hnot := List.rdropWhile_last_not (· == '0') (fixedDigits width n) hne
  exact hnot (beq_iff_eq.2 (Option.some.inj h))

theorem trimmedFraction_eq_nil_iff (hn : n < 10 ^ width) :
    trimmedFraction width n = [] ↔ n = 0 := by
  constructor
  · intro h
    obtain ⟨zeros, hz⟩ := exists_zeros width n
    have hvalue := ofDigitChars_fixedDigits width n
    rw [hz, h, List.nil_append, Nat.ofDigitChars_replicate_zero, Nat.mod_eq_of_lt hn] at hvalue
    omega
  · rintro rfl
    refine List.rdropWhile_eq_nil_iff.2 fun c hc => ?_
    simpa using fixedDigits_zero width c hc

/-- The number after a point. -/
def placesValue (digits : List Char) : Rat := Nat.ofDigitChars 10 digits 0 / 10 ^ digits.length

theorem placesValue_trimmedFraction (hn : n < 10 ^ width) :
    placesValue (trimmedFraction width n) = n / 10 ^ width := by
  obtain ⟨zeros, hz⟩ := exists_zeros width n
  have hlength := congrArg List.length hz
  have hvalue := ofDigitChars_fixedDigits width n
  rw [length_fixedDigits, List.length_append, List.length_replicate] at hlength
  rw [hz, Nat.ofDigitChars_append, Nat.ofDigitChars_replicate_zero, Nat.mod_eq_of_lt hn] at hvalue
  have hcast : ((10 : Rat) ^ zeros) * Nat.ofDigitChars 10 (trimmedFraction width n) 0 = n := by
    exact_mod_cast hvalue
  have hpow : (10 : Rat) ^ width = 10 ^ (trimmedFraction width n).length * 10 ^ zeros := by
    rw [← pow_add, ← hlength]
  rw [placesValue, ← hcast, hpow]
  field_simp

/-! ### Reading -/

/-- What follows a number that does not go on. -/
def EndsNumeral (rest : List Char) : Prop :=
  ∀ c tail, rest = c :: tail → c.isDigit = false ∧ c ≠ '.'

theorem endsNumeral_cons (hd : c.isDigit = false) (hp : c ≠ '.') (tail : List Char) :
    EndsNumeral (c :: tail) := by
  intro d rest h
  obtain ⟨rfl, rfl⟩ := List.cons.inj h
  exact ⟨hd, hp⟩

/-- The point and the places after it, if there are any. -/
def placesChars (digits : List Char) : List Char := if digits = [] then [] else '.' :: digits

/-- The places at the start of a text; a point without any is no number. -/
def scanPlaces (s : List Char) : Option (List Char × List Char) :=
  match s with
  | '.' :: tail =>
    if tail.takeWhile Char.isDigit = [] then none
    else some (tail.takeWhile Char.isDigit, tail.dropWhile Char.isDigit)
  | _ => some ([], s)

theorem scanPlaces_write (hd : ∀ c ∈ digits, c.isDigit = true) (hr : EndsNumeral rest) :
    scanPlaces (placesChars digits ++ rest) = some (digits, rest) := by
  obtain ⟨htake, hdrop⟩ := span_digits hd fun c tail h => (hr c tail h).1
  unfold placesChars
  split
  · rename_i hnil
    rw [hnil, List.nil_append]
    unfold scanPlaces
    split
    · exact absurd rfl (hr _ _ rfl).2
    · rfl
  · rename_i hne
    rw [List.cons_append, scanPlaces, htake, hdrop, if_neg hne]

theorem isDigit_of_scanPlaces {s : List Char} (h : scanPlaces s = some (digits, rest)) :
    ∀ c ∈ digits, c.isDigit = true := by
  unfold scanPlaces at h
  split at h
  · split at h
    · cases h
    · cases h
      exact fun c => List.mem_takeWhile_imp
  · cases h
    simp

/-- A number as it is written. -/
structure Numeral where
  whole : List Char
  places : List Char
  whole_ne : whole ≠ []
  whole_digits : ∀ c ∈ whole, c.isDigit = true
  places_digits : ∀ c ∈ places, c.isDigit = true

namespace Numeral

def chars (x : Numeral) : List Char := x.whole ++ placesChars x.places

def value (x : Numeral) : Rat := Nat.ofDigitChars 10 x.whole 0 + placesValue x.places

/-- No zero is superfluous: none in front of another digit, and none at the end of the places. -/
structure Proper (x : Numeral) : Prop where
  leading : x.whole = ['0'] ∨ x.whole.head? ≠ some '0'
  trailing : x.places.getLast? ≠ some '0'

/-- The number at the start of a text. -/
def scan (s : List Char) : Option (Numeral × List Char) :=
  if hne : s.takeWhile Char.isDigit = [] then none
  else
    match h : scanPlaces (s.dropWhile Char.isDigit) with
    | none => none
    | some (places, rest) =>
      some (⟨s.takeWhile Char.isDigit, places, hne, fun _ => List.mem_takeWhile_imp,
        isDigit_of_scanPlaces h⟩, rest)

theorem scan_of_scanPlaces {x : Numeral} {s : List Char}
    (hwhole : s.takeWhile Char.isDigit = x.whole)
    (hplaces : scanPlaces (s.dropWhile Char.isDigit) = some (x.places, rest)) :
    scan s = some (x, rest) := by
  unfold scan
  rw [dif_neg (hwhole ▸ x.whole_ne)]
  split
  · rename_i hnone
    rw [hplaces] at hnone
    cases hnone
  · rename_i places rest' hsome
    rw [hplaces] at hsome
    cases hsome
    obtain ⟨whole, places, _, _, _⟩ := x
    cases hwhole
    rfl

/-- A number is read back, and what follows it is left. -/
theorem scan_chars (x : Numeral) (hr : EndsNumeral rest) :
    scan (x.chars ++ rest) = some (x, rest) := by
  have hplaces : ∀ c tail, placesChars x.places ++ rest = c :: tail → c.isDigit = false := by
    intro c tail h
    unfold placesChars at h
    split at h
    · exact (hr c tail h).1
    · rw [List.cons_append] at h
      rw [← (List.cons.inj h).1]
      rfl
  obtain ⟨htake, hdrop⟩ := span_digits x.whole_digits hplaces
  rw [chars, List.append_assoc]
  refine scan_of_scanPlaces htake ?_
  rw [hdrop]
  exact scanPlaces_write x.places_digits hr

/-! ### Numbers of units -/

/-- A whole number. -/
def ofNat (n : Nat) : Numeral where
  whole := Nat.toDigits 10 n
  places := []
  whole_ne := Nat.toDigits_ne_nil
  whole_digits := fun _ => isDigit_toDigits
  places_digits := by simp

@[simp] theorem chars_ofNat (n : Nat) : (ofNat n).chars = Nat.toDigits 10 n := by
  simp [ofNat, chars, placesChars]

@[simp] theorem value_ofNat (n : Nat) : (ofNat n).value = n := by
  simp [ofNat, value, placesValue]

theorem leading_toDigits (n : Nat) :
    Nat.toDigits 10 n = ['0'] ∨ (Nat.toDigits 10 n).head? ≠ some '0' := by
  by_cases hn : n = 0
  · exact .inl (by rw [hn, Nat.toDigits_zero])
  · refine .inr fun h => ?_
    obtain ⟨tail, htail⟩ := List.head?_eq_some_iff.1 h
    exact toDigits_ne_zero_cons hn tail htail

theorem proper_ofNat (n : Nat) : (ofNat n).Proper := ⟨leading_toDigits n, by simp [ofNat]⟩

/-- So many units, of which `10 ^ places` are one. -/
def scaled (places n : Nat) : Numeral where
  whole := Nat.toDigits 10 (n / 10 ^ places)
  places := trimmedFraction places (n % 10 ^ places)
  whole_ne := Nat.toDigits_ne_nil
  whole_digits := fun _ => isDigit_toDigits
  places_digits := fun _ => isDigit_trimmedFraction

@[simp] theorem chars_scaled (places n : Nat) : (scaled places n).chars = writeScaled places n := by
  have hnil := trimmedFraction_eq_nil_iff (Nat.mod_lt n (by positivity : 10 ^ places > 0))
  unfold chars scaled writeScaled placesChars
  simp only [hnil, Nat.pow_eq]
  split <;> simp

@[simp] theorem value_scaled (places n : Nat) : (scaled places n).value = n / 10 ^ places := by
  have hvalue := placesValue_trimmedFraction (Nat.mod_lt n (by positivity : 10 ^ places > 0))
  have hsplit : (10 ^ places : Rat) * (n / 10 ^ places : Nat) + (n % 10 ^ places : Nat) = n := by
    exact_mod_cast Nat.div_add_mod n (10 ^ places)
  rw [value, scaled, hvalue, Nat.ofDigitChars_ten_toDigits]
  field_simp
  linarith

theorem proper_scaled (places n : Nat) : (scaled places n).Proper :=
  ⟨leading_toDigits _, getLast?_trimmedFraction _ _⟩

end Numeral

end Gatehouse.Text
