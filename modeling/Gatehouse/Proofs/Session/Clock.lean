import Mathlib.Data.Rat.Floor
import Gatehouse.Proofs.Number.Rounding
import Gatehouse.Session.Decode

/-! # Whole seconds on a clock that counts in doubles

What a clock shows is the nearest double to a count of microseconds. Below 2 ^ 33 seconds the
doubles are less than a microsecond apart, and the whole seconds are among them. So the clock
reaches a second at the very microsecond at which that second begins (`reached_iff`), and cutting
off the fraction gives the second that runs (`wholeSeconds_eq`), although neither reading is
exact. -/

namespace Gatehouse

namespace Binary64

/-- The integer part of what is not below 0 is its floor. -/
theorem trunc?_of_nonneg {x : Binary64} {q : ℚ} (hx : x.toRat? = some q) (hq : 0 ≤ q) :
    x.trunc? = some ⌊q⌋ := by
  cases x with
  | infinite negative => cases hx
  | notANumber => cases hx
  | finite negative m e =>
    -- the magnitude is cut as a quotient of naturals
    have hcut : ((if 0 ≤ e then m * Nat.pow 2 e.toNat else m / Nat.pow 2 (-e).toNat : ℕ) : ℤ) =
        ⌊(m : ℚ) * 2 ^ e⌋ := by
      split
      · rename_i he
        obtain ⟨k, rfl⟩ := Int.eq_ofNat_of_zero_le he
        have hnat : (m : ℚ) * 2 ^ (k : ℤ) = ((m * 2 ^ k : ℕ) : ℚ) := by
          push_cast
          rw [zpow_natCast]
        rw [hnat, Int.floor_natCast]
        rfl
      · rename_i he
        obtain ⟨k, hk⟩ := Int.eq_ofNat_of_zero_le (show 0 ≤ -e by omega)
        obtain rfl : e = -(k : ℤ) := by omega
        have hdiv : (m : ℚ) * 2 ^ (-(k : ℤ)) = (m : ℚ) / (2 ^ k : ℕ) := by
          rw [zpow_neg, zpow_natCast, ← div_eq_mul_inv]
          push_cast
          rfl
        rw [hdiv, Rat.floor_natCast_div_natCast, neg_neg]
        rfl
    rw [toRat?_finite, Option.some.injEq] at hx
    unfold trunc?
    simp only [hcut, Option.some.injEq]
    cases negative with
    | false => rw [← hx]; rfl
    | true =>
      have hzero : (m : ℚ) * 2 ^ e = 0 := by
        have hpos : 0 ≤ (m : ℚ) * 2 ^ e := by positivity
        simp only [if_true] at hx
        linarith
      rw [← hx, hzero]
      simp

/-- A whole number of at most 53 bits is a double. -/
theorem rounds_natCast {n : ℕ} {v : ℚ} (hn : 0 < n) (hbits : n < 2 ^ 53) (hv : Rounds n v) :
    v = n := by
  have hfits := fits_exponentFor n 1 hn one_pos
  rw [Nat.cast_one, div_one] at hfits
  set e := exponentFor n 1
  have he : e ≤ 0 := by
    rcases hfits.above with hmin | hnormal
    · rw [hmin]
      decide
    · have hlt : (n : ℚ) < 2 ^ (53 : ℤ) := by exact_mod_cast hbits
      have := (zpow_lt_zpow_iff_right₀ one_lt_two).1 (hnormal.trans_lt hlt)
      omega
  obtain ⟨k, hk⟩ := Int.eq_ofNat_of_zero_le (show 0 ≤ -e by omega)
  -- in steps of its exponent it is whole again
  have hwhole : (n : ℚ) / 2 ^ e = (n * 2 ^ k : ℕ) := by
    have hneg : e = -(k : ℤ) := by omega
    rw [hneg, zpow_neg, zpow_natCast, div_inv_eq_mul]
    push_cast
    rfl
  have hself : Rounds n n := by
    refine ⟨e, n * 2 ^ k, hfits, hwhole ▸ Closest.natCast _, ?_⟩
    rw [← hwhole, div_mul_cancel₀ _ (by positivity)]
  exact le_antisymm (hv.mono hself le_rfl) (hself.mono hv le_rfl)

theorem Rounds.le_add {q v : ℚ} {k : ℤ} (h : Rounds q v) (hk : minExponent ≤ k)
    (hq : q < 2 ^ (k + 53)) : v ≤ q + 2 ^ (k - 1) := by
  obtain ⟨e, m, hfits, hm, rfl⟩ := h
  have he : e ≤ k := by
    rcases hfits.above with hmin | hnormal
    · omega
    · have := (zpow_lt_zpow_iff_right₀ one_lt_two).1 (hnormal.trans_lt hq)
      omega
  have hpos : (0 : ℚ) < 2 ^ e := by positivity
  calc (m : ℚ) * 2 ^ e ≤ (q / 2 ^ e + 1 / 2) * 2 ^ e := by gcongr; exact hm.below
    _ = q + 2 ^ (e - 1) := by rw [zpow_sub_one₀ two_ne_zero]; field_simp
    _ ≤ q + 2 ^ (k - 1) := add_le_add le_rfl (two_zpow_le (by omega))

end Binary64

open Binary64

namespace SessionToken

/-- What the clock reads, in seconds. -/
def reading (micros : ℤ) : ℚ := (clockSeconds micros).toRat?.getD 0

/-- The seconds up to which the clock is exact to the microsecond. -/
def exactSeconds : ℤ := 2 ^ 33

/-- The clock is read as a rounded number, up to far beyond the year 9999. -/
theorem reading_spec {micros : ℤ} (hpos : 0 < micros) (hlast : micros < 2 ^ 100) :
    Rounds (micros / 1000000) (reading micros) ∧
      (clockSeconds micros).toRat? = some (reading micros) := by
  have hcast : ((micros.natAbs : ℕ) : ℚ) = micros := by
    have hnat : ((micros.natAbs : ℕ) : ℤ) = micros := by omega
    rw [← Int.cast_natCast, hnat]
  obtain ⟨v, hv, hr⟩ := ofRatio_spec false micros.natAbs 1000000 (by omega) (by decide)
  have hseconds : clockSeconds micros = ofRatio false micros.natAbs 1000000 := by
    unfold clockSeconds
    rw [decide_eq_false (by omega)]
  have hv' : Rounds (micros / 1000000) v := by
    rw [hcast] at hv
    exact_mod_cast hv
  have hbound : ¬ bound ≤ v := by
    have hlt : (micros : ℚ) < 2 ^ 100 := by exact_mod_cast hlast
    have hle := hv'.le_add (k := 47) (by decide) (by norm_num; linarith)
    have hfar : (2 : ℚ) ^ (101 : ℤ) ≤ bound := two_zpow_le (by decide)
    norm_num at hle hfar
    linarith
  rw [if_neg hbound] at hr
  have hread : reading micros = v := by
    unfold reading
    rw [hseconds, hr]
    rfl
  rw [hread, hseconds]
  exact ⟨hv', hr⟩

theorem reading_zero : (clockSeconds 0).toRat? = some 0 := by decide +kernel

/-- **A second is reached at the microsecond at which it begins.** -/
theorem reached_iff {micros n : ℤ} (h₀ : 0 ≤ micros) (hlast : micros < 2 ^ 100) (hn : 0 ≤ n)
    (hexact : n ≤ exactSeconds) : reached (reading micros) n = true ↔ n * 1000000 ≤ micros := by
  unfold reached
  rw [decide_eq_true_iff]
  rcases h₀.eq_or_lt with rfl | hpos
  · have hzero : reading 0 = 0 := by rw [reading, reading_zero]; rfl
    rw [hzero, Int.cast_nonpos]
    omega
  rcases hn.eq_or_lt with rfl | hn
  · obtain ⟨⟨e, m, -, -, hv⟩, -⟩ := reading_spec hpos hlast
    rw [hv]
    simp only [Int.cast_zero, zero_mul]
    exact iff_of_true (by positivity) h₀
  obtain ⟨hrounds, -⟩ := reading_spec hpos hlast
  constructor
  · intro hle
    by_contra hearly
    -- a microsecond early the clock is further from the second than it can be wrong
    have hgap : (micros : ℚ) + 1 ≤ n * 1000000 := by exact_mod_cast not_le.1 hearly
    have hcap : (n : ℚ) ≤ 2 ^ 33 := by exact_mod_cast hexact
    have herr := hrounds.le_add (k := -20) (by decide) (by norm_num; linarith)
    norm_num at herr
    linarith
  · intro hle
    obtain ⟨k, rfl⟩ := Int.eq_ofNat_of_zero_le hn.le
    have hk : 0 < k := by exact_mod_cast hn
    have hbits : k < 2 ^ 53 := by
      unfold exactSeconds at hexact
      have : (2 : ℤ) ^ 33 < 2 ^ 53 := by decide
      exact_mod_cast hexact.trans_lt this
    obtain ⟨v, hv, -⟩ := ofRatio_spec false k 1 hk one_pos
    rw [Nat.cast_one, div_one] at hv
    have hself := rounds_natCast hk hbits hv
    rw [hself] at hv
    refine hv.mono hrounds ?_
    rw [le_div_iff₀ (by norm_num)]
    exact_mod_cast hle

/-- **The fraction that is cut off is that of the second that runs.** -/
theorem wholeSeconds_eq {micros : ℤ} (h₀ : 0 ≤ micros) (hlast : micros ≤ exactSeconds * 1000000) :
    wholeSeconds micros = micros / 1000000 := by
  rcases hlast.eq_or_lt with rfl | hlast
  · decide +kernel
  have hfar : micros < 2 ^ 100 := by
    unfold exactSeconds at hlast
    omega
  have hread : (clockSeconds micros).toRat? = some (reading micros) := by
    rcases h₀.eq_or_lt with rfl | hpos
    · rw [reading, reading_zero]
      rfl
    · exact (reading_spec hpos hfar).2
  have hlow := (reached_iff h₀ hfar (n := micros / 1000000) (by omega) (by omega)).2 (by omega)
  have hhigh := mt (reached_iff h₀ hfar (n := micros / 1000000 + 1) (by omega) (by omega)).1
    (by omega)
  unfold reached at hlow hhigh
  rw [decide_eq_true_iff] at hlow hhigh
  have hfloor : ⌊reading micros⌋ = micros / 1000000 :=
    Int.floor_eq_iff.2 ⟨hlow, not_le.1 (by exact_mod_cast hhigh)⟩
  have hnonneg : 0 ≤ reading micros := by
    refine le_trans ?_ hlow
    exact_mod_cast Int.ediv_nonneg h₀ (by decide)
  unfold wholeSeconds
  rw [trunc?_of_nonneg hread hnonneg, hfloor]
  rfl

end SessionToken

end Gatehouse
