import Mathlib.Algebra.Order.Field.Power
import Mathlib.Data.Rat.Cast.Order
import Mathlib.Tactic.FieldSimp
import Mathlib.Tactic.Linarith
import Mathlib.Tactic.Positivity
import Mathlib.Tactic.Ring
import Gatehouse.Time.Moment

/-! # Rounding to the nearest double

`Moment.nearest` is monotone (`nearest_mono`) and leaves the doubles alone (`nearest_nearest`), and
so the moments of an event loop never run backwards, although each is rounded.

A positive quotient is rounded by choosing an exponent that `Fits` it, dividing by that power of
two, and taking the `Closest` natural number. Both choices are unique and monotone; the bounds of
a significand decide between two quotients whose exponents differ. -/

namespace Gatehouse

/-! ### The closest natural number -/

/-- No natural number is closer to `x` than `m`, and if another is as close then `m` is even. -/
structure Closest (x : ℚ) (m : ℕ) : Prop where
  above : x ≤ m + 1 / 2
  below : (m : ℚ) ≤ x + 1 / 2
  tie : x = m + 1 / 2 ∨ (m : ℚ) = x + 1 / 2 → m % 2 = 0

theorem Closest.natCast (m : ℕ) : Closest m m where
  above := by linarith
  below := by linarith
  tie h := by
    rcases h with h | h <;> linarith

theorem Closest.mono {x y : ℚ} {m n : ℕ} (hx : Closest x m) (hy : Closest y n) (h : x ≤ y) :
    m ≤ n := by
  by_contra hlt
  have hle : (n : ℚ) + 1 ≤ m := by exact_mod_cast Nat.lt_of_not_le hlt
  have hxm := hx.below
  have hyn := hy.above
  -- the two meet in the middle between neighbours, of which only one is even
  have ex : (m : ℚ) = x + 1 / 2 := by linarith
  have ey : y = n + 1 / 2 := by linarith
  have hn : (m : ℚ) = n + 1 := by linarith
  have hm := hx.tie (.inr ex)
  have hn' := hy.tie (.inl ey)
  have : m = n + 1 := by exact_mod_cast hn
  omega

theorem closest_roundHalfEven (num den : ℕ) (hd : 0 < den) :
    Closest ((num : ℚ) / den) (roundHalfEven num den) := by
  have hpos : (0 : ℚ) < den := by exact_mod_cast hd
  have hsplit : (num : ℚ) = den * (num / den : ℕ) + (num % den : ℕ) := by
    exact_mod_cast (Nat.div_add_mod num den).symm
  have hrest : num % den < den := Nat.mod_lt _ hd
  unfold roundHalfEven
  generalize num / den = q, num % den = r at *
  have hx : (num : ℚ) / den = q + r / den := by
    rw [hsplit]
    field_simp
  have hlow : (0 : ℚ) ≤ r / den := by positivity
  have hhigh : (r : ℚ) / den < 1 := by
    rw [div_lt_one hpos]
    exact_mod_cast hrest
  have hlt : 2 * r < den ↔ (r : ℚ) / den < 1 / 2 := by
    rw [div_lt_div_iff₀ hpos two_pos, one_mul, mul_comm (r : ℚ)]
    exact_mod_cast Iff.rfl
  have hgt : den < 2 * r ↔ (1 : ℚ) / 2 < r / den := by
    rw [div_lt_div_iff₀ two_pos hpos, one_mul, mul_comm (r : ℚ)]
    exact_mod_cast Iff.rfl
  rw [hx]
  dsimp only
  by_cases h₁ : 2 * r < den
  · have hf := hlt.1 h₁
    rw [if_pos h₁]
    exact ⟨by linarith, by linarith, fun h => by rcases h with h | h <;> linarith⟩
  by_cases h₂ : den < 2 * r
  · have hf := hgt.1 h₂
    rw [if_neg h₁, if_pos h₂]
    refine ⟨by push_cast; linarith, by push_cast; linarith, fun h => ?_⟩
    push_cast at h
    rcases h with h | h <;> linarith
  have hf : (r : ℚ) / den = 1 / 2 := by
    have := mt hlt.2 h₁
    have := mt hgt.2 h₂
    linarith
  rw [if_neg h₁, if_neg h₂]
  by_cases h₃ : q % 2 = 0
  · rw [if_pos h₃]
    exact ⟨by linarith, by linarith, fun _ => h₃⟩
  · rw [if_neg h₃]
    exact ⟨by push_cast; linarith, by push_cast; linarith, fun _ => by omega⟩

/-! ### The exponent -/

namespace Binary64

/-- The exponent of the doubles around `q`: their significands have 53 bits, or the exponent is the
finest of all. -/
structure Fits (q : ℚ) (e : ℤ) : Prop where
  least : minExponent ≤ e
  below : q < 2 ^ (e + 53)
  above : e = minExponent ∨ 2 ^ (e + 52) ≤ q

theorem two_zpow_le {a b : ℤ} (h : a ≤ b) : (2 : ℚ) ^ a ≤ 2 ^ b :=
  zpow_le_zpow_right₀ one_le_two h

theorem Fits.mono {p q : ℚ} {e f : ℤ} (hp : Fits p e) (hq : Fits q f) (h : p ≤ q) : e ≤ f := by
  by_contra hlt
  have hnormal : (2 : ℚ) ^ (e + 52) ≤ p := by
    rcases hp.above with he | he
    · have := hq.least
      omega
    · exact he
  have := two_zpow_le (a := f + 53) (b := e + 52) (by omega)
  have := hq.below
  linarith

theorem scaleDown_value (num den : ℕ) (hd : 0 < den) (e : ℤ) :
    0 < (scaleDown num den e).2 ∧
      ((scaleDown num den e).1 : ℚ) / (scaleDown num den e).2 = (num : ℚ) / den / 2 ^ e := by
  have hpos : (0 : ℚ) < den := by exact_mod_cast hd
  unfold scaleDown
  split
  · rename_i he
    refine ⟨Nat.mul_pos hd (Nat.pow_pos two_pos), ?_⟩
    obtain ⟨k, rfl⟩ := Int.eq_ofNat_of_zero_le he
    simp [div_div]
  · rename_i he
    refine ⟨hd, ?_⟩
    obtain ⟨k, hk⟩ := Int.eq_ofNat_of_zero_le (show 0 ≤ -e by omega)
    obtain rfl : e = -(k : ℤ) := by omega
    simp [zpow_neg]
    field_simp

/-- A quotient lies within a power of two of the quotient of the leading bits. -/
theorem log2_bounds (num den : ℕ) (hn : 0 < num) (hd : 0 < den) :
    (2 : ℚ) ^ ((num.log2 : ℤ) - den.log2 - 1) < (num : ℚ) / den ∧
      (num : ℚ) / den < 2 ^ ((num.log2 : ℤ) - den.log2 + 1) := by
  have hpos : (0 : ℚ) < den := by exact_mod_cast hd
  have hn₁ : (2 : ℚ) ^ (num.log2 : ℤ) ≤ num := by
    exact_mod_cast Nat.log2_self_le hn.ne'
  have hn₂ : (num : ℚ) < 2 ^ ((num.log2 : ℤ) + 1) := by
    exact_mod_cast Nat.lt_log2_self
  have hd₁ : (2 : ℚ) ^ (den.log2 : ℤ) ≤ den := by
    exact_mod_cast Nat.log2_self_le hd.ne'
  have hd₂ : (den : ℚ) < 2 ^ ((den.log2 : ℤ) + 1) := by
    exact_mod_cast Nat.lt_log2_self
  constructor
  · rw [lt_div_iff₀ hpos]
    calc (2 : ℚ) ^ ((num.log2 : ℤ) - den.log2 - 1) * den
        < 2 ^ ((num.log2 : ℤ) - den.log2 - 1) * 2 ^ ((den.log2 : ℤ) + 1) := by gcongr
      _ = 2 ^ (num.log2 : ℤ) := by rw [← zpow_add₀ two_ne_zero]; ring_nf
      _ ≤ num := hn₁
  · rw [div_lt_iff₀ hpos]
    calc (num : ℚ) < 2 ^ ((num.log2 : ℤ) + 1) := hn₂
      _ = 2 ^ ((num.log2 : ℤ) - den.log2 + 1) * 2 ^ (den.log2 : ℤ) := by
        rw [← zpow_add₀ two_ne_zero]; ring_nf
      _ ≤ 2 ^ ((num.log2 : ℤ) - den.log2 + 1) * den := by gcongr

theorem fits_exponentFor (num den : ℕ) (hn : 0 < num) (hd : 0 < den) :
    Fits ((num : ℚ) / den) (exponentFor num den) := by
  obtain ⟨hlow, hhigh⟩ := log2_bounds num den hn hd
  let guess : ℤ := (num.log2 : ℤ) - den.log2 - 52
  obtain ⟨hpos, hval⟩ := scaleDown_value num den hd guess
  let fit := if (scaleDown num den guess).1 < (scaleDown num den guess).2 * leastNormal
    then guess - 1 else guess
  -- apart from the finest exponent, the significand has 53 bits
  have hfit : (2 : ℚ) ^ (fit + 52) ≤ num / den ∧ (num : ℚ) / den < 2 ^ (fit + 53) := by
    have small : (scaleDown num den guess).1 < (scaleDown num den guess).2 * leastNormal ↔
        (num : ℚ) / den < 2 ^ (guess + 52) := by
      have hpos' : (0 : ℚ) < (scaleDown num den guess).2 := by exact_mod_cast hpos
      rw [zpow_add₀ two_ne_zero, ← div_lt_iff₀' (by positivity), ← hval, div_lt_iff₀' hpos']
      norm_num [leastNormal]
      exact_mod_cast Iff.rfl
    unfold fit
    split
    · rename_i h
      constructor
      · exact (two_zpow_le (by omega)).trans hlow.le
      · exact (small.1 h).trans_le (two_zpow_le (by omega))
    · rename_i h
      constructor
      · exact not_lt.1 (mt small.2 h)
      · exact hhigh.trans_le (two_zpow_le (by omega))
  have e : exponentFor num den = if fit < minExponent then minExponent else fit := rfl
  rw [e]
  split
  · rename_i h
    exact ⟨le_rfl, hfit.2.trans_le (two_zpow_le (by omega)), .inl rfl⟩
  · rename_i h
    exact ⟨by omega, hfit.2, .inr hfit.1⟩

/-! ### Rounding a positive number -/

/-- `v` is `q` rounded to 53 bits, or to fewer where the exponent can go no lower; there is no
bound above. -/
def Rounds (q v : ℚ) : Prop := ∃ e m, Fits q e ∧ Closest (q / 2 ^ e) m ∧ v = m * 2 ^ e

theorem Fits.significand_le {q : ℚ} {e : ℤ} {m : ℕ} (hq : Fits q e) (hm : Closest (q / 2 ^ e) m) :
    m ≤ 2 ^ 53 := by
  have hc := Closest.natCast (2 ^ 53)
  refine hm.mono hc ?_
  have hpos : (0 : ℚ) < 2 ^ e := by positivity
  rw [div_le_iff₀ hpos]
  have := hq.below
  rw [zpow_add₀ two_ne_zero] at this
  push_cast
  rw [mul_comm]
  exact_mod_cast this.le

theorem Fits.le_significand {q : ℚ} {e : ℤ} {m : ℕ} (hq : Fits q e) (hm : Closest (q / 2 ^ e) m)
    (he : e ≠ minExponent) : 2 ^ 52 ≤ m := by
  have hc := Closest.natCast (2 ^ 52)
  refine hc.mono hm ?_
  have hpos : (0 : ℚ) < 2 ^ e := by positivity
  rw [le_div_iff₀ hpos]
  have := hq.above.resolve_left he
  rw [zpow_add₀ two_ne_zero] at this
  push_cast
  rw [mul_comm]
  exact_mod_cast this

theorem Rounds.mono {p q v w : ℚ} (hp : Rounds p v) (hq : Rounds q w) (h : p ≤ q) : v ≤ w := by
  obtain ⟨e, m, hpe, hpm, rfl⟩ := hp
  obtain ⟨f, n, hqf, hqn, rfl⟩ := hq
  rcases (hpe.mono hqf h).eq_or_lt with rfl | hlt
  · have hmn : m ≤ n := hpm.mono hqn (by gcongr)
    gcongr
  · have hm : (m : ℚ) ≤ 2 ^ (53 : ℤ) := by exact_mod_cast hpe.significand_le hpm
    have hn : (2 : ℚ) ^ (52 : ℤ) ≤ n := by
      have := hpe.least
      exact_mod_cast hqf.le_significand hqn (by omega)
    calc (m : ℚ) * 2 ^ e ≤ 2 ^ (53 : ℤ) * 2 ^ e := by gcongr
      _ = 2 ^ (e + 53) := by rw [← zpow_add₀ two_ne_zero, add_comm]
      _ ≤ 2 ^ (f + 52) := two_zpow_le (by omega)
      _ = 2 ^ (52 : ℤ) * 2 ^ f := by rw [← zpow_add₀ two_ne_zero, add_comm]
      _ ≤ n * 2 ^ f := by gcongr

/-- What has been rounded is left alone. -/
theorem Rounds.idem {q v w : ℚ} (hq : Rounds q v) (hv : Rounds v w) : w = v := by
  obtain ⟨e, m, hqe, hqm, rfl⟩ := hq
  obtain ⟨f, n, hvf, hvn, rfl⟩ := hv
  -- the value is a whole number of steps of its own exponent
  have whole : ∃ k : ℕ, (m : ℚ) * 2 ^ e = k * 2 ^ f := by
    rcases le_or_gt f e with hle | hlt
    · obtain ⟨d, hd⟩ := Int.eq_ofNat_of_zero_le (show 0 ≤ e - f by omega)
      refine ⟨m * 2 ^ d, ?_⟩
      obtain rfl : e = d + f := by omega
      rw [zpow_add₀ two_ne_zero]
      push_cast
      rw [zpow_natCast]
      ring
    · have hm : (m : ℚ) ≤ 2 ^ (53 : ℤ) := by exact_mod_cast hqe.significand_le hqm
      have hnormal := hvf.above.resolve_left (by have := hqe.least; omega)
      have hfe : f = e + 1 := by
        have : (2 : ℚ) ^ (f + 52) ≤ 2 ^ (e + 53) :=
          calc (2 : ℚ) ^ (f + 52) ≤ m * 2 ^ e := hnormal
            _ ≤ 2 ^ (53 : ℤ) * 2 ^ e := by gcongr
            _ = 2 ^ (e + 53) := by rw [← zpow_add₀ two_ne_zero, add_comm]
        have := (zpow_le_zpow_iff_right₀ one_lt_two).1 this
        omega
      -- only a significand that was rounded up to a power of two reaches the next exponent
      refine ⟨2 ^ 52, ?_⟩
      have hpow : (2 : ℚ) ^ (f + 52) = (2 ^ 52 : ℕ) * 2 ^ f := by
        rw [zpow_add₀ two_ne_zero]
        norm_num [mul_comm]
      rw [← hpow]
      refine le_antisymm ?_ hnormal
      calc (m : ℚ) * 2 ^ e ≤ 2 ^ (53 : ℤ) * 2 ^ e := by gcongr
        _ = 2 ^ (f + 52) := by rw [← zpow_add₀ two_ne_zero, hfe]; ring_nf
  obtain ⟨k, hk⟩ := whole
  have hn : n = k := by
    rw [hk, mul_div_assoc, div_self (by positivity), mul_one] at hvn
    exact le_antisymm (hvn.mono (.natCast k) le_rfl) ((Closest.natCast k).mono hvn le_rfl)
  rw [hn, hk]

/-! ### The value of a rounded number -/

/-- The least number out of reach of the doubles. -/
def bound : ℚ := 2 ^ (1024 : ℤ)

theorem toRat?_finite (negative : Bool) (m : ℕ) (e : ℤ) :
    (finite negative m e).toRat? =
      some (if negative then -((m : ℚ) * 2 ^ e) else (m : ℚ) * 2 ^ e) := by
  have hval : (if 0 ≤ e then ((m * Nat.pow 2 e.toNat : ℕ) : ℚ)
      else mkRat m (Nat.pow 2 (-e).toNat)) = m * 2 ^ e := by
    split
    · rename_i he
      obtain ⟨k, rfl⟩ := Int.eq_ofNat_of_zero_le he
      simp
    · rename_i he
      obtain ⟨k, hk⟩ := Int.eq_ofNat_of_zero_le (show 0 ≤ -e by omega)
      obtain rfl : e = -(k : ℤ) := by omega
      rw [Rat.mkRat_eq_div]
      simp [zpow_neg, div_eq_mul_inv]
  unfold toRat?
  simp only [hval]

theorem toRat?_pack_carry (negative : Bool) {q : ℚ} {e : ℤ} {m : ℕ} (hq : Fits q e)
    (hm : Closest (q / 2 ^ e) m) :
    (pack negative (carry m e)).toRat? =
      if bound ≤ m * 2 ^ e then none
      else some (if negative then -((m : ℚ) * 2 ^ e) else (m : ℚ) * 2 ^ e) := by
  have hleast : leastNormal = 2 ^ 52 := rfl
  by_cases hup : m = 2 * leastNormal
  · have hc : carry m e = (leastNormal, e + 1) := if_pos hup
    have hv : (m : ℚ) * 2 ^ e = (leastNormal : ℕ) * 2 ^ (e + 1) := by
      rw [hup, zpow_add₀ two_ne_zero]
      push_cast
      ring
    have hreach : bound ≤ (m : ℚ) * 2 ^ e ↔ maxExponent < e + 1 := by
      have hpow : (m : ℚ) * 2 ^ e = 2 ^ (e + 53) := by
        rw [hup, hleast, zpow_add₀ two_ne_zero, mul_comm]
        norm_num
      unfold bound maxExponent
      rw [hpow, zpow_le_zpow_iff_right₀ one_lt_two]
      omega
    rw [hc, pack]
    by_cases h : maxExponent < e + 1
    · rw [if_pos (hreach.2 h), if_pos h]
      rfl
    · rw [if_neg (mt hreach.1 h), if_neg h, hv]
      exact toRat?_finite ..
  · have hc : carry m e = (m, e) := if_neg hup
    have hreach : bound ≤ (m : ℚ) * 2 ^ e ↔ maxExponent < e := by
      unfold bound maxExponent
      constructor
      · intro hle
        have hlt : (m : ℚ) < 2 ^ (53 : ℤ) := by
          have : m < 2 ^ 53 := lt_of_le_of_ne (hq.significand_le hm) (by omega)
          exact_mod_cast this
        have : (2 : ℚ) ^ (1024 : ℤ) < 2 ^ (e + 53) :=
          calc (2 : ℚ) ^ (1024 : ℤ) ≤ m * 2 ^ e := hle
            _ < 2 ^ (53 : ℤ) * 2 ^ e := by gcongr
            _ = 2 ^ (e + 53) := by rw [← zpow_add₀ two_ne_zero, add_comm]
        have := (zpow_lt_zpow_iff_right₀ one_lt_two).1 this
        omega
      · intro hlt
        have hle : (2 : ℚ) ^ (52 : ℤ) ≤ m := by
          have := hq.le_significand hm (by unfold minExponent; omega)
          exact_mod_cast this
        calc (2 : ℚ) ^ (1024 : ℤ) ≤ 2 ^ (e + 52) := two_zpow_le (by omega)
          _ = 2 ^ (52 : ℤ) * 2 ^ e := by rw [← zpow_add₀ two_ne_zero, add_comm]
          _ ≤ m * 2 ^ e := by gcongr
    rw [hc, pack]
    by_cases h : maxExponent < e
    · rw [if_pos (hreach.2 h), if_pos h]
      rfl
    · rw [if_neg (mt hreach.1 h), if_neg h]
      exact toRat?_finite ..

theorem toRat?_ofRatio_not (negative : Bool) (num den : ℕ) :
    (ofRatio (!negative) num den).toRat? = (ofRatio negative num den).toRat?.map (- ·) := by
  have flip : ∀ m e, (finite (!negative) m e).toRat? = (finite negative m e).toRat?.map (- ·) := by
    intro m e
    rw [toRat?_finite, toRat?_finite]
    cases negative <;> simp
  have flip' : ∀ c, (pack (!negative) c).toRat? = (pack negative c).toRat?.map (- ·) := by
    intro c
    unfold pack
    split
    · rfl
    · exact flip c.1 c.2
  unfold ofRatio
  split
  · exact flip 0 minExponent
  · exact flip' _

theorem ofRatio_spec (negative : Bool) (num den : ℕ) (hn : 0 < num) (hd : 0 < den) :
    ∃ v, Rounds ((num : ℚ) / den) v ∧
      (ofRatio negative num den).toRat? =
        if bound ≤ v then none else some (if negative then -v else v) := by
  have hfits := fits_exponentFor num den hn hd
  obtain ⟨hpos, hval⟩ := scaleDown_value num den hd (exponentFor num den)
  have hm := closest_roundHalfEven (scaleDown num den (exponentFor num den)).1 _ hpos
  rw [hval] at hm
  refine ⟨_, ⟨_, _, hfits, hm, rfl⟩, ?_⟩
  rw [← toRat?_pack_carry negative hfits hm, ofRatio, if_neg (by omega)]

end Binary64

/-! ### Moments -/

namespace Moment

open Binary64

theorem nearest_zero : nearest 0 = 0 := by decide +kernel

/-- A positive number is rounded, unless that would be out of reach. -/
theorem nearest_spec {q : ℚ} (hq : 0 < q) :
    ∃ v, Rounds q v ∧ nearest q = if bound ≤ v then q else v := by
  have hnum : 0 < q.num := Rat.num_pos.2 hq
  obtain ⟨v, hv, hr⟩ := ofRatio_spec false q.num.natAbs q.den (by omega) q.den_pos
  have habs : ((q.num.natAbs : ℕ) : ℚ) / q.den = q := by
    have : ((q.num.natAbs : ℕ) : ℤ) = q.num := by omega
    rw [← Int.cast_natCast, this]
    exact q.num_div_den
  rw [habs] at hv
  refine ⟨v, hv, ?_⟩
  have hsign : decide (q.num < 0) = false := by
    rw [decide_eq_false_iff_not]
    omega
  unfold nearest ofRat
  rw [hsign, hr]
  split <;> rfl

theorem nearest_neg (q : ℚ) : nearest (-q) = -nearest q := by
  rcases eq_or_ne q 0 with rfl | hq
  · rw [neg_zero, nearest_zero, neg_zero]
  · have hnum : q.num ≠ 0 := by simpa using hq
    have hflip : decide (-q.num < 0) = !decide (q.num < 0) := by
      rw [← decide_not, decide_eq_decide]
      omega
    unfold nearest ofRat
    rw [Rat.num_neg_eq_neg_num, Rat.neg_den, Int.natAbs_neg, hflip, toRat?_ofRatio_not]
    cases (ofRatio (decide (q.num < 0)) q.num.natAbs q.den).toRat? <;> rfl

theorem nearest_nonneg {q : ℚ} (hq : 0 ≤ q) : 0 ≤ nearest q := by
  rcases hq.eq_or_lt with rfl | hq
  · exact nearest_zero.ge
  · obtain ⟨v, ⟨e, m, _, _, rfl⟩, h⟩ := nearest_spec hq
    rw [h]
    split
    · exact hq.le
    · positivity

theorem nearest_nearest_of_pos {q : ℚ} (hq : 0 < q) : nearest (nearest q) = nearest q := by
  obtain ⟨v, hv, h⟩ := nearest_spec hq
  by_cases hb : bound ≤ v
  · rw [h, if_pos hb, h, if_pos hb]
  · rw [h, if_neg hb]
    have hpos : 0 ≤ v := by
      have := nearest_nonneg hq.le
      rwa [h, if_neg hb] at this
    rcases hpos.eq_or_lt with rfl | hpos
    · exact nearest_zero
    · obtain ⟨w, hw, h'⟩ := nearest_spec hpos
      have := hv.idem hw
      rw [h', this, if_neg hb]

/-- What has been rounded is left alone. -/
theorem nearest_nearest (q : ℚ) : nearest (nearest q) = nearest q := by
  rcases lt_trichotomy q 0 with hq | rfl | hq
  · have := nearest_nearest_of_pos (neg_pos.2 hq)
    rwa [nearest_neg, nearest_neg, neg_inj] at this
  · rw [nearest_zero, nearest_zero]
  · exact nearest_nearest_of_pos hq

theorem nearest_mono_of_pos {p q : ℚ} (hp : 0 < p) (h : p ≤ q) : nearest p ≤ nearest q := by
  obtain ⟨v, hv, ep⟩ := nearest_spec hp
  obtain ⟨w, hw, eq⟩ := nearest_spec (hp.trans_le h)
  have hvw := hv.mono hw h
  rw [ep, eq]
  by_cases hbw : bound ≤ w
  · rw [if_pos hbw]
    split
    · exact h
    · rename_i hbv
      -- otherwise `q` would be rounded to at most `v`, which is in reach
      by_contra hlt
      have hv0 : 0 < v := (hp.trans_le h).trans (not_le.1 hlt)
      obtain ⟨u, hu, _⟩ := nearest_spec hv0
      have := hw.mono hu (not_le.1 hlt).le
      rw [hv.idem hu] at this
      exact hbv (hbw.trans this)
  · rw [if_neg hbw, if_neg (fun hbv => hbw (hbv.trans hvw))]
    exact hvw

/-- **Rounding is monotone.** -/
theorem nearest_mono {p q : ℚ} (h : p ≤ q) : nearest p ≤ nearest q := by
  have nonpos : ∀ {r : ℚ}, r ≤ 0 → nearest r ≤ 0 := by
    intro r hr
    have := nearest_nonneg (neg_nonneg.2 hr)
    rw [nearest_neg] at this
    linarith
  rcases lt_or_ge 0 p with hp | hp
  · exact nearest_mono_of_pos hp h
  rcases le_or_gt 0 q with hq | hq
  · exact (nonpos hp).trans (nearest_nonneg hq)
  · have := nearest_mono_of_pos (neg_pos.2 hq) (neg_le_neg h)
    rw [nearest_neg, nearest_neg] at this
    linarith

theorem nearest_after (t s : ℚ) : nearest (after t s) = after t s := nearest_nearest _

theorem le_after {t s : ℚ} (ht : nearest t = t) (hs : 0 ≤ s) : t ≤ after t s := by
  have := nearest_mono (show t ≤ t + s by linarith)
  rwa [ht] at this

theorem soon_mono {t u : ℚ} (h : t ≤ u) : soon t ≤ soon u :=
  nearest_mono (by linarith)

end Moment

end Gatehouse
