import Gatehouse.Session.Issue

/-! # Which moments a timestamp can show

The wall clock in universal time has four digits of year, so it shows the microseconds of the
years 1 to 9999 and no others (`ofMicros?_isSome_iff`). That every day in between gets a date is
the point of `ofDays_valid`: the days left over after whole cycles fall within the year, and the
one that would not, the 366th, falls in a leap year. -/

namespace Gatehouse

namespace Calendar

theorem daysBeforeMonth_end (year : Nat) :
    daysBeforeMonth year 13 = if isLeap year then 366 else 365 := by
  simp only [daysBeforeMonth, daysInMonth]
  split <;> rfl

/-- A day within the year is looked for among the months that are left, and found in one. -/
theorem monthAndDay_valid (year left month day : Nat) (hm : 1 ≤ month) (hl : month + left = 12)
    (hd : daysBeforeMonth year month + day < daysBeforeMonth year 13) :
    (1 ≤ (monthAndDay year left month day).1 ∧ (monthAndDay year left month day).1 ≤ 12) ∧
      1 ≤ (monthAndDay year left month day).2 ∧
      (monthAndDay year left month day).2 ≤
        daysInMonth year (monthAndDay year left month day).1 := by
  induction left generalizing month day with
  | zero =>
    obtain rfl : month = 12 := by omega
    have hlast : daysBeforeMonth year 13 = daysBeforeMonth year 12 + daysInMonth year 12 := rfl
    exact ⟨⟨hm, Nat.le_refl 12⟩, Nat.le_add_left 1 day, by simp only [monthAndDay]; omega⟩
  | succ left ih =>
    unfold monthAndDay
    split
    · rename_i hday
      exact ⟨⟨hm, by omega⟩, Nat.le_add_left 1 day, hday⟩
    · rename_i hday
      have hnext : daysBeforeMonth year (month + 1) =
          daysBeforeMonth year month + daysInMonth year month := by
        obtain ⟨k, rfl⟩ : ∃ k, month = k + 1 := ⟨month - 1, by omega⟩
        rfl
      exact ih (month + 1) _ (by omega) (by omega) (by omega)

theorem ofDays_year (days : Nat) : 1 ≤ (ofDays days).1 ∧
    ((ofDays days).1 ≤ 9999 ↔ days < 3652059) := by
  simp only [ofDays]
  generalize hr : days % 146097 = r
  -- the century within the cycle is settled first, for then the rest is linear
  obtain h | h | h | h : r / 36524 = 0 ∨ r / 36524 = 1 ∨ r / 36524 = 2 ∨ 3 ≤ r / 36524 := by omega
  all_goals
    obtain ⟨c, hc⟩ : ∃ c, min (r / 36524) 3 = c := ⟨_, rfl⟩
    rw [hc]
    omega

/-- Every day gets a date. -/
theorem ofDays_valid (days : Nat) :
    (1 ≤ (ofDays days).2.1 ∧ (ofDays days).2.1 ≤ 12) ∧
      1 ≤ (ofDays days).2.2 ∧
      (ofDays days).2.2 ≤ daysInMonth (ofDays days).1 (ofDays days).2.1 := by
  refine monthAndDay_valid _ 11 1 _ (Nat.le_refl 1) rfl ?_
  rw [daysBeforeMonth_end]
  simp only [daysBeforeMonth, isLeap, Bool.and_eq_true, Bool.or_eq_true, beq_iff_eq, bne_iff_ne]
  split <;> omega

end Calendar

namespace CivilTime

/-- The first microsecond of the year 1. -/
def firstMicros : Int := -62135596800000000

/-- The first microsecond after the year 9999. -/
def endMicros : Int := 253402300800000000

/-- A wall clock shows the years 1 to 9999. -/
theorem ofMicros?_isSome_iff (us : Int) :
    (ofMicros? us).isSome ↔ firstMicros ≤ us ∧ us < endMicros := by
  have hyear := Calendar.ofDays_year (us / 86400000000 + Calendar.epochDays).toNat
  have hdate := Calendar.ofDays_valid (us / 86400000000 + Calendar.epochDays).toNat
  have hepoch : (Calendar.epochDays : Int) = 719162 := rfl
  unfold ofMicros? firstMicros endMicros
  by_cases hday : us / 86400000000 + Calendar.epochDays < 0
  · rw [if_pos hday]
    simp only [Option.isSome_none, Bool.false_eq_true, false_iff]
    omega
  · rw [if_neg hday]
    generalize Calendar.ofDays (us / 86400000000 + Calendar.epochDays).toNat = date
      at hyear hdate ⊢
    obtain ⟨year, month, day⟩ := date
    dsimp only at hyear hdate ⊢
    split
    · rename_i hvalid
      have hlast := hyear.2.1 hvalid.1.2
      simp only [Option.isSome_some, true_iff]
      omega
    · rename_i hinvalid
      simp only [Option.isSome_none, Bool.false_eq_true, false_iff]
      rintro ⟨hfirst, hlast⟩
      refine hinvalid ⟨⟨hyear.1, hyear.2.2 (by omega)⟩, hdate.1, hdate.2, ?_⟩
      dsimp only
      omega

end CivilTime

namespace UtcTime

theorem bounds (t : UtcTime) : CivilTime.firstMicros ≤ t.micros ∧ t.micros < CivilTime.endMicros :=
  (CivilTime.ofMicros?_isSome_iff t.micros).1 t.shown

theorem ofMicros?_eq_some {us : Int} {t : UtcTime} (h : ofMicros? us = some t) : t.micros = us := by
  unfold ofMicros? at h
  split at h
  · rw [← Option.some.inj h]
  · cases h

theorem exists_ofMicros? {us : Int} (h : CivilTime.firstMicros ≤ us ∧ us < CivilTime.endMicros) :
    ∃ t, ofMicros? us = some t ∧ t.micros = us :=
  ⟨⟨us, (CivilTime.ofMicros?_isSome_iff us).2 h⟩, dif_pos _, rfl⟩

end UtcTime

namespace SessionToken

theorem moment_ok {now expires : UtcTime} {ttl : Duration} (h : moment now ttl = .ok expires) :
    expires.micros = now.micros + ttl.micros := by
  unfold moment at h
  split at h
  · rename_i t ht
    obtain rfl := Except.ok.inj h
    exact UtcTime.ofMicros?_eq_some ht
  · cases h

theorem exists_moment {now : UtcTime} {ttl : Duration}
    (h : CivilTime.firstMicros ≤ now.micros + ttl.micros ∧
      now.micros + ttl.micros < CivilTime.endMicros) :
    ∃ expires, moment now ttl = .ok expires ∧ expires.micros = now.micros + ttl.micros := by
  obtain ⟨t, ht, hmicros⟩ := UtcTime.exists_ofMicros? h
  refine ⟨t, ?_, hmicros⟩
  unfold moment
  rw [ht]

end SessionToken

end Gatehouse
