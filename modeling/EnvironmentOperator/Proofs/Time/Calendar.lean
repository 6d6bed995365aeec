import EnvironmentOperator.Time.Calendar
/-!
The date of a day is a date of the calendar and counts back to that day. A day of an era is split into its century
`d`, the leap cycle `k` of the century and the day `s` of the cycle, which the estimate of the year respects. A later
day is in no earlier year.
-/
namespace EnvironmentOperator.Calendar

theorem yearOfEra_of_cycle {d k s : Int} (hd : 0 ≤ d ∧ d ≤ 3) (hk : 0 ≤ k ∧ k ≤ 24) (hs : 0 ≤ s ∧ s ≤ 1460)
    {n : Int} (hn : n = 36524 * d + 1461 * k + s) (hlt : n < 146096) (hcent : n / 36524 = d) :
    ∃ i, 0 ≤ i ∧ i ≤ 3 ∧ 365 * i ≤ s ∧ s ≤ 365 * i + 365 ∧ (s = 365 * i + 365 → i = 3) ∧
      (n - n / 1460 + n / 36524 - n / 146096) / 365 = 100 * d + 4 * k + i := by
  have hlast : n / 146096 = 0 := by omega
  have hleaps : n / 1460 = 25 * d + k + (24 * d + k + s) / 1460 := by omega
  rw [hlast, hleaps, hcent]
  have hbound : 24 * d + k + s < 1460 ∨ 1460 ≤ 24 * d + k + s ∧ 24 * d + k + s < 2920 := by omega
  clear hlast hleaps hcent hlt
  subst hn
  rcases hbound with h | h
  · have hzero : (24 * d + k + s) / 1460 = 0 := by omega
    rw [hzero]
    refine ⟨s / 365, ?_⟩
    omega
  · have hone : (24 * d + k + s) / 1460 = 1 := by omega
    rw [hone]
    exact ⟨3, by omega⟩

theorem dayOfYear_of_cycle {d k s i : Int} (hk : 0 ≤ k ∧ k ≤ 24) (hi : 0 ≤ i ∧ i ≤ 3)
    {n y : Int} (hn : n = 36524 * d + 1461 * k + s) (hy : y = 100 * d + 4 * k + i) :
    n - (365 * y + y / 4 - y / 100) = s - 365 * i := by
  have hquarter : y / 4 = 25 * d + k := by omega
  have hcent : y / 100 = d := by omega
  rw [hquarter, hcent]
  omega

theorem cycle_bounds {n : Int} (h0 : 0 ≤ n) (h1 : n < 146096) :
    (0 ≤ n / 36524 ∧ n / 36524 ≤ 3) ∧ (0 ≤ n % 36524 / 1461 ∧ n % 36524 / 1461 ≤ 24) ∧
      (0 ≤ n % 36524 % 1461 ∧ n % 36524 % 1461 ≤ 1460) ∧
      n = 36524 * (n / 36524) + 1461 * (n % 36524 / 1461) + n % 36524 % 1461 := by
  omega

/-- The last cycle of a century has no leap day, unless the century is the last of its era. -/
theorem cycle_of_last {n : Int} (hs : n % 36524 % 1461 = 1460) :
    n % 36524 / 1461 ≤ 23 := by
  omega

theorem isLeap_iff {year : Int} : isLeap year = true ↔ year % 4 = 0 ∧ (year % 100 ≠ 0 ∨ year % 400 = 0) := by
  simp [isLeap]

theorem yearOfEra_bounds {n y : Int} (h0 : 0 ≤ n) (h1 : n < 146097)
    (hy : y = (n - n / 1460 + n / 36524 - n / 146096) / 365) :
    (0 ≤ y ∧ y ≤ 399) ∧ 0 ≤ n - (365 * y + y / 4 - y / 100) ∧ n - (365 * y + y / 4 - y / 100) ≤ 365 ∧
      (n - (365 * y + y / 4 - y / 100) = 365 → ∀ era, isLeap (y + 1 + era * 400) = true) := by
  have hend : n < 146096 ∨ n = 146096 := by omega
  rcases hend with hlt | rfl
  · obtain ⟨hd, hk, hs, hn⟩ := cycle_bounds h0 hlt
    obtain ⟨i, hi0, hi3, hlow, hhigh, hleap, hyear⟩ := yearOfEra_of_cycle hd hk hs hn hlt rfl
    rw [dayOfYear_of_cycle hk ⟨hi0, hi3⟩ hn (hy.trans hyear)]
    refine ⟨by omega, by omega, by omega, ?_⟩
    intro hday era
    have hi : i = 3 := hleap (by omega)
    have hk23 := cycle_of_last (n := n) (by omega)
    rw [isLeap_iff]
    rw [hi] at hyear
    rw [← hy] at hyear
    clear hn hs hlow hhigh hday hleap hy hlt h0 h1
    omega
  · have hyear : y = 399 := hy
    subst hyear
    refine ⟨by decide, by decide, by decide, ?_⟩
    intro _ era
    rw [isLeap_iff]
    omega

theorem toDays_of_shifted (era : Int) {yoe m d : Int} (hy : 0 ≤ yoe ∧ yoe ≤ 399) (hm : 0 ≤ m ∧ m ≤ 11) (hd : 1 ≤ d) :
    let month := if m < 10 then m + 3 else m - 9
    let year := yoe + era * 400
    (Date.mk (if month ≤ 2 then year + 1 else year) month.toNat d.toNat).toDays =
      era * 146097 + (yoe * 365 + yoe / 4 - yoe / 100) + ((153 * m + 2) / 5 + d - 1) - 719468 := by
  intro month year
  have hera : year / 400 = era := by omega
  have hyoe : year % 400 = yoe := by omega
  by_cases hlate : m < 10
  · have hmonth : month = m + 3 := if_pos hlate
    have hnat : ¬month.toNat ≤ 2 := by omega
    have hint : ¬month ≤ 2 := by omega
    simp only [Date.toDays, if_neg hnat, if_neg hint, hera, hyoe]
    omega
  · have hmonth : month = m - 9 := if_neg hlate
    have hnat : month.toNat ≤ 2 := by omega
    have hint : month ≤ 2 := by omega
    simp only [Date.toDays, if_pos hnat, if_pos hint, Int.add_sub_cancel, hera, hyoe]
    omega

theorem shifted_bounds {doy : Int} (h0 : 0 ≤ doy) (h1 : doy ≤ 365) :
    (0 ≤ (5 * doy + 2) / 153 ∧ (5 * doy + 2) / 153 ≤ 11) ∧
      1 ≤ doy - (153 * ((5 * doy + 2) / 153) + 2) / 5 + 1 := by
  omega

theorem toDays_ofDays (days : Int) : (Date.ofDays days).toDays = days := by
  have hera := Int.emod_add_mul_ediv (days + 719468) 146097
  have hn0 := Int.emod_nonneg (days + 719468) (show (146097 : Int) ≠ 0 by decide)
  have hn1 := Int.emod_lt_of_pos (days + 719468) (show (0 : Int) < 146097 by decide)
  obtain ⟨hyear, hd0, hd1, -⟩ := yearOfEra_bounds hn0 hn1 rfl
  obtain ⟨hm, hday⟩ := shifted_bounds hd0 hd1
  have hshift := toDays_of_shifted ((days + 719468) / 146097) hyear hm hday
  simp only [Date.ofDays]
  refine hshift.trans ?_
  clear hshift hm hday hd0 hd1 hyear hn0 hn1
  generalize (days + 719468) % 146097 = n at *
  generalize (days + 719468) / 146097 = era at *
  generalize (n - n / 1460 + n / 36524 - n / 146096) / 365 = y at *
  have hdoy : 365 * y + y / 4 - y / 100 = y * 365 + y / 4 - y / 100 := by rw [Int.mul_comm]
  rw [hdoy]
  generalize y * 365 + y / 4 - y / 100 = before at *
  generalize (153 * ((5 * (n - before) + 2) / 153) + 2) / 5 = start
  omega

theorem le_daysIn (year : Int) (month : Nat) : 28 ≤ daysIn year month := by
  unfold daysIn
  split
  · split <;> omega
  · split <;> omega

theorem daysIn_le (year : Int) (month : Nat) : daysIn year month ≤ 31 := by
  unfold daysIn
  split
  · split <;> omega
  · split <;> omega

theorem day_le_daysIn {doy year : Int} (h0 : 0 ≤ doy) (h1 : doy ≤ 365)
    (hleap : doy = 365 → isLeap (year + 1) = true) :
    let m := (5 * doy + 2) / 153
    let month := if m < 10 then m + 3 else m - 9
    (1 ≤ month.toNat ∧ month.toNat ≤ 12) ∧
      1 ≤ (doy - (153 * m + 2) / 5 + 1).toNat ∧
        (doy - (153 * m + 2) / 5 + 1).toNat ≤ daysIn (if month ≤ 2 then year + 1 else year) month.toNat := by
  intro m month
  have hm : m = 0 ∨ m = 1 ∨ m = 2 ∨ m = 3 ∨ m = 4 ∨ m = 5 ∨ m = 6 ∨ m = 7 ∨ m = 8 ∨ m = 9 ∨ m = 10 ∨ m = 11 := by
    omega
  have hlow : 153 * m ≤ 5 * doy + 2 := by omega
  have hhigh : 5 * doy + 2 < 153 * m + 153 := by omega
  have hmonth : month = if m < 10 then m + 3 else m - 9 := rfl
  clear_value m month
  rcases hm with rfl | rfl | rfl | rfl | rfl | rfl | rfl | rfl | rfl | rfl | rfl | rfl <;> subst hmonth
  case inr.inr.inr.inr.inr.inr.inr.inr.inr.inr.inr =>
    refine ⟨by decide, by omega, ?_⟩
    by_cases hday : doy = 365
    · simp [daysIn, hleap hday]
      omega
    · refine Nat.le_trans ?_ (le_daysIn _ _)
      omega
  all_goals
    refine ⟨by decide, by omega, ?_⟩
    simp [daysIn]
    omega

theorem ofDays_valid (days : Int) : (Date.ofDays days).Valid := by
  have hn0 := Int.emod_nonneg (days + 719468) (show (146097 : Int) ≠ 0 by decide)
  have hn1 := Int.emod_lt_of_pos (days + 719468) (show (0 : Int) < 146097 by decide)
  obtain ⟨-, hd0, hd1, hleap⟩ := yearOfEra_bounds hn0 hn1 rfl
  obtain ⟨hmonth, hday⟩ := day_le_daysIn hd0 hd1 fun h => by
    have := hleap h ((days + 719468) / 146097)
    rwa [Int.add_right_comm] at this
  exact ⟨hmonth.1, hmonth.2, hday⟩

section NewYear

variable {d e : Date}

theorem newYear_le (h : d.Valid) : (Date.mk d.year 1 1).toDays ≤ d.toDays := by
  obtain ⟨hmonth, hmonth', hday, -⟩ := h
  simp only [Date.toDays]
  split <;> omega

theorem lt_newYear (h : d.Valid) : d.toDays < (Date.mk (d.year + 1) 1 1).toDays := by
  obtain ⟨hmonth, hmonth', -, hday⟩ := h
  have hday31 := Nat.le_trans hday (daysIn_le _ _)
  simp only [Date.toDays]
  split <;> omega

theorem newYear_mono {y y' : Int} (h : y ≤ y') : (Date.mk y 1 1).toDays ≤ (Date.mk y' 1 1).toDays := by
  simp only [Date.toDays]
  omega

theorem year_le_of_toDays_le (hd : d.Valid) (he : e.Valid) (h : d.toDays ≤ e.toDays) : d.year ≤ e.year := by
  refine Int.not_lt.1 fun hlater => ?_
  have hbefore := lt_newYear he
  have hnext : (Date.mk (e.year + 1) 1 1).toDays ≤ (Date.mk d.year 1 1).toDays := newYear_mono (by omega)
  have hafter := newYear_le hd
  omega

end NewYear

end EnvironmentOperator.Calendar
