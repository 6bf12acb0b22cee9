import Mathlib.Order.SuccPred.Basic
import Mathlib.Tactic.IntervalCases
import RbhTrade.Lib.GoTime

/-!
# Civil dates and day numbers

`civilOfDays` and `daysOfCivil` convert between day numbers and dates of the proleptic Gregorian
calendar. The date of a day is a valid one and has that day as its number
(`daysOfCivil_civilOfDays`), and earlier dates have smaller numbers (`daysOfCivil_lt`); so dates,
read year first, sort like the days they name.

Both functions count years from March, in eras of 400 years, so that a leap day is the last day
of its year.
-/

namespace GoTime

/-! ## Years of an era -/

/-- The first day of a year of the era, counted from the first day of the era. -/
def eraYearStart (y : Int) : Int := 365 * y + y / 4 - y / 100

/-- The year of the era that `civilOfDays` finds for a day of the era. -/
def yearOfEra (n : Int) : Int := (n - n / 1460 + n / 36524 - n / 146096) / 365

theorem yearOfEra_mono {m n : Int} (h : m ≤ n) : yearOfEra m ≤ yearOfEra n := by
  refine monotone_int_of_le_succ (fun k => ?_) h
  unfold yearOfEra
  refine Int.ediv_le_ediv (by decide) ?_
  omega

/-- The formula is right on the first day of each year and has not reached the year on the day
before; monotonicity gives the days between. -/
theorem yearOfEra_eraYearStart : ∀ y < 400, yearOfEra (eraYearStart (y : Nat)) = y ∧
    (y = 0 ∨ yearOfEra (eraYearStart y - 1) < y) := by
  decide +kernel

theorem yearOfEra_bounds {n : Int} (h0 : 0 ≤ n) (h : n < 146097) :
    0 ≤ yearOfEra n ∧ yearOfEra n < 400 := by
  have hlo : yearOfEra 0 ≤ yearOfEra n := yearOfEra_mono h0
  have hhi : yearOfEra n ≤ yearOfEra 146096 := yearOfEra_mono (by omega)
  have hfirst : yearOfEra 0 = 0 := by decide
  have hlast : yearOfEra 146096 = 399 := by decide
  omega

theorem eraYearStart_yearOfEra_le {n : Int} (h0 : 0 ≤ n) (h : n < 146097) :
    eraYearStart (yearOfEra n) ≤ n := by
  obtain ⟨hy0, hy⟩ := yearOfEra_bounds h0 h
  obtain ⟨y, hye⟩ := Int.eq_ofNat_of_zero_le hy0
  by_contra hlt
  rw [hye] at hlt
  have hle : yearOfEra n ≤ yearOfEra (eraYearStart y - 1) := yearOfEra_mono (by omega)
  obtain rfl | hbefore := (yearOfEra_eraYearStart y (by omega)).2
  · exact hlt h0
  · omega

theorem lt_eraYearStart_succ {n : Int} (h0 : 0 ≤ n) (h : n < 146097) (hne : yearOfEra n ≠ 399) :
    n < eraYearStart (yearOfEra n + 1) := by
  obtain ⟨hy0, hy⟩ := yearOfEra_bounds h0 h
  obtain ⟨y, hye⟩ := Int.eq_ofNat_of_zero_le hy0
  by_contra hge
  rw [hye] at hge
  have hle : yearOfEra (eraYearStart (y + 1 : Nat)) ≤ yearOfEra n :=
    yearOfEra_mono (by push_cast; omega)
  have hstart := (yearOfEra_eraYearStart (y + 1) (by omega)).1
  omega

/-! ## The date of a day -/

/-- A date of the calendar. -/
structure ValidDate (year : Int) (month day : Nat) : Prop where
  month_pos : 1 ≤ month
  month_le : month ≤ 12
  day_pos : 1 ≤ day
  day_le : day ≤ daysIn month year

variable {month : Nat} {year : Int}

theorem ValidDate.day_lt {day : Nat} (h : ValidDate year month day) :
    day < 32 := by
  have hle : daysIn month year ≤ 31 := by
    unfold daysIn
    split_ifs <;> decide
  have := h.day_le
  omega

/-- The date of the day `k` of a year that starts in March, with `m` its month from March on. -/
def marchDate (era y k m : Int) : Int × Nat × Nat :=
  let month := if m < 10 then m + 3 else m - 9
  (y + era * 400 + (if month ≤ 2 then 1 else 0), month.toNat, (k - (153 * m + 2) / 5 + 1).toNat)

/-- A day lies in one year of one era, and its date is read off its place in that year. -/
theorem civilOfDays_eq (days : Int) : ∃ era y k : Int,
    0 ≤ y ∧ y < 400 ∧ 0 ≤ k ∧ k ≤ 365 ∧ (y ≠ 399 → k < eraYearStart (y + 1) - eraYearStart y) ∧
    days = era * 146097 + eraYearStart y + k - 719468 ∧
    civilOfDays days = marchDate era y k ((5 * k + 2) / 153) := by
  obtain ⟨n, hn⟩ : ∃ n, n = days + 719468 - (days + 719468) / 146097 * 146097 := ⟨_, rfl⟩
  have h0 : 0 ≤ n := by omega
  have h : n < 146097 := by omega
  obtain ⟨hy0, hy⟩ := yearOfEra_bounds h0 h
  have hlo := eraYearStart_yearOfEra_le h0 h
  have hhi := lt_eraYearStart_succ h0 h
  refine ⟨(days + 719468) / 146097, yearOfEra n, n - eraYearStart (yearOfEra n), hy0, hy, by omega,
    ?_, fun hne => by have := hhi hne; omega, by omega, ?_⟩
  · by_cases hne : yearOfEra n = 399
    · -- the last year of the era ends with the era, one day later than the formula says
      have : eraYearStart 399 = 145731 := by decide
      rw [hne]
      omega
    · have := hhi hne
      unfold eraYearStart at this ⊢
      omega
  · subst hn
    rfl

theorem civilOfDays_valid (days : Int) :
    ValidDate (civilOfDays days).1 (civilOfDays days).2.1 (civilOfDays days).2.2 := by
  obtain ⟨era, y, k, hy0, hy, hk0, hk, hlen, -, he⟩ := civilOfDays_eq days
  obtain ⟨m, hm⟩ : ∃ m, m = (5 * k + 2) / 153 := ⟨_, rfl⟩
  have hm0 : 0 ≤ m := by omega
  have hm11 : m ≤ 11 := by omega
  rw [he, ← hm]
  unfold eraYearStart at hlen
  constructor
  · simp only [marchDate]
    split <;> omega
  · simp only [marchDate]
    split <;> omega
  · simp only [marchDate]
    omega
  · -- month by month; day 29 of February is the day 365 that only leap years have
    interval_cases m <;> simp [marchDate, daysIn, isLeap] <;> omega

theorem daysOfCivil_civilOfDays (days : Int) :
    daysOfCivil (civilOfDays days).1 (civilOfDays days).2.1 (civilOfDays days).2.2 = days := by
  obtain ⟨era, y, k, hy0, hy, hk0, hk, -, hd, he⟩ := civilOfDays_eq days
  obtain ⟨m, hm⟩ : ∃ m, m = (5 * k + 2) / 153 := ⟨_, rfl⟩
  have hm0 : 0 ≤ m := by omega
  have hm11 : m ≤ 11 := by omega
  rw [he, ← hm]
  unfold eraYearStart at hd
  interval_cases m <;> simp [marchDate, daysOfCivil] <;> omega

/-! ## Order -/

/-- The first of January. -/
theorem daysOfCivil_jan (year : Int) : daysOfCivil year 1 1 =
    365 * (year - 1) + (year - 1) / 4 - (year - 1) / 100 + (year - 1) / 400 - 719162 := by
  simp only [daysOfCivil]
  norm_num
  omega

theorem daysOfCivil_jan_le {y y' : Int} (h : y ≤ y') :
    daysOfCivil y 1 1 ≤ daysOfCivil y' 1 1 := by
  rw [daysOfCivil_jan, daysOfCivil_jan]
  omega

/-- The days of a month come before the first day of the next one. -/
theorem ValidDate.lt_next_month {day : Nat} (h : ValidDate year month day) :
    daysOfCivil year month day <
      if month = 12 then daysOfCivil (year + 1) 1 1 else daysOfCivil year (month + 1) 1 := by
  obtain ⟨h1, h12, hd1, hd⟩ := h
  by_cases hfeb : month = 2
  · subst hfeb
    simp only [daysIn, isLeap, Bool.and_eq_true, beq_iff_eq, Bool.or_eq_true, bne_iff_ne, ne_eq,
      if_true] at hd
    simp [daysOfCivil]
    split at hd <;> omega
  · interval_cases month <;> simp [daysIn] at hd hfeb <;> simp [daysOfCivil] <;> omega

theorem ValidDate.first_le {day : Nat} (h : ValidDate year month day) :
    daysOfCivil year month 1 ≤ daysOfCivil year month day := by
  have := h.day_pos
  simp only [daysOfCivil]
  omega

theorem daysIn_pos (month : Nat) (year : Int) : 1 ≤ daysIn month year := by
  unfold daysIn
  split_ifs <;> decide

theorem daysOfCivil_month_le {month' : Nat} (h1 : 1 ≤ month) (h : month ≤ month')
    (h12 : month' ≤ 12) :
    daysOfCivil year month 1 ≤ daysOfCivil year month' 1 := by
  induction month', h using Nat.le_induction with
  | base => exact le_rfl
  | succ m hm ih =>
      have hv : ValidDate year m 1 := ⟨by omega, by omega, le_rfl, daysIn_pos m year⟩
      have hnext := hv.lt_next_month
      rw [if_neg (by omega)] at hnext
      exact (ih (by omega)).trans hnext.le

theorem ValidDate.lt_next_year {day : Nat} (h : ValidDate year month day) :
    daysOfCivil year month day < daysOfCivil (year + 1) 1 1 := by
  have hnext := h.lt_next_month
  split at hnext
  · exact hnext
  · have hm1 := h.month_pos
    have hm12 := h.month_le
    have hdec : daysOfCivil year (month + 1) 1 ≤ daysOfCivil year 12 1 :=
      daysOfCivil_month_le (by omega) (by omega) le_rfl
    have hlast : ValidDate year 12 1 := ⟨by decide, by decide, le_rfl, daysIn_pos 12 year⟩
    have hyear := hlast.lt_next_month
    rw [if_pos rfl] at hyear
    exact (hnext.trans_le hdec).trans hyear

/-- Earlier dates have smaller day numbers. -/
theorem daysOfCivil_lt {y y' : Int} {m m' d d' : Nat} (h : ValidDate y m d)
    (h' : ValidDate y' m' d') (hlt : y < y' ∨ y = y' ∧ (m < m' ∨ m = m' ∧ d < d')) :
    daysOfCivil y m d < daysOfCivil y' m' d' := by
  have hm := h.month_pos
  have hm' := h'.month_pos
  have hm12 := h'.month_le
  obtain hy | ⟨rfl, hmonth | ⟨rfl, hday⟩⟩ := hlt
  · calc daysOfCivil y m d < daysOfCivil (y + 1) 1 1 := h.lt_next_year
      _ ≤ daysOfCivil y' 1 1 := daysOfCivil_jan_le (by omega)
      _ ≤ daysOfCivil y' m' 1 := daysOfCivil_month_le le_rfl hm' hm12
      _ ≤ daysOfCivil y' m' d' := h'.first_le
  · have hnext := h.lt_next_month
    rw [if_neg (by omega)] at hnext
    calc daysOfCivil y m d < daysOfCivil y (m + 1) 1 := hnext
      _ ≤ daysOfCivil y m' 1 := daysOfCivil_month_le (by omega) (by omega) hm12
      _ ≤ daysOfCivil y m' d' := h'.first_le
  · simp only [daysOfCivil]
    omega

/-- Later days have later dates. -/
theorem civilOfDays_lt {s t : Int} (h : s < t) :
    (civilOfDays s).1 < (civilOfDays t).1 ∨ (civilOfDays s).1 = (civilOfDays t).1 ∧
      ((civilOfDays s).2.1 < (civilOfDays t).2.1 ∨ (civilOfDays s).2.1 = (civilOfDays t).2.1 ∧
        (civilOfDays s).2.2 < (civilOfDays t).2.2) := by
  by_contra hno
  have hs := daysOfCivil_civilOfDays s
  have ht := daysOfCivil_civilOfDays t
  have hback : (civilOfDays t).1 < (civilOfDays s).1 ∨ (civilOfDays t).1 = (civilOfDays s).1 ∧
      ((civilOfDays t).2.1 < (civilOfDays s).2.1 ∨ (civilOfDays t).2.1 = (civilOfDays s).2.1 ∧
        (civilOfDays t).2.2 < (civilOfDays s).2.2) ∨ civilOfDays s = civilOfDays t := by
    simp only [Prod.ext_iff]
    omega
  obtain hy | ⟨hy, hmd⟩ | he := hback
  · have := daysOfCivil_lt (civilOfDays_valid t) (civilOfDays_valid s) (.inl hy)
    omega
  · have := daysOfCivil_lt (civilOfDays_valid t) (civilOfDays_valid s) (.inr ⟨hy, hmd⟩)
    omega
  · rw [he] at hs
    omega

end GoTime
