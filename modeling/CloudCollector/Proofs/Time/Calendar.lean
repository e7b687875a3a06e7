import CloudCollector.Time.Calendar
import Mathlib.Tactic.IntervalCases

/-!
# Days and dates

Days are counted through, dates by years, months and days. Both are compared through years that
begin in March: of such a year, a day and its date have the same place. So every day has a date that
the calendar knows, the date leads back to the day, and dates come in the order of their days.
-/

namespace CloudCollector.Date

/-! ## Years that begin in March -/

/-- The number of days of the years before a year that begins in March, from the year 0 on. -/
def daysBefore (year : Int) : Int :=
  365 * year + year / 4 - year / 100 + year / 400

/-- Leap years are those divisible by 4, but of those divisible by 100 only every fourth. -/
theorem isLeap_iff {year : Int} :
    isLeap year = true ↔ year % 4 = 0 ∧ (year % 100 ≠ 0 ∨ year % 400 = 0) := by
  simp [isLeap]

/-- The number of days of a year that begins in March, which ends with the February of the next. -/
def daysIn (year : Int) : Int :=
  if isLeap (year + 1) then 366 else 365

/-- A year has no more than 366 days. -/
theorem daysIn_le (year : Int) : daysIn year ≤ 366 := by
  unfold daysIn
  split <;> decide

/-- A year is followed by the next. -/
theorem daysBefore_succ (year : Int) : daysBefore (year + 1) = daysBefore year + daysIn year := by
  unfold daysBefore daysIn
  split
  · next h =>
    rw [isLeap_iff] at h
    omega
  · next h =>
    rw [isLeap_iff] at h
    omega

/-- A year has passed when a later one begins. -/
theorem daysBefore_add_daysIn_le {year later : Int} (h : year < later) :
    daysBefore year + daysIn year ≤ daysBefore later := by
  rw [← daysBefore_succ]
  unfold daysBefore
  omega

/-- After 400 years the calendar begins anew. -/
theorem daysBefore_add_era (year era : Int) :
    daysBefore (year + era * 400) = daysBefore year + era * 146097 := by
  unfold daysBefore
  omega

/-- Years repeat their length after 400 years. -/
theorem daysIn_add_era (year era : Int) : daysIn (year + era * 400) = daysIn year := by
  have hleap : isLeap (year + era * 400 + 1) = isLeap (year + 1) := by
    rw [Bool.eq_iff_iff, isLeap_iff, isLeap_iff]
    omega
  rw [daysIn, daysIn, hleap]

/-- The date of a day of a year that begins in March, where the first day has the number 0. -/
def ofYearDay (year dayOfYear : Int) : Date :=
  let monthFromMarch := (5 * dayOfYear + 2) / 153
  let day := dayOfYear - (153 * monthFromMarch + 2) / 5 + 1
  let month := if monthFromMarch < 10 then monthFromMarch + 3 else monthFromMarch - 9
  ⟨if month ≤ 2 then year + 1 else year, month.toNat, day.toNat⟩

/-- A day of an era lies in one of its years. The leap days before it are left out to find the
year; of these there is one in 1460 days, but none at the end of a century and one at the end of
the era. -/
theorem yearOfEra_spec {dayOfEra yearOfEra : Int} (hday : 0 ≤ dayOfEra) (hday' : dayOfEra < 146097)
    (hyear : yearOfEra =
      (dayOfEra - dayOfEra / 1460 + dayOfEra / 36524 - dayOfEra / 146096) / 365) :
    daysBefore yearOfEra = 365 * yearOfEra + yearOfEra / 4 - yearOfEra / 100 ∧
      daysBefore yearOfEra ≤ dayOfEra ∧
      dayOfEra < daysBefore yearOfEra + daysIn yearOfEra := by
  have hcentury : yearOfEra / 100 = dayOfEra / 36524 - dayOfEra / 146096 := by
    have hcases : dayOfEra / 36524 = 0 ∨ dayOfEra / 36524 = 1 ∨ dayOfEra / 36524 = 2 ∨
        dayOfEra / 36524 = 3 ∨ dayOfEra = 146096 := by omega
    rcases hcases with hcase | hcase | hcase | hcase | rfl
    case inr.inr.inr.inr => omega
    all_goals
      have hlast : dayOfEra / 146096 = 0 := by omega
      rw [hcase, hlast] at hyear ⊢
      omega
  have hcycle : yearOfEra / 4 ≤ dayOfEra / 1460 ∧ dayOfEra / 1460 ≤ (yearOfEra + 1) / 4 := by
    omega
  have hera : yearOfEra / 400 = 0 := by omega
  have hbefore : daysBefore yearOfEra = 365 * yearOfEra + yearOfEra / 4 - yearOfEra / 100 := by
    rw [daysBefore, hera, add_zero]
  refine ⟨hbefore, ?_, ?_⟩
  · rw [hbefore]
    omega
  · rw [hbefore, daysIn]
    split
    · omega
    · next hleap =>
      rw [isLeap_iff, not_and_or, not_or, not_not] at hleap
      rcases hleap with hleap | ⟨hleap, hleap'⟩
      · have hsame : (yearOfEra + 1) / 4 = yearOfEra / 4 := by omega
        clear hleap
        omega
      · have hends : yearOfEra = 100 * (yearOfEra / 100) + 99 ∧ yearOfEra / 100 < 3 := by omega
        clear hleap hleap'
        omega

/-- Every day lies in a year that begins in March. -/
theorem exists_ofDays_eq (days : Int) :
    ∃ year dayOfYear, ofDays days = ofYearDay year dayOfYear ∧
      days + 719468 = daysBefore year + dayOfYear ∧ 0 ≤ dayOfYear ∧ dayOfYear < daysIn year := by
  let era := (days + 719468) / 146097
  let dayOfEra := (days + 719468) % 146097
  let yearOfEra := (dayOfEra - dayOfEra / 1460 + dayOfEra / 36524 - dayOfEra / 146096) / 365
  have hera : days + 719468 = era * 146097 + dayOfEra := (Int.ediv_mul_add_emod _ 146097).symm
  obtain ⟨hbefore, hbegins, hends⟩ := @yearOfEra_spec dayOfEra yearOfEra
    (Int.emod_nonneg _ (by decide)) (Int.emod_lt_of_pos _ (by decide)) rfl
  refine ⟨yearOfEra + era * 400,
    dayOfEra - (365 * yearOfEra + yearOfEra / 4 - yearOfEra / 100), rfl, ?_, ?_, ?_⟩
  · rw [hera, daysBefore_add_era, hbefore]
    omega
  · rw [← hbefore]
    omega
  · rw [← hbefore, daysIn_add_era]
    omega

/-! ## Months -/

/-- The days of an era, year by year. -/
theorem era_add_yearOfEra (year : Int) :
    year / 400 * 146097 + (year % 400 * 365 + year % 400 / 4 - year % 400 / 100) =
      daysBefore year := by
  unfold daysBefore
  omega

variable {year dayOfYear : Int}

/-- From March to December a year that begins in March has the number of the calendar, in January
and February the number of the next. -/
theorem ofYearDay_eq (hday : 0 ≤ dayOfYear) (hday' : dayOfYear < 366) :
    ∃ month day : Nat,
      dayOfYear + 1 = (153 * month + 2) / 5 + day ∧ 1 ≤ day ∧
      (day : Int) ≤ (153 * (month + 1) + 2) / 5 - (153 * month + 2) / 5 ∧
      (month < 10 ∧ ofYearDay year dayOfYear = ⟨year, month + 3, day⟩ ∨
        (month = 10 ∨ month = 11) ∧ ofYearDay year dayOfYear = ⟨year + 1, month - 9, day⟩) := by
  unfold ofYearDay
  dsimp only
  have hmonth : 0 ≤ (5 * dayOfYear + 2) / 153 ∧ (5 * dayOfYear + 2) / 153 < 12 := by omega
  obtain ⟨month, hmonth⟩ := Int.eq_ofNat_of_zero_le hmonth.1
  refine ⟨month, (dayOfYear - (153 * month + 2) / 5 + 1).toNat, by omega, by omega, by omega, ?_⟩
  rw [hmonth]
  by_cases hspring : month < 10
  · have hnumber :
        (if (month : Int) < 10 then (month : Int) + 3 else month - 9) = (month + 3 : Nat) :=
      if_pos (by omega)
    rw [hnumber, if_neg (by omega), Int.toNat_natCast]
    exact .inl ⟨hspring, rfl⟩
  · have hnumber :
        (if (month : Int) < 10 then (month : Int) + 3 else month - 9) = (month - 9 : Nat) :=
      (if_neg (by omega)).trans (by omega)
    rw [hnumber, if_pos (by omega), Int.toNat_natCast]
    exact .inr ⟨by omega, rfl⟩

/-- A date leads back to the day that it is of. -/
theorem toDays_ofYearDay (hday : 0 ≤ dayOfYear) (hday' : dayOfYear < 366) :
    (ofYearDay year dayOfYear).toDays = daysBefore year + dayOfYear - 719468 := by
  have hyear := era_add_yearOfEra year
  obtain ⟨month, day, hsum, -, -, ⟨hmonth, hdate⟩ | ⟨hmonth, hdate⟩⟩ :=
    @ofYearDay_eq year dayOfYear hday hday'
  · rw [hdate, toDays]
    dsimp only
    rw [if_neg (by omega), if_neg (by omega)]
    omega
  · rw [hdate, toDays]
    dsimp only
    rw [if_pos (by omega), if_pos (by omega), Int.add_sub_cancel]
    omega

/-- The date of a day of a year is one of the calendar. -/
theorem isValid_ofYearDay (hday : 0 ≤ dayOfYear) (hday' : dayOfYear < daysIn year) :
    (ofYearDay year dayOfYear).isValid = true := by
  have hlength := daysIn_le year
  obtain ⟨month, day, hsum, hfirst, hlast, ⟨hmonth, hdate⟩ | ⟨hmonth, hdate⟩⟩ :=
    @ofYearDay_eq year dayOfYear hday (by omega)
  · rw [hdate, isValid]
    interval_cases month <;> simp [daysInMonth] <;> omega
  · rw [hdate, isValid]
    unfold daysIn at hday'
    rcases hmonth with rfl | rfl
    · simp [daysInMonth]
      omega
    · cases hleap : isLeap (year + 1) <;> simp [daysInMonth, hleap] at hday' ⊢ <;> omega

/-! ## Days and dates -/

/-- The date of a day leads back to the day. -/
theorem toDays_ofDays (days : Int) : (ofDays days).toDays = days := by
  obtain ⟨year, dayOfYear, hdate, hdays, hday, hday'⟩ := exists_ofDays_eq days
  rw [hdate, toDays_ofYearDay hday (lt_of_lt_of_le hday' (daysIn_le year)), ← hdays,
    Int.add_sub_cancel]

/-- Every day has a date of the calendar. -/
theorem isValid_ofDays (days : Int) : (ofDays days).isValid = true := by
  obtain ⟨year, dayOfYear, hdate, -, hday, hday'⟩ := exists_ofDays_eq days
  rw [hdate]
  exact isValid_ofYearDay hday hday'

/-- Comes before another date: by the year, by the month of one year or by the day of one month. -/
def Before (a b : Date) : Prop :=
  a.year < b.year ∨
    a.year = b.year ∧ (a.month < b.month ∨ a.month = b.month ∧ a.day < b.day)

/-- Dates come in the order of their days. -/
theorem ofDays_before {days later : Int} (h : days < later) :
    (ofDays days).Before (ofDays later) := by
  obtain ⟨year, dayOfYear, hdate, hdays, hday, hday'⟩ := exists_ofDays_eq days
  obtain ⟨year', dayOfYear', hdate', hlater, hlast, hlast'⟩ := exists_ofDays_eq later
  have horder : year < year' ∨ year = year' ∧ dayOfYear < dayOfYear' := by
    rcases lt_trichotomy year year' with hlt | rfl | hlt
    · exact .inl hlt
    · exact .inr ⟨rfl, by omega⟩
    · have := daysBefore_add_daysIn_le hlt
      omega
  obtain ⟨month, day, hsum, hone, hend, hcase⟩ :=
    @ofYearDay_eq year dayOfYear hday (lt_of_lt_of_le hday' (daysIn_le year))
  obtain ⟨month', day', hsum', hone', hend', hcase'⟩ :=
    @ofYearDay_eq year' dayOfYear' hlast (lt_of_lt_of_le hlast' (daysIn_le year'))
  rw [hdate, hdate', Before]
  rcases hcase with ⟨hmonth, hcase⟩ | ⟨hmonth, hcase⟩ <;>
    rcases hcase' with ⟨hmonth', hcase'⟩ | ⟨hmonth', hcase'⟩ <;>
    rw [hcase, hcase'] <;> dsimp only <;> omega

end CloudCollector.Date
