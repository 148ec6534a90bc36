/-
# Day numbers and dates

A day number is the number of its date: a date found by counting years from the first of March is
one of the calendar, and counting its days again gives the day number back.

An era of 400 years is four centuries, a century 25 spans of four years, and a span four years. A
year has 365 days and its last one more when the year is the last of its span; the last span of a
century has that day only in the last century of the era.

| what | days |
| --- | ---: |
| a century, the last of an era having one more | 36524 |
| a span, the last of another century having one less | 1461 |
| a year, the last of a span having one more | 365 |
-/

import Mathlib.Tactic.SplitIfs
import StatusRelay.Calendar

namespace StatusRelay
namespace Date

theorem isLeapYear_iff {y : Int} :
    isLeapYear y = true ↔ y % 4 = 0 ∧ (y % 100 ≠ 0 ∨ y % 400 = 0) := by
  simp [isLeapYear]

/-- A day of an era, by the century, the span of the century, the year of the span and the day of
the year. -/
structure InEra where
  century : Int
  span : Int
  year : Int
  day : Int
  century_mem : 0 ≤ century ∧ century ≤ 3
  span_mem : 0 ≤ span ∧ span ≤ 24
  year_mem : 0 ≤ year ∧ year ≤ 3
  day_mem : 0 ≤ day ∧ day ≤ 365
  /-- The leap day. -/
  leap : day = 365 → year = 3 ∧ (span = 24 → century = 3)

namespace InEra

/-- The year of the era. -/
def yearOfEra (p : InEra) : Int := 100 * p.century + 4 * p.span + p.year

/-- The number of days of the era before this one. -/
def dayOfEra (p : InEra) : Int := 36524 * p.century + 1461 * p.span + 365 * p.year + p.day

/-- Every day of an era has a place in it. -/
theorem exists_dayOfEra {n : Int} (h₀ : 0 ≤ n) (h₁ : n < 146097) :
    ∃ p : InEra, p.dayOfEra = n := by
  obtain ⟨century, rest, hcentury, hrest, hlast, rfl⟩ : ∃ c r : Int, (0 ≤ c ∧ c ≤ 3) ∧
      (0 ≤ r ∧ r ≤ 36524) ∧ (r = 36524 → c = 3) ∧ n = 36524 * c + r := by
    by_cases hn : n = 146096
    · exact ⟨3, 36524, by omega⟩
    · exact ⟨n / 36524, n % 36524, by omega⟩
  obtain ⟨year, day, hyear, hday, hlong, hspan⟩ : ∃ y d : Int, (0 ≤ y ∧ y ≤ 3) ∧
      (0 ≤ d ∧ d ≤ 365) ∧ (d = 365 → y = 3) ∧ rest % 1461 = 365 * y + d := by
    by_cases hr : rest % 1461 = 1460
    · exact ⟨3, 365, by omega⟩
    · exact ⟨rest % 1461 / 365, rest % 1461 % 365, by omega⟩
  refine ⟨⟨century, rest / 1461, year, day, hcentury, by omega, hyear, hday, by omega⟩, ?_⟩
  simp only [dayOfEra]
  omega

variable (p : InEra)

theorem yearOfEra_mem : 0 ≤ p.yearOfEra ∧ p.yearOfEra < 400 := by
  obtain ⟨c, s, y, d, hc, hs, hy, hd, hleap⟩ := p
  simp only [yearOfEra]
  omega

theorem dayOfEra_mem : 0 ≤ p.dayOfEra ∧ p.dayOfEra < 146097 := by
  obtain ⟨c, s, y, d, hc, hs, hy, hd, hleap⟩ := p
  simp only [dayOfEra] at *
  omega

/-- The year of the era from the day of the era: the days that leap years have had are taken off
before dividing by 365. -/
theorem yearOfEra_eq :
    (p.dayOfEra - p.dayOfEra / 1460 + p.dayOfEra / 36524 - p.dayOfEra / 146096) / 365
      = p.yearOfEra := by
  obtain ⟨c, s, y, d, hc, hs, hy, hd, hleap⟩ := p
  simp only [dayOfEra, yearOfEra]
  generalize hn : 36524 * c + 1461 * s + 365 * y + d = n
  have hcentury : n / 36524 = c ∧ n / 146096 = 0 ∨ n = 146096 ∧ c = 3 := by omega
  have hspan : n / 1460 = 25 * c + s ∧ 24 * c + s + 365 * y + d < 1460 ∨
      n / 1460 = 25 * c + s + 1 ∧ 1460 ≤ 24 * c + s + 365 * y + d := by omega
  omega

theorem day_eq :
    p.dayOfEra - (365 * p.yearOfEra + p.yearOfEra / 4 - p.yearOfEra / 100) = p.day := by
  obtain ⟨c, s, y, d, hc, hs, hy, hd, hleap⟩ := p
  simp only [dayOfEra, yearOfEra]
  omega

/-- A year with a 366th day is followed by the January and February of a leap year. -/
theorem isLeapYear_of_day (era : Int) (h : p.day = 365) :
    isLeapYear (p.yearOfEra + era * 400 + 1) = true := by
  obtain ⟨c, s, y, d, hc, hs, hy, hd, hleap⟩ := p
  obtain ⟨rfl, hspan⟩ := hleap h
  rw [isLeapYear_iff]
  simp only [yearOfEra]
  omega

end InEra

/-! ### Years that begin in March -/

/-- The date of a day of the year that begins on the first of March. -/
def inMarchYear (year dayOfYear : Int) : Date :=
  let monthOfYear := (5 * dayOfYear + 2) / 153
  let month := if monthOfYear < 10 then monthOfYear + 3 else monthOfYear - 9
  ⟨year + (if month ≤ 2 then 1 else 0), month.toNat,
    (dayOfYear - (153 * monthOfYear + 2) / 5 + 1).toNat⟩

/-- From March to December. -/
theorem inMarchYear_of_lt (year : Int) {day : Int} (h : 0 ≤ day) (hm : (5 * day + 2) / 153 < 10) :
    inMarchYear year day = ⟨year, ((5 * day + 2) / 153 + 3).toNat,
      (day - (153 * ((5 * day + 2) / 153) + 2) / 5 + 1).toNat⟩ := by
  simp only [inMarchYear, if_pos hm]
  rw [if_neg (by omega), Int.add_zero]

/-- January and February. -/
theorem inMarchYear_of_ge (year : Int) {day : Int} (h : day ≤ 365)
    (hm : ¬(5 * day + 2) / 153 < 10) :
    inMarchYear year day = ⟨year + 1, ((5 * day + 2) / 153 - 9).toNat,
      (day - (153 * ((5 * day + 2) / 153) + 2) / 5 + 1).toNat⟩ := by
  simp only [inMarchYear, if_neg hm]
  rw [if_pos (by omega)]

/-- The days of a year that begins in March are numbered from 0. -/
theorem toDays_inMarchYear (year : Int) {day : Int} (h : 0 ≤ day ∧ day ≤ 365) :
    (inMarchYear year day).toDays =
      year / 400 * 146097 +
        ((year - year / 400 * 400) * 365 + (year - year / 400 * 400) / 4 -
          (year - year / 400 * 400) / 100 + day) - 719468 := by
  by_cases hm : (5 * day + 2) / 153 < 10
  · simp only [inMarchYear_of_lt year h.1 hm, toDays]
    rw [if_neg (by omega), if_neg (by omega)]
    omega
  · simp only [inMarchYear_of_ge year h.2 hm, toDays]
    rw [if_pos (by omega), if_pos (by omega)]
    omega

/-- The months of a year that begins in March are as long as those of the calendar. -/
theorem valid_inMarchYear {year day : Int} (h : 0 ≤ day ∧ day ≤ 365)
    (hleap : day = 365 → isLeapYear (year + 1) = true) : (inMarchYear year day).Valid := by
  by_cases hm : (5 * day + 2) / 153 < 10
  · simp only [inMarchYear_of_lt year h.1 hm, Valid, daysInMonth]
    split_ifs <;> omega
  · simp only [inMarchYear_of_ge year h.2 hm, Valid, daysInMonth]
    split_ifs with hfebruary hyear
    case neg =>
      have hday : day ≠ 365 := fun hday => hyear (hleap hday)
      omega
    all_goals omega

/-- A day number, by its place in an era. -/
theorem ofDays_eq (era : Int) (p : InEra) :
    ofDays (era * 146097 + p.dayOfEra - 719468) =
      inMarchYear (p.yearOfEra + era * 400) p.day := by
  have hmem := p.dayOfEra_mem
  have hera : (era * 146097 + p.dayOfEra) / 146097 = era := by omega
  have hday : era * 146097 + p.dayOfEra - era * 146097 = p.dayOfEra := by omega
  simp only [ofDays, Int.sub_add_cancel, hera, hday, p.yearOfEra_eq, p.day_eq, inMarchYear]

/-- The month of a date of the calendar takes two digits. -/
theorem Valid.month_lt {d : Date} (h : d.Valid) : d.month < 100 := by
  have hdays := Nat.le_trans h.1 h.2
  unfold daysInMonth at hdays
  split_ifs at hdays <;> omega

/-- The day of a date of the calendar takes two digits. -/
theorem Valid.day_lt {d : Date} (h : d.Valid) : d.day < 100 := by
  have hdays := h.2
  unfold daysInMonth at hdays
  split_ifs at hdays <;> omega

/-! ### Both directions -/

/-- **A day number is the number of its date.** -/
theorem toDays_ofDays (n : Int) : (ofDays n).toDays = n := by
  obtain ⟨p, hp⟩ := InEra.exists_dayOfEra (n := (n + 719468) % 146097) (by omega) (by omega)
  have hn : n = (n + 719468) / 146097 * 146097 + p.dayOfEra - 719468 := by omega
  have hyear := p.yearOfEra_mem
  have hday := p.day_eq
  rw [hn, ofDays_eq, toDays_inMarchYear _ p.day_mem]
  omega

/-- **The date of a day number is in the calendar.** -/
theorem valid_ofDays (n : Int) : (ofDays n).Valid := by
  obtain ⟨p, hp⟩ := InEra.exists_dayOfEra (n := (n + 719468) % 146097) (by omega) (by omega)
  have hn : n = (n + 719468) / 146097 * 146097 + p.dayOfEra - 719468 := by omega
  rw [hn, ofDays_eq]
  exact valid_inMarchYear p.day_mem (p.isLeapYear_of_day _)

end Date
end StatusRelay
