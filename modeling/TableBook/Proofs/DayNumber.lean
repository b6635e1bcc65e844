import Mathlib.Tactic.IntervalCases
import TableBook.Calendar.Date

namespace TableBook.Date

section March

/-- The days from March 1 of the year 0 to March 1 of another. -/
def marchStart (year : Int) : Int := 365 * year + year / 4 - year / 100 + year / 400

/-- The days of a year before a month, March being month 0. -/
def monthStart (month : Int) : Int := (153 * month + 2) / 5

def marchYear (d : Date) : Int := if d.month ≤ 2 then d.year - 1 else d.year

def marchMonth (d : Date) : Int := (d.month + 9) % 12

theorem dayNumber_eq (d : Date) :
    d.dayNumber = marchStart d.marchYear + monthStart d.marchMonth + d.day - 1 := rfl

theorem isLeapYear_iff {year : Int} :
    isLeapYear year = true ↔ year % 4 = 0 ∧ (year % 100 ≠ 0 ∨ year % 400 = 0) := by
  simp [isLeapYear]

/-- The leap day ends a year that is counted from March. -/
theorem marchStart_succ (year : Int) :
    marchStart (year + 1) = marchStart year + if isLeapYear (year + 1) then 366 else 365 := by
  simp only [marchStart, isLeapYear_iff]
  split <;> omega

theorem marchStart_succ_le {year later : Int} (h : year < later) :
    marchStart (year + 1) ≤ marchStart later := by
  simp only [marchStart]
  omega

theorem daysInMonth_of_march {month : Int} (hlo : 0 ≤ month) (hhi : month ≤ 10) (year : Int) :
    (daysInMonth year (if month < 10 then (month + 3).toNat else (month - 9).toNat) : Int) =
      monthStart (month + 1) - monthStart month := by
  interval_cases month <;> rfl

end March

section Order

variable {d e : Date}

/-- A date that the calendar has, in any year. -/
structure InCalendar (d : Date) : Prop where
  month_pos : 1 ≤ d.month
  month_le : d.month ≤ 12
  day_pos : 1 ≤ d.day
  day_le : d.day ≤ daysInMonth d.year d.month

theorem isValid_iff :
    d.isValid = true ↔ minYear ≤ d.year ∧ d.year ≤ maxYear ∧ d.InCalendar := by
  simp only [isValid, Bool.and_eq_true, decide_eq_true_eq]
  constructor
  · rintro ⟨⟨⟨⟨⟨hmin, hmax⟩, hmonth⟩, hmonth'⟩, hday⟩, hday'⟩
    exact ⟨hmin, hmax, hmonth, hmonth', hday, hday'⟩
  · rintro ⟨hmin, hmax, hmonth, hmonth', hday, hday'⟩
    exact ⟨⟨⟨⟨⟨hmin, hmax⟩, hmonth⟩, hmonth'⟩, hday⟩, hday'⟩

theorem inCalendar_of_isValid (h : d.isValid = true) : d.InCalendar := (isValid_iff.mp h).2.2

def Before (d e : Date) : Prop :=
  d.year < e.year ∨
    d.year = e.year ∧ (d.month < e.month ∨ d.month = e.month ∧ d.day < e.day)

theorem before_trichotomy (d e : Date) : d.Before e ∨ d = e ∨ e.Before d := by
  obtain ⟨year, month, day⟩ := d
  obtain ⟨year', month', day'⟩ := e
  simp only [Before, mk.injEq]
  omega

/-- The order of dates is also that of years from March, months and days. -/
theorem Before.march (h : d.Before e) (hd : d.InCalendar) (he : e.InCalendar) :
    d.marchYear < e.marchYear ∨ d.marchYear = e.marchYear ∧
      (d.marchMonth < e.marchMonth ∨ d.marchMonth = e.marchMonth ∧ d.day < e.day) := by
  have hmonth := hd.month_le
  have hmonth' := he.month_le
  have hpos := hd.month_pos
  have hpos' := he.month_pos
  simp only [Before] at h
  simp only [marchYear, marchMonth]
  split <;> split <;> omega

namespace InCalendar

theorem day_le_31 (hd : d.InCalendar) : d.day ≤ 31 := by
  have hlength : daysInMonth d.year d.month ≤ 31 := by
    rw [daysInMonth]
    split_ifs <;> decide
  exact hd.day_le.trans hlength

theorem day_le_of_month_lt (hd : d.InCalendar) {month : Int} (h : d.marchMonth < month)
    (hmonth : month ≤ 11) : monthStart d.marchMonth + d.day ≤ monthStart month := by
  have hmarch : d.marchMonth = (d.month + 9) % 12 := rfl
  have hlo : 0 ≤ d.marchMonth := by omega
  have hof : d.month =
      if d.marchMonth < 10 then (d.marchMonth + 3).toNat else (d.marchMonth - 9).toNat := by
    have hpos := hd.month_pos
    have hle := hd.month_le
    split <;> omega
  have hlength := daysInMonth_of_march hlo (by omega) d.year
  rw [← hof] at hlength
  have hday := hd.day_le
  have hnext : monthStart (d.marchMonth + 1) ≤ monthStart month := by
    simp only [monthStart]
    omega
  omega

theorem marchStart_add_day_le (hd : d.InCalendar) :
    marchStart d.marchYear + monthStart d.marchMonth + d.day ≤ marchStart (d.marchYear + 1) := by
  rw [marchStart_succ]
  by_cases hfebruary : d.month = 2
  · have hyear : d.marchYear + 1 = d.year := by
      rw [marchYear, if_pos (Nat.le_of_eq hfebruary), Int.sub_add_cancel]
    have hmonth : monthStart d.marchMonth = 337 := by
      rw [marchMonth, hfebruary]
      rfl
    have hday := hd.day_le
    rw [hfebruary, daysInMonth, if_pos rfl] at hday
    rw [hyear, hmonth]
    split at hday
    · next hleap =>
        rw [if_pos hleap]
        omega
    · next hleap =>
        rw [if_neg hleap]
        omega
  · have hmonth : d.marchMonth < 11 := by
      have := hd.month_le
      rw [marchMonth]
      omega
    have hday : monthStart d.marchMonth + d.day ≤ 337 :=
      hd.day_le_of_month_lt hmonth (Int.le_refl _)
    split <;> omega

end InCalendar

theorem Before.dayNumber_lt (h : d.Before e) (hd : d.InCalendar) (he : e.InCalendar) :
    d.dayNumber < e.dayNumber := by
  rw [dayNumber_eq, dayNumber_eq]
  have hday : (1 : Int) ≤ e.day := by exact_mod_cast he.day_pos
  have hmonth : 0 ≤ monthStart e.marchMonth := by
    simp only [monthStart, marchMonth]
    omega
  rcases h.march hd he with hyear | ⟨hyear, hmonth' | ⟨hmonth', hday'⟩⟩
  · have hend := hd.marchStart_add_day_le
    have hnext := marchStart_succ_le hyear
    omega
  · have hend := hd.day_le_of_month_lt hmonth' (by simp only [marchMonth]; omega)
    rw [hyear]
    omega
  · rw [hyear, hmonth']
    omega

theorem eq_of_dayNumber_eq (hd : d.InCalendar) (he : e.InCalendar)
    (h : d.dayNumber = e.dayNumber) : d = e := by
  rcases before_trichotomy d e with hbefore | heq | hafter
  · exact absurd h (Int.ne_of_lt (hbefore.dayNumber_lt hd he))
  · exact heq
  · exact absurd h (Int.ne_of_gt (hafter.dayNumber_lt he hd))

end Order

section Inverse

/-- The date a number of days after March 1 of a year. -/
def ofMarch (year day : Int) : Date :=
  let month := (5 * day + 2) / 153
  if month < 10 then ⟨year, (month + 3).toNat, (day - monthStart month + 1).toNat⟩
  else ⟨year + 1, (month - 9).toNat, (day - monthStart month + 1).toNat⟩

/-- An era falls into centuries, these into spans of four years, these into
years; a last day may be left over, that of a leap year. -/
theorem exists_cycles {n : Int} (h : 0 ≤ n) (h' : n < daysInEra) :
    ∃ century span year day : Int,
      n = 36524 * century + 1461 * span + 365 * year + day ∧
        (0 ≤ century ∧ century ≤ 3) ∧ (0 ≤ span ∧ span ≤ 24) ∧ (0 ≤ year ∧ year ≤ 3) ∧ 0 ≤ day ∧
        (day ≤ 364 ∨ day = 365 ∧ year = 3 ∧ (span = 24 → century = 3)) := by
  have h' : n < 146097 := h'
  let century := min (n / 36524) 3
  let rest := n - 36524 * century
  let span := rest / 1461
  let year := min (rest % 1461 / 365) 3
  have hcentury : 0 ≤ century ∧ century ≤ 3 := by omega
  have hrest : 0 ≤ rest ∧ (rest ≤ 36523 ∨ century = 3 ∧ rest = 36524) := by
    omega
  have hspan : 0 ≤ span ∧ span ≤ 24 := by omega
  have hyear : 0 ≤ year ∧ year ≤ 3 := by omega
  refine ⟨century, span, year, n - 36524 * century - 1461 * span - 365 * year, ?_⟩
  refine ⟨by omega, hcentury, hspan, hyear, ?_, ?_⟩ <;> omega

theorem yearOfEra_eq {n century span year day : Int}
    (hn : n = 36524 * century + 1461 * span + 365 * year + day)
    (hcentury : 0 ≤ century ∧ century ≤ 3) (hspan : 0 ≤ span ∧ span ≤ 24)
    (hyear : 0 ≤ year ∧ year ≤ 3) (hday : 0 ≤ day)
    (hlast : day ≤ 364 ∨ day = 365 ∧ year = 3 ∧ (span = 24 → century = 3)) :
    (n - n / 1460 + n / 36524 - n / 146096) / 365 = 100 * century + 4 * span + year := by
  have hspans : n / 1460 = 25 * century + span +
      if 1460 ≤ 24 * century + span + 365 * year + day then 1 else 0 := by
    split <;> omega
  have hcenturies : n / 36524 = century +
      if century = 3 ∧ span = 24 ∧ year = 3 ∧ day = 365 then 1 else 0 := by
    split <;> omega
  have hera : n / 146096 = if century = 3 ∧ span = 24 ∧ year = 3 ∧ day = 365 then 1 else 0 := by
    split <;> omega
  rw [hspans, hcenturies, hera]
  omega

theorem marchStart_cycles {century span year : Int} (hcentury : 0 ≤ century ∧ century ≤ 3)
    (hspan : 0 ≤ span ∧ span ≤ 24) (hyear : 0 ≤ year ∧ year ≤ 3) :
    marchStart (100 * century + 4 * span + year) = 36524 * century + 1461 * span + 365 * year := by
  simp only [marchStart]
  omega

theorem marchStart_add_era (year era : Int) :
    marchStart (year + era * 400) = marchStart year + daysInEra * era := by
  simp only [marchStart, daysInEra]
  omega

theorem marchStart_of_lt {year : Int} (h : 0 ≤ year) (h' : year < 400) :
    marchStart year = 365 * year + year / 4 - year / 100 := by
  simp only [marchStart]
  omega

/-- A day is left over only at the end of a leap year. -/
theorem isLeapYear_of_last {century span era : Int} (hspan : 0 ≤ span ∧ span ≤ 24)
    (hlast : span = 24 → century = 3) :
    isLeapYear (100 * century + 4 * span + 3 + era * 400 + 1) = true := by
  rw [isLeapYear_iff]
  omega

theorem exists_ofMarch (n : Int) :
    ∃ year day, ofDayNumber n = ofMarch year day ∧ n = marchStart year + day ∧ 0 ≤ day ∧
      n < marchStart (year + 1) := by
  have hnonneg : 0 ≤ n % daysInEra := Int.emod_nonneg _ (by decide)
  have hlt : n % daysInEra < daysInEra := Int.emod_lt_of_pos _ (by decide)
  obtain ⟨century, span, year, day, hn, hcentury, hspan, hyear, hday, hlast⟩ :=
    exists_cycles hnonneg hlt
  have hera := yearOfEra_eq hn hcentury hspan hyear hday hlast
  have hstart := marchStart_cycles hcentury hspan hyear
  have hof : ofDayNumber n =
      ofMarch (100 * century + 4 * span + year + n / daysInEra * 400) day := by
    have hrest : n % daysInEra - (365 * (100 * century + 4 * span + year) +
        (100 * century + 4 * span + year) / 4 - (100 * century + 4 * span + year) / 100) = day := by
      rw [← marchStart_of_lt (by omega) (by omega), hstart, hn]
      omega
    rw [ofDayNumber, hera, hrest]
    rfl
  have hsum : n = marchStart (100 * century + 4 * span + year + n / daysInEra * 400) + day := by
    rw [marchStart_add_era, hstart, Int.add_right_comm, ← hn]
    exact (Int.emod_add_mul_ediv n daysInEra).symm
  refine ⟨_, day, hof, hsum, hday, ?_⟩
  rw [marchStart_succ]
  rcases hlast with hbefore | ⟨hlast, rfl, hcycle⟩
  · split <;> omega
  · rw [if_pos (isLeapYear_of_last hspan hcycle)]
    omega

section OfMarch

variable {year day : Int}

/-- The month from March that a day falls in. -/
theorem exists_marchMonth (hday : 0 ≤ day) (hend : day ≤ 365) :
    ∃ month, (5 * day + 2) / 153 = month ∧ (0 ≤ month ∧ month ≤ 11) ∧
      monthStart month ≤ day ∧ day < monthStart (month + 1) := by
  refine ⟨_, rfl, ?_, ?_⟩
  · omega
  · simp only [monthStart]
    omega

theorem march_ofMarch (year : Int) (hday : 0 ≤ day) (hend : day ≤ 365) :
    (ofMarch year day).marchYear = year ∧ (ofMarch year day).marchMonth = (5 * day + 2) / 153 ∧
      (ofMarch year day).day = day - monthStart ((5 * day + 2) / 153) + 1 := by
  obtain ⟨month, hmonth, hrange, hstart, -⟩ := exists_marchMonth hday hend
  simp only [ofMarch, hmonth]
  split
  · simp only [marchYear, marchMonth]
    rw [if_neg (by omega)]
    omega
  · simp only [marchYear, marchMonth]
    rw [if_pos (by omega)]
    omega

theorem dayNumber_ofMarch (hday : 0 ≤ day) (hend : day ≤ 365) :
    (ofMarch year day).dayNumber = marchStart year + day := by
  obtain ⟨hyear, hmonth, hof⟩ := march_ofMarch year hday hend
  rw [dayNumber_eq, hyear, hmonth, hof]
  omega

theorem inCalendar_ofMarch (hday : 0 ≤ day) (hend : marchStart year + day < marchStart (year + 1)) :
    (ofMarch year day).InCalendar := by
  rw [marchStart_succ] at hend
  have hlong : day ≤ 365 := by split at hend <;> omega
  obtain ⟨month, hmonth, ⟨hlo, hhi⟩, hstart, hnext⟩ := exists_marchMonth hday hlong
  have hlength (y : Int) (h : month ≤ 10) := daysInMonth_of_march hlo h y
  simp only [ofMarch, hmonth]
  split
  · next hspring =>
      have hdays := hlength year (by omega)
      rw [if_pos hspring] at hdays
      constructor <;> dsimp only <;> omega
  · next hwinter =>
      refine ⟨?_, ?_, ?_, ?_⟩
      · dsimp only
        omega
      · dsimp only
        omega
      · dsimp only
        omega
      · dsimp only
        rcases Int.le_iff_lt_or_eq.mp hhi with hjanuary | rfl
        · have hdays := hlength (year + 1) (by omega)
          rw [if_neg hwinter] at hdays
          omega
        · -- February takes what is left of the year.
          change (day - 337 + 1).toNat ≤ if isLeapYear (year + 1) then 29 else 28
          split at hend
          · next hleap =>
              rw [if_pos hleap]
              omega
          · next hleap =>
              rw [if_neg hleap]
              omega

end OfMarch

theorem dayNumber_ofDayNumber (n : Int) : (ofDayNumber n).dayNumber = n := by
  obtain ⟨year, day, hof, hsum, hday, hend⟩ := exists_ofMarch n
  have hlong : day ≤ 365 := by
    rw [marchStart_succ] at hend
    split at hend <;> omega
  rw [hof, dayNumber_ofMarch hday hlong, hsum]

theorem inCalendar_ofDayNumber (n : Int) : (ofDayNumber n).InCalendar := by
  obtain ⟨year, day, hof, hsum, hday, hend⟩ := exists_ofMarch n
  rw [hsum] at hend
  rw [hof]
  exact inCalendar_ofMarch hday hend

theorem ofDayNumber_dayNumber {d : Date} (h : d.InCalendar) : ofDayNumber d.dayNumber = d :=
  eq_of_dayNumber_eq (inCalendar_ofDayNumber _) h (dayNumber_ofDayNumber _)

end Inverse

end TableBook.Date
