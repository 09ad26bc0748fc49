import Formulary.Calendar
import Mathlib.Algebra.BigOperators.Intervals
import Mathlib.Algebra.Order.BigOperators.Group.Finset
import Mathlib.Tactic.IntervalCases
import Mathlib.Tactic.Linarith
import Mathlib.Tactic.Ring

/-!
# Days of the calendar

The calendar said as a count: a year has the days of its months, and a date is as many days after
the first one of the year 0 as the years, the months and the days before it have (`daysBefore`). The
date of a day number is the one date with that count: `dateOfDay_eq`, `daysBefore_lt_iff`. To see
it, an era of 400 years, which starts in March, is cut into centuries, into cycles of four years and
into years (`exists_parts`).
-/

namespace Formulary.Calendar

/-! ### Counting days -/

/-- Every fourth year is a leap year, but of the centuries only every fourth one. -/
def IsLeap (year : Nat) : Prop := 4 ∣ year ∧ (100 ∣ year → 400 ∣ year)

instance (year : Nat) : Decidable (IsLeap year) :=
  inferInstanceAs (Decidable (4 ∣ year ∧ (100 ∣ year → 400 ∣ year)))

def monthLength (year month : Nat) : Nat :=
  match month with
  | 2 => if IsLeap year then 29 else 28
  | 4 | 6 | 9 | 11 => 30
  | _ => 31

def daysBeforeMonth (year month : Nat) : Nat :=
  ∑ before ∈ Finset.range (month - 1), monthLength year (before + 1)

def yearLength (year : Nat) : Nat := ∑ before ∈ Finset.range 12, monthLength year (before + 1)

/-- The days of the years from 0 on before a year. -/
def daysBeforeYear (year : Nat) : Nat := ∑ before ∈ Finset.range year, yearLength before

/-- The days before a date, counted from the first of January of the year 0. -/
def daysBefore (year month day : Nat) : Nat :=
  daysBeforeYear year + daysBeforeMonth year month + (day - 1)

/-- There is such a date. -/
structure IsDate (year month day : Nat) : Prop where
  month_pos : 1 ≤ month
  month_le : month ≤ 12
  day_pos : 1 ≤ day
  day_le : day ≤ monthLength year month

/-! ### Years and months in closed form -/

/-- The day that only a leap year has. -/
def leapDay (year : Nat) : Nat := if IsLeap year then 1 else 0

/-- A year has a leap day if it is a fourth year, but no century unless it is a fourth one. -/
theorem leapDay_eq (year : Nat) :
    leapDay year + (year + 3) / 4 + (year + 399) / 400 + year / 100 =
      year / 4 + year / 400 + (year + 99) / 100 + 1 := by
  have hfour : year / 4 + 1 = (year + 3) / 4 + if 4 ∣ year then 1 else 0 := by
    split <;> omega
  have hcentury : year / 100 + 1 = (year + 99) / 100 + if 100 ∣ year then 1 else 0 := by
    split <;> omega
  have hera : year / 400 + 1 = (year + 399) / 400 + if 400 ∣ year then 1 else 0 := by
    split <;> omega
  have hdvd : (100 ∣ year → 4 ∣ year) ∧ (400 ∣ year → 100 ∣ year) := by omega
  have hday : leapDay year + (if 100 ∣ year then 1 else 0) =
      (if 4 ∣ year then 1 else 0) + if 400 ∣ year then 1 else 0 := by
    unfold leapDay IsLeap
    by_cases h4 : 4 ∣ year <;> by_cases h100 : 100 ∣ year <;> by_cases h400 : 400 ∣ year <;>
      simp_all
  omega

theorem monthLength_two (year : Nat) : monthLength year 2 = 28 + leapDay year := by
  simp only [monthLength, leapDay]
  split <;> rfl

theorem yearLength_eq (year : Nat) : yearLength year = 365 + leapDay year := by
  simp only [yearLength, Finset.sum_range_succ, Finset.sum_range_zero, Nat.reduceAdd,
    monthLength_two]
  simp only [monthLength]
  omega

theorem daysBeforeYear_eq (year : Nat) :
    daysBeforeYear year + (year + 99) / 100 = 365 * year + (year + 3) / 4 + (year + 399) / 400 := by
  induction year with
  | zero => rfl
  | succ year ih =>
    have hsucc : daysBeforeYear (year + 1) = daysBeforeYear year + yearLength year :=
      Finset.sum_range_succ _ _
    rw [hsucc, yearLength_eq, show year + 1 + 3 = year + 4 from rfl, Nat.add_div_right _ four_pos,
      show year + 1 + 99 = year + 100 from rfl, Nat.add_div_right _ (by decide),
      show year + 1 + 399 = year + 400 from rfl, Nat.add_div_right _ (by decide)]
    linarith [leapDay_eq year]

/-- Seen from March on, the months of a year are as long in a leap year as in any other. -/
theorem daysBeforeMonth_eq {year month : Nat} (hpos : 1 ≤ month) (hle : month ≤ 12) :
    daysBeforeMonth year month =
      if month ≤ 2 then 31 * (month - 1)
      else 59 + leapDay year + (153 * (month - 3) + 2) / 5 := by
  unfold daysBeforeMonth
  interval_cases month
  all_goals
    simp only [Nat.reduceSub, Finset.sum_range_succ, Finset.sum_range_zero, Nat.reduceAdd,
      monthLength_two]
    simp [monthLength]
    try omega

theorem monthLength_from_march {shifted : Nat} (h : shifted < 10) (year : Nat) :
    monthLength year (shifted + 3) + (153 * shifted + 2) / 5 = (153 * (shifted + 1) + 2) / 5 := by
  interval_cases shifted <;> rfl

theorem daysBefore_from_march (year day : Nat) {shifted : Nat} (h : shifted < 10) :
    daysBefore year (shifted + 3) day + year / 100 =
      365 * year + year / 4 + year / 400 + 60 + (153 * shifted + 2) / 5 + (day - 1) := by
  rw [daysBefore, daysBeforeMonth_eq (by omega) (by omega), if_neg (by omega),
    Nat.add_sub_cancel]
  linarith [daysBeforeYear_eq year, leapDay_eq year]

theorem daysBefore_to_march (year day : Nat) {month : Nat} (hpos : 1 ≤ month) (hle : month ≤ 2) :
    daysBefore year month day + (year + 99) / 100 =
      365 * year + (year + 3) / 4 + (year + 399) / 400 + 31 * (month - 1) + (day - 1) := by
  rw [daysBefore, daysBeforeMonth_eq hpos (by omega), if_pos hle]
  linarith [daysBeforeYear_eq year]

/-! ### Days of an era -/

/-- A day of an era in centuries, cycles of four years, years and days. The years start in March, so
that a leap day is the last of a year; it ends a cycle, unless this ends a century that does not end
the era. -/
structure Parts (dayOfEra century cycle year day : Int) : Prop where
  count : dayOfEra = 36524 * century + 1461 * cycle + 365 * year + day
  century_mem : 0 ≤ century ∧ century ≤ 3
  cycle_mem : 0 ≤ cycle ∧ cycle ≤ 24
  year_mem : 0 ≤ year ∧ year ≤ 3
  day_mem : 0 ≤ day ∧ day ≤ 365
  leap : day = 365 → year = 3 ∧ (cycle ≠ 24 ∨ century = 3)

section Parts

variable {dayOfEra century cycle year day era : Int}

theorem Parts.mem (h : Parts dayOfEra century cycle year day) :
    0 ≤ dayOfEra ∧ dayOfEra < 146097 := by
  obtain ⟨hcount, hcentury, hcycle, hyear, hday, hleap⟩ := h
  omega

theorem exists_parts (hpos : 0 ≤ dayOfEra) (hlt : dayOfEra < 146097) :
    ∃ century cycle year day, Parts dayOfEra century cycle year day := by
  by_cases hlast : dayOfEra = 146096
  · exact ⟨3, 24, 3, 365, by omega, by omega, by omega, by omega, by omega, by omega⟩
  by_cases hleap : dayOfEra % 36524 % 1461 = 1460
  · exact ⟨dayOfEra / 36524, dayOfEra % 36524 / 1461, 3, 365, by omega, by omega, by omega,
      by omega, by omega, by omega⟩
  · exact ⟨dayOfEra / 36524, dayOfEra % 36524 / 1461, dayOfEra % 36524 % 1461 / 365,
      dayOfEra % 36524 % 1461 % 365, by omega, by omega, by omega, by omega, by omega, by omega⟩

/-- The year of an era that a day is in. -/
theorem Parts.yearOfEra_eq (h : Parts dayOfEra century cycle year day) :
    (dayOfEra - dayOfEra / 1460 + dayOfEra / 36524 - dayOfEra / 146096) / 365 =
      100 * century + 4 * cycle + year := by
  obtain ⟨hcount, hcentury, hcycle, hyear, hday, hleap⟩ := h
  have hcenturies : dayOfEra / 146096 = 0 ∧ dayOfEra / 36524 = century ∨
      dayOfEra / 146096 = 1 ∧ dayOfEra / 36524 = century + 1 := by omega
  have hcycles : dayOfEra / 1460 = 25 * century + cycle ∧ day < 365 ∨
      dayOfEra / 1460 = 25 * century + cycle + 1 ∧ 0 < day := by omega
  omega

/-- The days of the years before a day of an era, and those of its own year. -/
theorem Parts.count_years (h : Parts dayOfEra century cycle year day) (era : Int) {y : Int}
    (hy : y = 100 * century + 4 * cycle + year + era * 400) :
    365 * y + y / 4 + y / 400 + day = 146097 * era + dayOfEra + y / 100 := by
  obtain ⟨hcount, hcentury, hcycle, hyear, hday, -⟩ := h
  have hfour : y / 4 = 100 * era + 25 * century + cycle := by omega
  have hcenturies : y / 100 = 4 * era + century := by omega
  have heras : y / 400 = era := by omega
  rw [hfour, hcenturies, heras, hy, hcount]
  ring

theorem Parts.dayOfYear_eq (h : Parts dayOfEra century cycle year day) :
    dayOfEra - (365 * (100 * century + 4 * cycle + year) +
      (100 * century + 4 * cycle + year) / 4 - (100 * century + 4 * cycle + year) / 100) = day := by
  have hyears := h.count_years 0 (Int.add_zero _).symm
  obtain ⟨hcount, hcentury, hcycle, hyear, hday, -⟩ := h
  have hera : (100 * century + 4 * cycle + year) / 400 = 0 := by omega
  rw [hera] at hyears
  linarith

/-- A year with a day 365 ends with the leap day of the year it runs into. -/
theorem Parts.isLeap (h : Parts dayOfEra century cycle year 365) {y : Nat}
    (hy : 100 * century + 4 * cycle + year + era * 400 + 1 = y) : IsLeap y := by
  obtain ⟨-, hcentury, hcycle, -, -, hleap⟩ := h
  obtain ⟨rfl, hera⟩ := hleap rfl
  unfold IsLeap
  omega

theorem Parts.year_nonneg (h : Parts dayOfEra century cycle year day)
    (hera : 0 ≤ 146097 * era + dayOfEra + 60) :
    0 ≤ 100 * century + 4 * cycle + year + era * 400 + 1 ∧
      (day < 306 → 0 ≤ 100 * century + 4 * cycle + year + era * 400) := by
  have hmem := h.mem
  obtain ⟨hcount, hcentury, hcycle, hyear, hday, -⟩ := h
  rcases lt_or_ge era 0 with hneg | hpos
  · -- the last two months of the era before
    obtain rfl : era = -1 := by omega
    have hlate : 146037 ≤ dayOfEra := by omega
    obtain rfl : century = 3 := by omega
    obtain rfl : cycle = 24 := by omega
    obtain rfl : year = 3 := by omega
    omega
  · omega

end Parts

/-! ### Dates of days -/

/-- A day of a year that starts in March, by its month and the days of that month before it. -/
def dayInYear (shifted before : Nat) : Nat := (153 * shifted + 2) / 5 + before

theorem exists_month {day : Int} (hday : 0 ≤ day ∧ day ≤ 365) :
    ∃ shifted before : Nat, (5 * day + 2) / 153 = shifted ∧ day = dayInYear shifted before ∧
      dayInYear shifted before < dayInYear (shifted + 1) 0 := by
  obtain ⟨k, rfl⟩ := Int.eq_ofNat_of_zero_le hday.1
  unfold dayInYear
  exact ⟨(5 * k + 2) / 153, k - (153 * ((5 * k + 2) / 153) + 2) / 5, by omega, by omega, by omega⟩

section Dates

variable {dayOfEra century cycle year era : Int} {shifted before : Nat}

theorem Parts.dateOfDay_eq {n : Int}
    (h : Parts dayOfEra century cycle year (dayInYear shifted before))
    (hn : n + daysTo1970 = 146097 * era + dayOfEra)
    (hshifted : (5 * (dayInYear shifted before : Int) + 2) / 153 = shifted) :
    dateOfDay n =
      if shifted < 10 then ⟨100 * century + 4 * cycle + year + era * 400, shifted + 3, before + 1⟩
      else ⟨100 * century + 4 * cycle + year + era * 400 + 1, shifted - 9, before + 1⟩ := by
  have hmem := h.mem
  have hera : (146097 * era + dayOfEra) / 146097 = era := by omega
  have hdayOfEra : (146097 * era + dayOfEra) % 146097 = dayOfEra := by omega
  have hday : ((dayInYear shifted before : Int) - (153 * shifted + 2) / 5 + 1).toNat =
      before + 1 := by
    unfold dayInYear
    omega
  unfold dateOfDay
  simp only [hn, hera, hdayOfEra, h.yearOfEra_eq, h.dayOfYear_eq, hshifted, hday]
  by_cases hmarch : shifted < 10
  · have hmarch' : (shifted : Int) < 10 := by omega
    have hmonth : ((shifted : Int) + 3).toNat = shifted + 3 := by omega
    rw [if_pos hmarch', if_pos hmarch, if_neg (by omega), Int.add_zero, hmonth]
  · have hmarch' : ¬ (shifted : Int) < 10 := by omega
    have hmonth : ((shifted : Int) - 9).toNat = shifted - 9 := by omega
    have hyear : (shifted : Int) - 9 ≤ 2 := by
      have hlast := h.day_mem
      omega
    rw [if_neg hmarch', if_neg hmarch, if_pos hyear, hmonth]

variable {n y : Nat}

/-- March to December are in the year in which the days are counted. -/
theorem Parts.date_from_march (h : Parts dayOfEra century cycle year (dayInYear shifted before))
    (hn : (n : Int) = 146097 * era + dayOfEra + 60) (hmarch : shifted < 10)
    (hbefore : dayInYear shifted before < dayInYear (shifted + 1) 0)
    (hy : 100 * century + 4 * cycle + year + era * 400 = y) :
    IsDate y (shifted + 3) (before + 1) ∧ daysBefore y (shifted + 3) (before + 1) = n := by
  have hyears := h.count_years era hy.symm
  have hlength := monthLength_from_march hmarch y
  have hdays := daysBefore_from_march y (before + 1) hmarch
  unfold dayInYear at hbefore hyears
  refine ⟨⟨by omega, by omega, by omega, by linarith⟩, ?_⟩
  rw [Nat.add_sub_cancel] at hdays
  zify at hdays ⊢
  push_cast at hyears
  linarith

/-- January and February are in the year after. -/
theorem Parts.date_to_march (h : Parts dayOfEra century cycle year (dayInYear shifted before))
    (hn : (n : Int) = 146097 * era + dayOfEra + 60) (hmarch : 10 ≤ shifted)
    (hbefore : dayInYear shifted before < dayInYear (shifted + 1) 0)
    (hy : 100 * century + 4 * cycle + year + era * 400 + 1 = y) :
    IsDate y (shifted - 9) (before + 1) ∧ daysBefore y (shifted - 9) (before + 1) = n := by
  have hlast := h.day_mem.2
  have hshifted : shifted = 10 ∨ shifted = 11 := by
    unfold dayInYear at hlast
    omega
  refine ⟨⟨by omega, by omega, by omega, ?_⟩, ?_⟩
  · unfold dayInYear at hlast hbefore
    obtain rfl | rfl := hshifted
    · exact Nat.le_of_lt_succ (by omega : before + 1 < 32)
    · rw [monthLength_two]
      by_cases hlast' : before = 28
      · subst hlast'
        simp [leapDay, Parts.isLeap h hy]
      · omega
  · have hyears := h.count_years era rfl
    have hdays := daysBefore_to_march y (before + 1) (show 1 ≤ shifted - 9 by omega) (by omega)
    have hdays' : 31 * (shifted - 9 - 1) + 306 = (153 * shifted + 2) / 5 := by
      obtain rfl | rfl := hshifted
      all_goals rfl
    rw [eq_sub_of_add_eq hy] at hyears
    have hfour : (y + 3 : Int) / 4 = (y - 1) / 4 + 1 := by omega
    have hcentury : (y + 99 : Int) / 100 = (y - 1) / 100 + 1 := by omega
    have heras : (y + 399 : Int) / 400 = (y - 1) / 400 + 1 := by omega
    rw [Nat.add_sub_cancel] at hdays
    unfold dayInYear at hyears
    zify at hdays hdays' ⊢
    push_cast at hyears
    linarith

end Dates

/-- **The date of a day is the one that is as many days after the first of the year 0.** -/
theorem dateOfDay_eq (n : Nat) : ∃ year month day : Nat,
    dateOfDay (n - 719528) = ⟨year, month, day⟩ ∧ IsDate year month day ∧
      daysBefore year month day = n := by
  obtain ⟨era, dayOfEra, hmem, hera⟩ : ∃ era dayOfEra : Int, (0 ≤ dayOfEra ∧ dayOfEra < 146097) ∧
      (n : Int) = 146097 * era + dayOfEra + 60 :=
    ⟨(n - 60) / 146097, (n - 60) % 146097, by omega, by omega⟩
  have hstart : (n : Int) - 719528 + daysTo1970 = 146097 * era + dayOfEra := by
    unfold daysTo1970
    omega
  obtain ⟨century, cycle, year, day, hparts⟩ := exists_parts hmem.1 hmem.2
  obtain ⟨shifted, before, hshifted, rfl, hbefore⟩ := exists_month hparts.day_mem
  have hyear := hparts.year_nonneg (hera ▸ Int.natCast_nonneg n)
  rw [hparts.dateOfDay_eq hstart hshifted]
  by_cases hmarch : shifted < 10
  · have hday : (dayInYear shifted before : Int) < 306 := by
      unfold dayInYear at hbefore ⊢
      omega
    obtain ⟨y, hy⟩ := Int.eq_ofNat_of_zero_le (hyear.2 hday)
    rw [if_pos hmarch, hy]
    exact ⟨_, _, _, rfl, hparts.date_from_march hera hmarch hbefore hy⟩
  · obtain ⟨y, hy⟩ := Int.eq_ofNat_of_zero_le hyear.1
    rw [if_neg hmarch, hy]
    exact ⟨_, _, _, rfl, hparts.date_to_march hera (not_lt.1 hmarch) hbefore hy⟩

/-! ### The order of dates -/

section Order

variable {year month day year' month' day' : Nat}

theorem daysBeforeMonth_add_le (year : Nat) (hpos : 1 ≤ month) (h : month < month') :
    daysBeforeMonth year month + monthLength year month ≤ daysBeforeMonth year month' := by
  obtain ⟨before, rfl⟩ := Nat.exists_eq_add_of_le' hpos
  calc daysBeforeMonth year (before + 1) + monthLength year (before + 1)
      = ∑ earlier ∈ Finset.range (before + 1), monthLength year (earlier + 1) :=
        (Finset.sum_range_succ _ _).symm
    _ ≤ daysBeforeMonth year month' :=
        Finset.sum_le_sum_of_subset (Finset.range_mono (Nat.le_sub_one_of_lt h))

theorem daysBefore_lt_of_month_lt (h : IsDate year month day) (hlt : month < month') :
    daysBefore year month day < daysBefore year month' day' := by
  have hmonth := daysBeforeMonth_add_le year h.month_pos hlt
  have hle := h.day_le
  have hpos := h.day_pos
  unfold daysBefore
  omega

theorem daysBefore_lt_of_year_lt (h : IsDate year month day) (hlt : year < year') :
    daysBefore year month day < daysBefore year' month' day' := by
  have hmonth : daysBeforeMonth year month + monthLength year month ≤ yearLength year :=
    daysBeforeMonth_add_le year h.month_pos (Nat.lt_succ_of_le h.month_le)
  have hyear : daysBeforeYear year + yearLength year ≤ daysBeforeYear year' := by
    rw [daysBeforeYear, ← Finset.sum_range_succ]
    exact Finset.sum_le_sum_of_subset (Finset.range_mono hlt)
  have hle := h.day_le
  have hpos := h.day_pos
  unfold daysBefore
  omega

/-- **Of two dates, the one with fewer days before it is the earlier one.** -/
theorem daysBefore_lt_iff (h : IsDate year month day) (h' : IsDate year' month' day') :
    daysBefore year month day < daysBefore year' month' day' ↔
      year < year' ∨ year = year' ∧ (month < month' ∨ month = month' ∧ day < day') := by
  rcases lt_trichotomy year year' with hlt | rfl | hgt
  · simp [hlt, daysBefore_lt_of_year_lt h hlt]
  · rcases lt_trichotomy month month' with hlt | rfl | hgt
    · simp [hlt, daysBefore_lt_of_month_lt h hlt]
    · have hpos := h.day_pos
      have hpos' := h'.day_pos
      simp [daysBefore]
      omega
    · simp [hgt.not_gt, hgt.ne', (daysBefore_lt_of_month_lt h' hgt).le]
  · simp [hgt.not_gt, hgt.ne', (daysBefore_lt_of_year_lt h' hgt).le]

theorem daysBefore_eq_iff (h : IsDate year month day) (h' : IsDate year' month' day') :
    daysBefore year month day = daysBefore year' month' day' ↔
      year = year' ∧ month = month' ∧ day = day' := by
  have hlt := daysBefore_lt_iff h h'
  have hgt := daysBefore_lt_iff h' h
  omega

end Order

end Formulary.Calendar
