import Mathlib.Tactic.IntervalCases

/-!
The proleptic Gregorian calendar.

A `Date` is a calendar date, so one that does not exist cannot be built. Its day number
counts from 1970-01-01: that date has number zero and the next date the next number, so no
two dates share one. `MarchDay` is the same count from the other end: it takes years to
begin in March, and splits a day into eras of 400 years, centuries, leap cycles of four
years, years and days, each a digit that only a leap day lengthens.
-/

namespace Afanctl.Lib

/-! ### Years and months -/

/-- Whether a year is a leap year, as a number of days. -/
def leapDay (year : Int) : Int :=
  if year % 4 = 0 ∧ (year % 100 ≠ 0 ∨ year % 400 = 0) then 1 else 0

def monthLength (year : Int) : Nat → Int
  | 2 => 28 + leapDay year
  | 4 | 6 | 9 | 11 => 30
  | _ => 31

/-- The days of the first `months` months of a year. -/
def daysOfMonths (year : Int) : Nat → Int
  | 0 => 0
  | months + 1 => daysOfMonths year months + monthLength year (months + 1)

/-- The days from 0001-01-01 to the first of January. -/
def daysBeforeYear (year : Int) : Int :=
  365 * (year - 1) + (year - 1) / 4 - (year - 1) / 100 + (year - 1) / 400

theorem leapDay_mem (year : Int) : leapDay year = 0 ∨ leapDay year = 1 := by
  unfold leapDay
  split
  · exact Or.inr rfl
  · exact Or.inl rfl

theorem monthLength_pos (year : Int) (month : Nat) : 1 ≤ monthLength year month := by
  have leap := leapDay_mem year
  unfold monthLength
  split <;> omega

/-- A year has the days of its twelve months. -/
theorem daysOfMonths_twelve (year : Int) : daysOfMonths year 12 = 365 + leapDay year := by
  simp only [daysOfMonths, monthLength]
  omega

theorem daysBeforeYear_succ (year : Int) :
    daysBeforeYear (year + 1) = daysBeforeYear year + daysOfMonths year 12 := by
  rw [daysOfMonths_twelve]
  unfold daysBeforeYear leapDay
  split <;> omega

theorem daysOfMonths_mono (year : Int) {a b : Nat} (le : a ≤ b) :
    daysOfMonths year a ≤ daysOfMonths year b := by
  induction b, le using Nat.le_induction with
  | base => exact Int.le_refl _
  | succ b _ ih =>
      have length := monthLength_pos year (b + 1)
      rw [daysOfMonths]
      omega

/-- A year ends before a later one begins. -/
theorem daysBeforeYear_lt {year later : Int} (lt : year < later) :
    daysBeforeYear year + daysOfMonths year 12 ≤ daysBeforeYear later := by
  rw [← daysBeforeYear_succ]
  unfold daysBeforeYear
  omega

/-! ### Dates -/

/-- A date of the calendar. -/
structure Date where
  year : Int
  month : Nat
  day : Nat
  month_pos : 1 ≤ month
  month_le : month ≤ 12
  day_pos : 1 ≤ day
  day_le : day ≤ monthLength year month

namespace Date

def epoch : Date := ⟨1970, 1, 1, by decide, by decide, by decide, by decide⟩

/-- The date's place in its year, from zero. -/
def dayOfYear (date : Date) : Int := daysOfMonths date.year (date.month - 1) + (date.day - 1)

/-- The days from 1970-01-01. -/
def dayNumber (date : Date) : Int :=
  daysBeforeYear date.year - daysBeforeYear 1970 + date.dayOfYear

/-- The next day of the month, the first of the next month or the next New Year's Day. -/
def next (date : Date) : Date :=
  if inMonth : date.day < monthLength date.year date.month then
    { date with day := date.day + 1, day_pos := by omega, day_le := by omega }
  else if inYear : date.month < 12 then
    ⟨date.year, date.month + 1, 1, by omega, inYear, by decide, monthLength_pos _ _⟩
  else ⟨date.year + 1, 1, 1, by decide, by decide, by decide, monthLength_pos _ _⟩

theorem dayNumber_epoch : epoch.dayNumber = 0 := by decide

theorem ext {a b : Date} (year : a.year = b.year) (month : a.month = b.month)
    (day : a.day = b.day) : a = b := by
  cases a
  cases b
  cases year
  cases month
  cases day
  rfl

/-- The next date has the next number. -/
theorem dayNumber_next (date : Date) : date.next.dayNumber = date.dayNumber + 1 := by
  have day_le := date.day_le
  obtain ⟨before, month⟩ : ∃ before, date.month = before + 1 := ⟨date.month - 1, by
    have := date.month_pos
    omega⟩
  unfold next dayNumber dayOfYear
  split
  · simp only
    omega
  · next monthEnds =>
      have last : (date.day : Int) = monthLength date.year date.month := by omega
      rw [month] at last
      split
      · simp only [month, Nat.add_sub_cancel, daysOfMonths]
        omega
      · next yearEnds =>
          have december : before = 11 := by
            have := date.month_le
            omega
          subst december
          have year := daysBeforeYear_succ date.year
          simp only [daysOfMonths] at year
          simp only [month, Nat.add_sub_cancel, Nat.sub_self, daysOfMonths]
          omega

theorem dayOfYear_mem (date : Date) :
    0 ≤ date.dayOfYear ∧ date.dayOfYear < daysOfMonths date.year 12 := by
  have before := daysOfMonths_mono date.year (Nat.zero_le (date.month - 1))
  have month_pos := date.month_pos
  have day_pos := date.day_pos
  have day_le := date.day_le
  have within : daysOfMonths date.year (date.month - 1 + 1) ≤ daysOfMonths date.year 12 :=
    daysOfMonths_mono date.year (by have := date.month_le; omega)
  rw [daysOfMonths, Nat.sub_add_cancel month_pos] at within
  rw [daysOfMonths] at before
  unfold dayOfYear
  omega

/-- Dates of one year are told apart by their place in it. -/
theorem eq_of_dayOfYear {a b : Date} (year : a.year = b.year)
    (place : a.dayOfYear = b.dayOfYear) : a = b := by
  have before {a b : Date} (year : a.year = b.year) (lt : a.month < b.month) :
      a.dayOfYear < b.dayOfYear := by
    have month_pos := a.month_pos
    have day_pos := b.day_pos
    have day_le := a.day_le
    have later : daysOfMonths a.year (a.month - 1 + 1) ≤ daysOfMonths a.year (b.month - 1) :=
      daysOfMonths_mono a.year (by omega)
    rw [daysOfMonths, Nat.sub_add_cancel month_pos] at later
    unfold dayOfYear
    rw [← year]
    omega
  have month : a.month = b.month := by
    rcases Nat.lt_trichotomy a.month b.month with lt | eq | lt
    · exact absurd place (Int.ne_of_lt (before year lt))
    · exact eq
    · exact absurd place.symm (Int.ne_of_lt (before year.symm lt))
  have day : a.day = b.day := by
    unfold dayOfYear at place
    rw [year, month] at place
    omega
  exact ext year month day

theorem dayNumber_lt_of_year_lt {a b : Date} (lt : a.year < b.year) :
    a.dayNumber < b.dayNumber := by
  have years := daysBeforeYear_lt lt
  have ends := a.dayOfYear_mem
  have begins := b.dayOfYear_mem
  unfold dayNumber
  omega

/-- No two dates share a day number. -/
theorem dayNumber_injective {a b : Date} (number : a.dayNumber = b.dayNumber) : a = b := by
  have year : a.year = b.year := by
    rcases Int.lt_trichotomy a.year b.year with lt | eq | lt
    · exact absurd number (Int.ne_of_lt (dayNumber_lt_of_year_lt lt))
    · exact eq
    · exact absurd number.symm (Int.ne_of_lt (dayNumber_lt_of_year_lt lt))
  have place : a.dayOfYear = b.dayOfYear := by
    unfold dayNumber at number
    rw [year] at number
    omega
  exact eq_of_dayOfYear year place

end Date

/-! ### Years that begin in March -/

/-- The days of the first months of a year that begins in March. -/
def daysFromMarch (months : Nat) : Nat := (153 * months + 2) / 5

theorem daysOfMonths_from_march (year : Int) {months : Nat} (le : months ≤ 10) :
    daysOfMonths year (months + 2) = 59 + leapDay year + daysFromMarch months := by
  interval_cases months <;> (simp only [daysOfMonths, monthLength, daysFromMarch]; omega)

/-- A day by its era, century, leap cycle, year and place in a year that begins in March.
A century is a leap day short of its cycles, so only the last one of an era can be full. -/
structure MarchDay where
  era : Int
  century : Nat
  cycle : Nat
  year : Nat
  day : Nat
  century_le : century ≤ 3
  cycle_le : cycle ≤ 24
  year_le : year ≤ 3
  day_le : day ≤ 365
  leap : day = 365 → year = 3 ∧ (cycle = 24 → century = 3)

namespace MarchDay

/-- The years since the era began. -/
def yearOfEra (m : MarchDay) : Int := 100 * m.century + 4 * m.cycle + m.year

/-- The days since the era began. -/
def dayOfEra (m : MarchDay) : Int := 36524 * m.century + 1461 * m.cycle + 365 * m.year + m.day

/-- The calendar year in which the day's year begins. -/
def begins (m : MarchDay) : Int := m.yearOfEra + m.era * 400

/-- The days from 0000-03-01. -/
def number (m : MarchDay) : Int := m.era * 146097 + m.dayOfEra

theorem yearOfEra_mem (m : MarchDay) : 0 ≤ m.yearOfEra ∧ m.yearOfEra ≤ 399 := by
  obtain ⟨era, century, cycle, year, day, century_le, cycle_le, year_le, day_le, leap⟩ := m
  unfold yearOfEra
  simp only
  omega

theorem dayOfEra_mem (m : MarchDay) : 0 ≤ m.dayOfEra ∧ m.dayOfEra ≤ 146096 := by
  obtain ⟨era, century, cycle, year, day, century_le, cycle_le, year_le, day_le, leap⟩ := m
  unfold dayOfEra
  simp only
  omega

/-- Every day number splits into its digits. -/
theorem exists_number (z : Int) : ∃ m : MarchDay, m.number = z := by
  obtain ⟨doe, inEra⟩ : ∃ doe : Nat, (doe : Int) = z % 146097 := ⟨(z % 146097).toNat, by omega⟩
  obtain ⟨century, hcentury⟩ : ∃ century, century = min (doe / 36524) 3 := ⟨_, rfl⟩
  obtain ⟨year, hyear⟩ : ∃ year, year = min ((doe - 36524 * century) % 1461 / 365) 3 := ⟨_, rfl⟩
  refine ⟨⟨z / 146097, century, (doe - 36524 * century) / 1461, year,
    (doe - 36524 * century) % 1461 - 365 * year, ?_, ?_, ?_, ?_, ?_⟩, ?_⟩
  · omega
  · omega
  · omega
  · omega
  · omega
  · unfold number dayOfEra
    simp only
    omega

/-- A year that begins in March is longer if the calendar year it ends in is a leap year. -/
theorem day_le_leapDay (m : MarchDay) : m.day ≤ 364 + leapDay (m.begins + 1) := by
  obtain ⟨era, century, cycle, year, day, century_le, cycle_le, year_le, day_le, leap⟩ := m
  unfold leapDay begins yearOfEra
  simp only
  split <;> omega

theorem number_eq (m : MarchDay) : m.number = daysBeforeYear (m.begins + 1) + m.day := by
  obtain ⟨era, century, cycle, year, day, century_le, cycle_le, year_le, day_le, leap⟩ := m
  unfold daysBeforeYear begins number yearOfEra dayOfEra
  simp only
  omega

/-- The month of a day, counted from March. -/
def marchMonth (m : MarchDay) : Nat := (5 * m.day + 2) / 153

/-- The day's place in that month, from zero. -/
def dayOfMonth (m : MarchDay) : Nat := m.day - daysFromMarch m.marchMonth

theorem daysFromMarch_le (m : MarchDay) : daysFromMarch m.marchMonth ≤ m.day := by
  unfold daysFromMarch marchMonth
  omega

theorem day_lt_daysFromMarch (m : MarchDay) : m.day < daysFromMarch (m.marchMonth + 1) := by
  unfold daysFromMarch marchMonth
  omega

theorem marchMonth_lt (m : MarchDay) : m.marchMonth < 12 := by
  have day_le := m.day_le
  unfold marchMonth
  omega

theorem dayOfMonth_le_spring {m : MarchDay} (spring : m.marchMonth < 10) :
    ((m.dayOfMonth + 1 : Nat) : Int) ≤ monthLength m.begins (m.marchMonth + 3) := by
  have starts := m.daysFromMarch_le
  have ends := m.day_lt_daysFromMarch
  have before := daysOfMonths_from_march m.begins (Nat.le_of_lt spring)
  have through := daysOfMonths_from_march m.begins (show m.marchMonth + 1 ≤ 10 from spring)
  have month : daysOfMonths m.begins (m.marchMonth + 1 + 2) =
      daysOfMonths m.begins (m.marchMonth + 2) + monthLength m.begins (m.marchMonth + 3) := rfl
  unfold dayOfMonth
  omega

theorem winter_cases {m : MarchDay} (winter : ¬m.marchMonth < 10) :
    m.marchMonth = 10 ∨ m.marchMonth = 11 := by
  have month_lt := m.marchMonth_lt
  omega

/-- The last month of a year that begins in March is February, which has the leap day. -/
theorem dayOfMonth_le_winter {m : MarchDay} (winter : ¬m.marchMonth < 10) :
    ((m.dayOfMonth + 1 : Nat) : Int) ≤ monthLength (m.begins + 1) (m.marchMonth - 9) := by
  have starts := m.daysFromMarch_le
  have ends := m.day_lt_daysFromMarch
  have leap := m.day_le_leapDay
  unfold dayOfMonth
  rcases winter_cases winter with january | february
  · rw [january] at ends ⊢
    simp only [daysFromMarch, monthLength] at ends ⊢
    omega
  · rw [february] at starts ⊢
    simp only [daysFromMarch, monthLength] at starts ⊢
    omega

/-- The calendar date of a day. -/
def date (m : MarchDay) : Date :=
  if spring : m.marchMonth < 10 then
    ⟨m.begins, m.marchMonth + 3, m.dayOfMonth + 1, Nat.le_add_left 1 _, Nat.add_le_add_right
      (Nat.le_of_lt_succ spring) 3, Nat.le_add_left 1 _, dayOfMonth_le_spring spring⟩
  else
    ⟨m.begins + 1, m.marchMonth - 9, m.dayOfMonth + 1,
      Nat.le_sub_of_add_le (Nat.le_of_not_lt spring), Nat.sub_le_of_le_add
      (Nat.le_trans (Nat.le_of_lt m.marchMonth_lt) (Nat.le_add_right 12 9)),
      Nat.le_add_left 1 _, dayOfMonth_le_winter spring⟩

/-- The date has the day's number, but for where the two counts begin. -/
theorem dayNumber_date (m : MarchDay) : m.date.dayNumber = m.number - 719468 := by
  have starts := m.daysFromMarch_le
  rw [number_eq]
  unfold date
  split
  · next spring =>
      have before := daysOfMonths_from_march m.begins (Nat.le_of_lt spring)
      have year := daysBeforeYear_succ m.begins
      rw [daysOfMonths_twelve] at year
      unfold Date.dayNumber Date.dayOfYear dayOfMonth
      simp only
      rw [show m.marchMonth + 3 - 1 = m.marchMonth + 2 from rfl,
        show daysBeforeYear 1970 = 719162 from rfl]
      omega
  · next winter =>
      unfold Date.dayNumber Date.dayOfYear dayOfMonth
      simp only
      rw [show daysBeforeYear 1970 = 719162 from rfl]
      rcases winter_cases winter with january | february
      · have before : daysOfMonths (m.begins + 1) (10 - 9 - 1) = 0 := rfl
        rw [january] at starts ⊢
        unfold daysFromMarch at starts ⊢
        omega
      · have before : daysOfMonths (m.begins + 1) (11 - 9 - 1) = 31 := rfl
        rw [february] at starts ⊢
        unfold daysFromMarch at starts ⊢
        omega

end MarchDay
end Afanctl.Lib
