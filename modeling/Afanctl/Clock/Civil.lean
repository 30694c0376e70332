import Afanctl.Clock
import Afanctl.Lib.Checked
import Afanctl.Lib.Gregorian

/-!
The civil date of a day number.

The source's truncating divisions recover the digits of a `MarchDay`: dropping the days by
which the leap cycles, centuries and eras before it lengthen the count leaves 365 days for
each year. `civilFromDaysChecked` is the function once more with every `i64` operation and
cast checked.
-/

namespace Afanctl

open Afanctl.Lib

/-- `civilFromDays`, with a result only if nothing in it overflows. -/
def civilFromDaysChecked (days : Int) : Option (Int × Int × Int) := do
  let z ← i64.add days 719468
  let shifted ← (if 0 ≤ z then some z else i64.sub z 146096)
  let era ← i64.div shifted 146097
  let doe ← i64.sub z (← i64.mul era 146097)
  let cycles ← i64.sub doe (← i64.div doe 1460)
  let centuries ← i64.add cycles (← i64.div doe 36524)
  let yoe ← i64.div (← i64.sub centuries (← i64.div doe 146096)) 365
  let year ← i64.add yoe (← i64.mul era 400)
  let before ← i64.add (← i64.mul 365 yoe) (← i64.div yoe 4)
  let doy ← i64.sub doe (← i64.sub before (← i64.div yoe 100))
  let mp ← i64.div (← i64.add (← i64.mul 5 doy) 2) 153
  let months ← i64.div (← i64.add (← i64.mul 153 mp) 2) 5
  let day ← i64.add (← i64.sub doy months) 1
  let month ← (if mp < 10 then i64.add mp 3 else i64.sub mp 9)
  let year ← (if month ≤ 2 then i64.add year 1 else some year)
  return (year, ← u32.fit month, ← u32.fit day)

/-- The triple the source returns for a date. -/
def civil (date : Date) : Int × Int × Int := (date.year, date.month, date.day)

namespace Lib.MarchDay

variable (m : MarchDay)

/-- The truncating division rounds down, on either side of the epoch. -/
theorem era_eq : (if 0 ≤ m.number then m.number else m.number - 146096).tdiv 146097 = m.era := by
  obtain ⟨low, high⟩ := m.dayOfEra_mem
  unfold number
  split
  · next after =>
      rw [Int.tdiv_eq_ediv_of_nonneg after]
      omega
  · next before =>
      rw [← Int.neg_neg (m.era * 146097 + m.dayOfEra - 146096), Int.neg_tdiv,
        Int.tdiv_eq_ediv_of_nonneg (by omega)]
      omega

theorem dayOfEra_eq : m.number - m.era * 146097 = m.dayOfEra := by
  unfold number
  omega

/-- Without its leap days every year of the era has 365 days. -/
theorem yearOfEra_eq :
    (m.dayOfEra - m.dayOfEra / 1460 + m.dayOfEra / 36524 - m.dayOfEra / 146096) / 365 =
      m.yearOfEra := by
  obtain ⟨era, century, cycle, year, day, century_le, cycle_le, year_le, day_le, leap⟩ := m
  unfold dayOfEra yearOfEra
  simp only
  obtain ⟨doe, split⟩ : ∃ doe : Int,
      doe = 36524 * century + 1461 * cycle + 365 * year + day := ⟨_, rfl⟩
  rw [← split]
  -- Counting 1460 days a cycle runs ahead a day a cycle, 97 days by the end of the era.
  have cycles : doe / 1460 =
      25 * century + cycle + (24 * century + cycle + 365 * year + day) / 1460 := by omega
  have carry : (24 * century + cycle + 365 * year + day : Int) / 1460 = 0 ∨
      (24 * century + cycle + 365 * year + day : Int) / 1460 = 1 := by omega
  by_cases final : doe = 146096
  · subst final
    omega
  · have centuries : doe / 36524 = century := by omega
    have eras : doe / 146096 = 0 := by omega
    rcases carry with carry | carry <;> omega

theorem day_eq :
    m.dayOfEra - (365 * m.yearOfEra + m.yearOfEra / 4 - m.yearOfEra / 100) = m.day := by
  obtain ⟨era, century, cycle, year, day, century_le, cycle_le, year_le, day_le, leap⟩ := m
  unfold dayOfEra yearOfEra
  simp only
  omega

theorem marchMonth_eq : (5 * (m.day : Int) + 2) / 153 = m.marchMonth := by
  unfold marchMonth
  omega

theorem dayOfMonth_eq :
    (m.day : Int) - (153 * m.marchMonth + 2) / 5 + 1 = (m.dayOfMonth + 1 : Nat) := by
  have starts := m.daysFromMarch_le
  unfold dayOfMonth
  unfold daysFromMarch at starts ⊢
  omega

/-- March is the third month, and the calendar year turns after December. -/
theorem civil_date {month : Int} (hmonth : month =
      if (m.marchMonth : Int) < 10 then (m.marchMonth : Int) + 3 else m.marchMonth - 9) :
    civil m.date =
      (if month ≤ 2 then m.begins + 1 else m.begins, month, ((m.dayOfMonth + 1 : Nat) : Int)) := by
  unfold date
  split
  · next spring =>
      rw [if_pos (by omega)] at hmonth
      rw [if_neg (by omega), hmonth]
      rfl
  · next winter =>
      have ends := winter_cases winter
      rw [if_neg (by omega)] at hmonth
      rw [if_pos (by omega), hmonth, civil, Int.ofNat_sub (by omega)]
      rfl

/-!
### The stages of the checked function

Each goes on with the digits it is to find.
-/

section Checked

variable {α : Type} {r : Option α}

theorem era_mem (near : -1000000000000 ≤ m.number ∧ m.number ≤ 1000000719468) :
    -10000000 ≤ m.era ∧ m.era ≤ 10000000 := by
  obtain ⟨low, high⟩ := m.dayOfEra_mem
  unfold number at near
  omega

theorem era_checked {k : Int → Int → Option α}
    (near : -1000000000000 ≤ m.number ∧ m.number ≤ 1000000719468)
    (rest : k m.era m.dayOfEra = r) : (do
      let shifted ← (if 0 ≤ m.number then some m.number else i64.sub m.number 146096)
      let era ← i64.div shifted 146097
      let doe ← i64.sub m.number (← i64.mul era 146097)
      k era doe) = r := by
  obtain ⟨low, high⟩ := m.dayOfEra_mem
  obtain ⟨era_low, era_high⟩ := m.era_mem near
  have shifted : (if 0 ≤ m.number then some m.number else i64.sub m.number 146096) =
      some (if 0 ≤ m.number then m.number else m.number - 146096) := by
    split
    · rfl
    · exact IntType.i64_fit (by omega) (by omega)
  have era : i64.div (if 0 ≤ m.number then m.number else m.number - 146096) 146097 =
      some m.era := by
    rw [IntType.div_of_ne (by decide), m.era_eq]
    exact IntType.i64_fit (by omega) (by omega)
  have doe : i64.sub m.number (m.era * 146097) = some m.dayOfEra := by
    rw [← m.dayOfEra_eq]
    exact IntType.i64_fit (by omega) (by omega)
  refine bind_of_eq_some shifted (bind_of_eq_some era ?_)
  exact i64_bind (by omega) (by omega) (bind_of_eq_some doe rest)

theorem yearOfEra_checked {k : Int → Option α} (rest : k m.yearOfEra = r) : (do
    let cycles ← i64.sub m.dayOfEra (← i64.div m.dayOfEra 1460)
    let centuries ← i64.add cycles (← i64.div m.dayOfEra 36524)
    let yoe ← i64.div (← i64.sub centuries (← i64.div m.dayOfEra 146096)) 365
    k yoe) = r := by
  obtain ⟨low, high⟩ := m.dayOfEra_mem
  have yoe : i64.div (m.dayOfEra - m.dayOfEra / 1460 + m.dayOfEra / 36524 -
      m.dayOfEra / 146096) 365 = some m.yearOfEra := by
    rw [IntType.i64_div_of_nonneg (by omega) (by omega) (by decide), m.yearOfEra_eq]
  refine i64_bind_div low (by omega) (by decide) ?_
  refine i64_bind (by omega) (by omega) ?_
  refine i64_bind_div low (by omega) (by decide) ?_
  refine i64_bind (by omega) (by omega) ?_
  refine i64_bind_div low (by omega) (by decide) ?_
  exact i64_bind (by omega) (by omega) (bind_of_eq_some yoe rest)

theorem dayOfYear_checked {k : Int → Option α} (rest : k m.day = r) : (do
    let before ← i64.add (← i64.mul 365 m.yearOfEra) (← i64.div m.yearOfEra 4)
    let doy ← i64.sub m.dayOfEra (← i64.sub before (← i64.div m.yearOfEra 100))
    k doy) = r := by
  obtain ⟨low, high⟩ := m.yearOfEra_mem
  have day_le := m.day_le
  have doy : i64.sub m.dayOfEra (365 * m.yearOfEra + m.yearOfEra / 4 - m.yearOfEra / 100) =
      some (m.day : Int) := by
    rw [← m.day_eq]
    exact IntType.i64_fit (by rw [m.day_eq]; omega) (by rw [m.day_eq]; omega)
  refine i64_bind (by omega) (by omega) ?_
  refine i64_bind_div low (by omega) (by decide) ?_
  refine i64_bind (by omega) (by omega) ?_
  refine i64_bind_div low (by omega) (by decide) ?_
  exact i64_bind (by omega) (by omega) (bind_of_eq_some doy rest)

/-- Month, day and calendar year, with the casts. -/
theorem date_checked (near : -5000000000 ≤ m.begins ∧ m.begins ≤ 5000000000) : (do
    let mp ← i64.div (← i64.add (← i64.mul 5 (m.day : Int)) 2) 153
    let months ← i64.div (← i64.add (← i64.mul 153 mp) 2) 5
    let day ← i64.add (← i64.sub (m.day : Int) months) 1
    let month ← (if mp < 10 then i64.add mp 3 else i64.sub mp 9)
    let year ← (if month ≤ 2 then i64.add m.begins 1 else some m.begins)
    return (year, ← u32.fit month, ← u32.fit day)) = some (civil m.date) := by
  have day_le := m.day_le
  have month_lt := m.marchMonth_lt
  have ofMonth_le : m.dayOfMonth ≤ m.day := Nat.sub_le _ _
  have mp : i64.div (5 * (m.day : Int) + 2) 153 = some (m.marchMonth : Int) := by
    rw [IntType.i64_div_of_nonneg (by omega) (by omega) (by decide), m.marchMonth_eq]
  have day : i64.add (m.day - (153 * (m.marchMonth : Int) + 2) / 5) 1 =
      some ((m.dayOfMonth + 1 : Nat) : Int) := by
    rw [← m.dayOfMonth_eq]
    exact IntType.i64_fit (by omega) (by omega)
  obtain ⟨month, hmonth⟩ : ∃ month : Int, month =
      if (m.marchMonth : Int) < 10 then (m.marchMonth : Int) + 3 else m.marchMonth - 9 := ⟨_, rfl⟩
  have inYear : (if (m.marchMonth : Int) < 10 then i64.add m.marchMonth 3
      else i64.sub m.marchMonth 9) = some month := by
    rw [hmonth]
    split <;> exact IntType.i64_fit (by omega) (by omega)
  have year : (if month ≤ 2 then i64.add m.begins 1 else some m.begins) =
      some (if month ≤ 2 then m.begins + 1 else m.begins) := by
    split
    · exact IntType.i64_fit (by omega) (by omega)
    · rfl
  have month_mem : 0 ≤ month ∧ month ≤ 4294967295 := by
    split at hmonth <;> omega
  rw [m.civil_date hmonth]
  refine i64_bind (by omega) (by omega) ?_
  refine i64_bind (by omega) (by omega) (bind_of_eq_some mp ?_)
  refine i64_bind (by omega) (by omega) ?_
  refine i64_bind (by omega) (by omega) ?_
  refine i64_bind_div (by omega) (by omega) (by decide) ?_
  refine i64_bind (by omega) (by omega) (bind_of_eq_some day ?_)
  refine bind_of_eq_some inYear (bind_of_eq_some year ?_)
  refine bind_of_eq_some (IntType.u32_fit month_mem.1 month_mem.2) ?_
  exact bind_of_eq_some (IntType.u32_fit (by omega) (by omega)) rfl

end Checked

end Lib.MarchDay

section Days

variable {d : Int} {m : MarchDay}

/-- The source's arithmetic computes the calendar date of the day with its number. -/
theorem civilFromDays_of_number (number : m.number = d + 719468) :
    civilFromDays d = civil m.date := by
  have doe := m.dayOfEra_mem
  have yoe := m.yearOfEra_mem
  have inYears : (m.dayOfEra - m.dayOfEra.tdiv 1460 + m.dayOfEra.tdiv 36524 -
      m.dayOfEra.tdiv 146096).tdiv 365 = m.yearOfEra := by
    iterate 3 rw [Int.tdiv_eq_ediv_of_nonneg doe.1]
    rw [Int.tdiv_eq_ediv_of_nonneg (by omega), m.yearOfEra_eq]
  have inDays : m.dayOfEra - (365 * m.yearOfEra + m.yearOfEra.tdiv 4 - m.yearOfEra.tdiv 100) =
      m.day := by
    rw [Int.tdiv_eq_ediv_of_nonneg yoe.1, Int.tdiv_eq_ediv_of_nonneg yoe.1, m.day_eq]
  have inMonths : (5 * (m.day : Int) + 2).tdiv 153 = m.marchMonth := by
    rw [Int.tdiv_eq_ediv_of_nonneg (by omega), m.marchMonth_eq]
  have ofMonth : (m.day : Int) - (153 * (m.marchMonth : Int) + 2).tdiv 5 + 1 =
      (m.dayOfMonth + 1 : Nat) := by
    rw [Int.tdiv_eq_ediv_of_nonneg (by omega), m.dayOfMonth_eq]
  rw [m.civil_date rfl, civilFromDays, ← number]
  simp only [m.era_eq, m.dayOfEra_eq, inYears, inDays, inMonths, ofMonth]
  rfl

/-- Near enough to the epoch nothing overflows, and the casts keep month and day. -/
theorem civilFromDaysChecked_of_number (number : m.number = d + 719468)
    (low : -1000000000000 ≤ d) (high : d ≤ 1000000000000) :
    civilFromDaysChecked d = some (civil m.date) := by
  have near : -1000000000000 ≤ m.number ∧ m.number ≤ 1000000719468 := by omega
  obtain ⟨yoe_low, yoe_high⟩ := m.yearOfEra_mem
  obtain ⟨era_low, era_high⟩ := m.era_mem near
  have z : i64.add d 719468 = some m.number := by
    rw [number]
    exact IntType.i64_fit (by omega) (by omega)
  refine bind_of_eq_some z (m.era_checked near ?_)
  refine m.yearOfEra_checked ?_
  refine i64_bind (by omega) (by omega) ?_
  refine i64_bind (by omega) (by omega) ?_
  exact m.dayOfYear_checked (m.date_checked (by unfold MarchDay.begins; omega))

/-- Every day number is some date's. -/
theorem exists_dayNumber (d : Int) : ∃ date : Date, date.dayNumber = d := by
  obtain ⟨m, number⟩ := MarchDay.exists_number (d + 719468)
  refine ⟨m.date, ?_⟩
  rw [m.dayNumber_date, number]
  omega

/-- The source inverts the day count of every date. -/
theorem civilFromDays_dayNumber (date : Date) : civilFromDays date.dayNumber = civil date := by
  obtain ⟨m, number⟩ := MarchDay.exists_number (date.dayNumber + 719468)
  have same : m.date = date := by
    apply Date.dayNumber_injective
    rw [m.dayNumber_date, number]
    omega
  rw [civilFromDays_of_number number, same]

theorem civilFromDaysChecked_eq (low : -1000000000000 ≤ d) (high : d ≤ 1000000000000) :
    civilFromDaysChecked d = some (civilFromDays d) := by
  obtain ⟨m, number⟩ := MarchDay.exists_number (d + 719468)
  rw [civilFromDays_of_number number, civilFromDaysChecked_of_number number low high]

end Days

/-- Within 10^12 days of 1970-01-01 the source returns the date with the day number, the
next number gives the next date, and no operation or cast on the way overflows. -/
theorem civilFromDays_exact {d : Int} (low : -1000000000000 ≤ d) (high : d ≤ 1000000000000) :
    (∃ date : Date, civilFromDays d = civil date ∧ date.dayNumber = d ∧
      civilFromDays (d + 1) = civil date.next) ∧
    (∀ date : Date, date.dayNumber = d → civilFromDays d = civil date) ∧
    civilFromDaysChecked d = some (civilFromDays d) := by
  refine ⟨?_, ?_, civilFromDaysChecked_eq low high⟩
  · obtain ⟨date, number⟩ := exists_dayNumber d
    refine ⟨date, ?_, number, ?_⟩
    · rw [← number, civilFromDays_dayNumber]
    · rw [← number, ← date.dayNumber_next, civilFromDays_dayNumber]
  · intro date number
    rw [← number, civilFromDays_dayNumber]

example : civilFromDays 20710 = (2026, 9, 14) := by decide

/-- The leap day that the 400-year rule adds back. -/
theorem civilFromDays_exact_leapDay :
    civilFromDays 11016 = (2000, 2, 29) ∧ civilFromDays 11017 = (2000, 3, 1) ∧
      (∃ date : Date, civilFromDays 11016 = civil date ∧ date.dayNumber = 11016 ∧
        civilFromDays (11016 + 1) = civil date.next) ∧
      civilFromDaysChecked 11016 = some (civilFromDays 11016) := by
  obtain ⟨exact, -, checked⟩ := civilFromDays_exact (d := 11016) (by decide) (by decide)
  exact ⟨by decide, by decide, exact, checked⟩

end Afanctl
