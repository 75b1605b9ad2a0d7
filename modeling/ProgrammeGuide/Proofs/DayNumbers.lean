import Mathlib.Data.Rat.Lemmas
import Mathlib.Tactic.IntervalCases
import Mathlib.Tactic.Ring
import ProgrammeGuide.Proofs.Calendar
import ProgrammeGuide.Time.CalendarDate

/-!
Day numbers and the calendar. The formula for the date of a day number counts years of 365.25
days from 1 March 1900 and months of 30.6001 days from the March that begins each of them. Up to
the last day number that two octets hold this is the Gregorian calendar.
-/

namespace ProgrammeGuide

namespace Gregorian

theorem daysInMonth_eq (year : Nat) {month : Nat} (march : 3 ≤ month) (december : month ≤ 12) :
    daysInMonth year month + (month + 1) * 306001 / 10000 = (month + 1 + 1) * 306001 / 10000 := by
  interval_cases month <;> rfl

theorem daysBeforeMonth_eq (year : Nat) {month : Nat} (march : 3 ≤ month) (december : month ≤ 12) :
    daysBeforeMonth year month + 122 =
      31 + daysInMonth year 2 + (month + 1) * 306001 / 10000 := by
  induction march with
  | refl =>
      change 0 + 31 + daysInMonth year 2 + 122 = 31 + daysInMonth year 2 + 122
      omega
  | @step earlier reached ih =>
      have march : 3 ≤ earlier := reached
      have before := ih (by omega)
      have own := daysInMonth_eq year march (by omega)
      rw [daysBeforeMonth_succ year (by omega)]
      omega

theorem daysBeforeYear_succ (year : Nat) :
    daysBeforeYear (year + 1) = daysBeforeYear year + (337 + daysInMonth year 2) := by
  rw [daysBeforeYear, daysInYear]

theorem daysBeforeYear_of_lt {year : Nat} (near : year < 199) :
    daysBeforeYear (1901 + year) = 694326 + (365 * year + year / 4) := by
  -- From 1901 to 2099 every fourth year has a leap day.
  have counted := daysBeforeYear_eq (1901 + year)
  omega

theorem daysInFebruary_of_lt {year : Nat} (near : year < 199) :
    28 + (year + 1) / 4 - year / 4 = daysInMonth (1901 + year) 2 := by
  have february := daysInFebruary (1901 + year)
  split_ifs at february <;> omega

end Gregorian

namespace CalendarDate

def truncated (quotient : ℚ) : Int := quotient.num.tdiv quotient.den

theorem tdiv_eq_truncated {value divisor : Int} (positive : 0 < divisor) {quotient : ℚ}
    (exactly : quotient = value / divisor) : value.tdiv divisor = truncated quotient := by
  obtain ⟨factor, numerator, denominator⟩ :=
    Rat.exists_eq_mul_div_num_and_eq_mul_div_den value (ne_of_gt positive)
  rw [← exactly] at numerator denominator
  have factorPositive : 0 < factor := by
    rw [denominator] at positive
    exact pos_of_mul_pos_left positive (Int.natCast_nonneg _)
  rw [numerator, denominator, Int.mul_tdiv_mul_of_pos _ _ factorPositive]
  rfl

/-- The four steps of the formula, with its decimals as exact numbers. -/
theorem quotients_truncated (number count : Int) :
    years number = truncated ((number - 15078.2) / 365.25) ∧
    daysOfYears count = truncated (count * 365.25) ∧
    months number = truncated ((number - 14956.1 - daysOfYears (years number)) / 30.6001) ∧
    daysOfMonths count = truncated (count * 30.6001) := by
  refine ⟨tdiv_eq_truncated (by decide) ?_, tdiv_eq_truncated (by decide) ?_,
    tdiv_eq_truncated (by decide) ?_, tdiv_eq_truncated (by decide) ?_⟩
  all_goals
    push_cast
    ring

/-- How the formula takes a day apart: into whole years from 1 March 1900 on, the days since the
last 1 March, the month that these have reached, with March as 4, and the day in that month. -/
structure Reckoning (number : Nat) where
  year : Nat
  sinceMarch : Nat
  month : Nat
  day : Nat
  split : number = 15079 + (365 * year + year / 4) + sinceMarch
  within : sinceMarch < 365 + (year + 1) / 4 - year / 4
  counted : sinceMarch + 123 = month * 306001 / 10000 + day
  begun : 1 ≤ day
  unended : sinceMarch + 122 < (month + 1) * 306001 / 10000

theorem daysOfYears_natCast (count : Nat) :
    daysOfYears count = (365 * count + count / 4 : Nat) := by
  rw [daysOfYears, Int.tdiv_eq_ediv_of_nonneg (by omega)]
  omega

theorem daysOfMonths_natCast (count : Nat) :
    daysOfMonths count = (count * 306001 / 10000 : Nat) := by
  rw [daysOfMonths, Int.tdiv_eq_ediv_of_nonneg (by omega)]
  omega

theorem exists_reckoning {number : Nat} (late : 15079 ≤ number) :
    ∃ reckoning : Reckoning number, years number = reckoning.year ∧
      months number = reckoning.month ∧
      dayOfMonth number = reckoning.day := by
  have yearsFloor : years number = (number * 100 - 1507820) / 36525 :=
    Int.tdiv_eq_ediv_of_nonneg (by omega)
  obtain ⟨year, yearEq⟩ : ∃ year : Nat, years number = year :=
    Int.eq_ofNat_of_zero_le (by omega)
  have yearDays := daysOfYears_natCast year
  have reached : 15079 + (365 * year + year / 4) ≤ number := by omega
  obtain ⟨sinceMarch, split⟩ := Nat.exists_eq_add_of_le reached
  have within : sinceMarch < 365 + (year + 1) / 4 - year / 4 := by omega
  have monthsFloor : months number = (sinceMarch * 10000 + 1229000) / 306001 := by
    rw [months, yearEq, yearDays, Int.tdiv_eq_ediv_of_nonneg (by omega)]
    omega
  obtain ⟨month, monthEq⟩ : ∃ month : Nat, months number = month :=
    Int.eq_ofNat_of_zero_le (by omega)
  have monthDays := daysOfMonths_natCast month
  have begun : month * 306001 / 10000 + 1 ≤ sinceMarch + 123 := by omega
  obtain ⟨before, counted⟩ := Nat.exists_eq_add_of_le begun
  have bounds : 4 ≤ month ∧ month ≤ 15 := by omega
  have unended : sinceMarch + 122 < (month + 1) * 306001 / 10000 := by
    obtain ⟨lower, upper⟩ := bounds
    interval_cases month <;> omega
  have day : dayOfMonth number = (before + 1 : Nat) := by
    rw [dayOfMonth, monthEq, yearEq, yearDays, monthDays]
    omega
  exact ⟨⟨year, sinceMarch, month, before + 1, split, within, by omega, by omega, unended⟩,
    yearEq, monthEq, day⟩

namespace Reckoning

variable {number : Nat} (reckoning : Reckoning number)

def date : Gregorian.Date :=
  -- January and February are counted to the year before.
  if reckoning.month ≤ 13 then ⟨1900 + reckoning.year, reckoning.month - 1, reckoning.day⟩
  else ⟨1901 + reckoning.year, reckoning.month - 13, reckoning.day⟩

theorem month_bounds : 4 ≤ reckoning.month ∧ reckoning.month ≤ 15 := by
  have within := reckoning.within
  have counted := reckoning.counted
  have begun := reckoning.begun
  have unended := reckoning.unended
  omega

theorem date_cases :
    (∃ calendar, 3 ≤ calendar ∧ calendar ≤ 12 ∧ reckoning.month = calendar + 1 ∧
      reckoning.date = ⟨1900 + reckoning.year, calendar, reckoning.day⟩) ∨
    (reckoning.month = 14 ∧ reckoning.date = ⟨1901 + reckoning.year, 1, reckoning.day⟩) ∨
    (reckoning.month = 15 ∧ reckoning.date = ⟨1901 + reckoning.year, 2, reckoning.day⟩) := by
  obtain ⟨lower, upper⟩ := reckoning.month_bounds
  by_cases sameYear : reckoning.month ≤ 13
  · refine Or.inl ⟨reckoning.month - 1, by omega, by omega, by omega, ?_⟩
    rw [date, if_pos sameYear]
  · obtain january | february : reckoning.month = 14 ∨ reckoning.month = 15 := by omega
    · refine Or.inr (Or.inl ⟨january, ?_⟩)
      rw [date, if_neg sameYear, january]
    · refine Or.inr (Or.inr ⟨february, ?_⟩)
      rw [date, if_neg sameYear, february]

theorem date_valid (near : reckoning.year < 199) : reckoning.date.Valid := by
  have within := reckoning.within
  have counted := reckoning.counted
  have begun := reckoning.begun
  have unended := reckoning.unended
  rcases reckoning.date_cases with ⟨calendar, march, december, month, dated⟩ | ⟨month, dated⟩ |
    ⟨month, dated⟩
  · have size := Gregorian.daysInMonth_eq (1900 + reckoning.year) march december
    rw [month] at counted unended
    rw [dated]
    have last : reckoning.day ≤ Gregorian.daysInMonth (1900 + reckoning.year) calendar := by omega
    exact ⟨Nat.le_trans (by decide) march, december, reckoning.begun, last⟩
  · rw [month] at counted unended
    rw [dated]
    have last : reckoning.day ≤ 31 := by omega
    exact ⟨Nat.le_of_ble_eq_true rfl, Nat.le_of_ble_eq_true rfl, reckoning.begun, last⟩
  · have size := Gregorian.daysInFebruary_of_lt near
    rw [month] at counted unended
    rw [dated]
    have last : reckoning.day ≤ Gregorian.daysInMonth (1901 + reckoning.year) 2 := by omega
    exact ⟨Nat.le_of_ble_eq_true rfl, Nat.le_of_ble_eq_true rfl, reckoning.begun, last⟩

theorem ordinal_date (near : reckoning.year < 199) :
    reckoning.date.ordinal = 678942 + number := by
  have split := reckoning.split
  have counted := reckoning.counted
  have years := Gregorian.daysBeforeYear_of_lt near
  rcases reckoning.date_cases with ⟨calendar, march, december, month, dated⟩ | ⟨month, dated⟩ |
    ⟨month, dated⟩
  · have months := Gregorian.daysBeforeMonth_eq (1900 + reckoning.year) march december
    have next : 1901 + reckoning.year = 1900 + reckoning.year + 1 := Nat.succ_add 1900 _
    rw [next, Gregorian.daysBeforeYear_succ] at years
    rw [month] at counted
    rw [dated, Gregorian.Date.ordinal_mk]
    omega
  · have january : Gregorian.daysBeforeMonth (1901 + reckoning.year) 1 = 0 := rfl
    rw [month] at counted
    rw [dated, Gregorian.Date.ordinal_mk, january]
    omega
  · have february : Gregorian.daysBeforeMonth (1901 + reckoning.year) 2 = 31 := rfl
    rw [month] at counted
    rw [dated, Gregorian.Date.ordinal_mk, february]
    omega

end Reckoning

def toGregorian (date : CalendarDate) : Gregorian.Date :=
  ⟨date.year.toNat, date.month.toNat, date.day.toNat⟩

theorem toNat_ofInt16 {number : Int} {value : Nat} (worth : number = value)
    (small : value < 65536) : (UInt16.ofInt number).toNat = value := by
  rw [UInt16.ofInt, UInt16.toNat_ofNat']
  omega

theorem toNat_ofInt8 {number : Int} {value : Nat} (worth : number = value)
    (small : value < 256) : (UInt8.ofInt number).toNat = value := by
  rw [UInt8.ofInt, UInt8.toNat_ofNat']
  omega

theorem toGregorian_eq {dayNumber : UInt16} (late : 15079 ≤ dayNumber.toNat) :
    ∃ reckoning : Reckoning dayNumber.toNat, reckoning.year < 199 ∧
      (ofDayNumber dayNumber).toGregorian = reckoning.date := by
  obtain ⟨reckoning, years, months, day⟩ := exists_reckoning late
  have bound := dayNumber.toNat_lt
  have split := reckoning.split
  have near : reckoning.year < 199 := by omega
  have small : reckoning.day < 256 := by
    have counted := reckoning.counted
    have unended := reckoning.unended
    omega
  refine ⟨reckoning, near, ?_⟩
  simp only [toGregorian, ofDayNumber, years, months, toNat_ofInt8 day small]
  rcases reckoning.date_cases with ⟨calendar, march, december, month, dated⟩ | ⟨month, dated⟩ |
    ⟨month, dated⟩
  · rw [dated, month, if_neg (by omega), if_neg (by omega)]
    congr 1
    · exact toNat_ofInt16 (by omega) (by omega)
    · exact toNat_ofInt8 (by omega) (by omega)
  · rw [dated, month, if_pos (by omega), if_pos (by omega)]
    congr 1
    exact toNat_ofInt16 (by omega) (by omega)
  · rw [dated, month, if_pos (by omega), if_pos (by omega)]
    congr 1
    exact toNat_ofInt16 (by omega) (by omega)

def epoch : Gregorian.Date := ⟨1858, 11, 17⟩

theorem epoch_ordinal : epoch.ordinal = 678942 := by
  have november : Gregorian.daysBeforeMonth 1858 11 = 304 := rfl
  have years : Gregorian.daysBeforeYear 1858 = 678621 := by
    have counted := Gregorian.daysBeforeYear_eq 1858
    generalize Gregorian.daysBeforeYear 1858 = days at counted ⊢
    omega
  -- Not by unfolding, which counts all these years one by one.
  rw [epoch, Gregorian.Date.ordinal_mk, years, november]

theorem epoch_weekday : epoch.weekday = 3 := by
  rw [Gregorian.Date.weekday, epoch_ordinal]

theorem toGregorian_ofDayNumber {dayNumber : UInt16} (late : 15079 ≤ dayNumber.toNat) :
    (ofDayNumber dayNumber).toGregorian = epoch.after dayNumber.toNat := by
  obtain ⟨reckoning, near, dated⟩ := toGregorian_eq late
  have valid : epoch.Valid := by decide
  rw [dated]
  apply Gregorian.Date.eq_of_ordinal_eq (reckoning.date_valid near)
    (Gregorian.Date.after_valid valid _)
  rw [reckoning.ordinal_date near, Gregorian.Date.ordinal_after valid, epoch_ordinal]

theorem weekday_ofDayNumber (dayNumber : UInt16) :
    (ofDayNumber dayNumber).weekday.toNat = (epoch.after dayNumber.toNat).weekday := by
  rw [Gregorian.Date.weekday_after (by decide), epoch_weekday, ofDayNumber, UInt8.toNat_ofNat']
  omega

example : ofDayNumber 15079 = ⟨1900, 3, 1, 4⟩ := by decide

theorem compare_fields_ofDayNumber {first second : UInt16} (firstLate : 15079 ≤ first.toNat)
    (secondLate : 15079 ≤ second.toNat) :
    compare (ofDayNumber first).fields (ofDayNumber second).fields =
      compare first.toNat second.toNat := by
  have valid : epoch.Valid := by decide
  have dates := Gregorian.Date.compare_fields (Gregorian.Date.after_valid valid first.toNat)
    (Gregorian.Date.after_valid valid second.toNat)
  have numbers : compare (678942 + first.toNat) (678942 + second.toNat) =
      compare first.toNat second.toNat := by
    simp only [Nat.compare_eq_ite_lt, Nat.add_lt_add_iff_left]
  rw [Gregorian.Date.ordinal_after valid, Gregorian.Date.ordinal_after valid, epoch_ordinal,
    numbers, ← toGregorian_ofDayNumber firstLate, ← toGregorian_ofDayNumber secondLate] at dates
  have fields : compare (ofDayNumber first).fields (ofDayNumber second).fields =
      (compare (ofDayNumber first).toGregorian.fields (ofDayNumber second).toGregorian.fields).then
        (compare (ofDayNumber first).weekday.toNat (ofDayNumber second).weekday.toNat) := by
    simp only [CalendarDate.fields, Gregorian.Date.fields, toGregorian, List.compare_cons_cons,
      List.compare_nil_nil, Ordering.then_eq, Ordering.then_assoc]
  rw [fields, dates]
  -- The weekday decides nothing, for it follows from the day number.
  cases compared : compare first.toNat second.toNat with
  | eq =>
      have same : first = second := UInt16.toNat_inj.mp (Nat.compare_eq_eq.mp compared)
      rw [same]
      exact Nat.compare_eq_eq.mpr rfl
  | lt => rfl
  | gt => rfl

end CalendarDate

end ProgrammeGuide
