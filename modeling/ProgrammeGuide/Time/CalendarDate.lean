import ProgrammeGuide.Text

/-!
Dates from modified Julian day numbers, by the formula that broadcasting uses. It is exact from
1 March 1900 to 28 February 2100. For earlier days it still gives numbers, which are kept to the
width of their fields.
-/

namespace ProgrammeGuide

structure CalendarDate where
  year : UInt16
  month : UInt8
  day : UInt8
  /-- Monday is 1 and Sunday 7. -/
  weekday : UInt8
  deriving DecidableEq, Repr

namespace CalendarDate

/-- Whole years since 1900: the day number less 15078.2, over 365.25. -/
def years (dayNumber : Int) : Int :=
  (dayNumber * 100 - 1507820).tdiv 36525

/-- The days of so many years, at 365.25 days a year. -/
def daysOfYears (count : Int) : Int :=
  (count * 36525).tdiv 100

/-- Whole months in the remaining days: the day number less 14956.1 and the days of the years,
over 30.6001. March is 4, and January and February are 14 and 15 of the year before. -/
def months (dayNumber : Int) : Int :=
  ((dayNumber - daysOfYears (years dayNumber)) * 10000 - 149561000).tdiv 306001

/-- The days of so many months, at 30.6001 days a month. -/
def daysOfMonths (count : Int) : Int :=
  (count * 306001).tdiv 10000

def dayOfMonth (dayNumber : Int) : Int :=
  dayNumber - 14956 - daysOfYears (years dayNumber) - daysOfMonths (months dayNumber)

def ofDayNumber (dayNumber : UInt16) : CalendarDate :=
  let number : Int := dayNumber.toNat
  let wraps := months number = 14 ∨ months number = 15
  { year := UInt16.ofInt (1900 + years number + if wraps then 1 else 0)
    month := UInt8.ofInt (months number - 1 - if wraps then 12 else 0)
    day := UInt8.ofInt (dayOfMonth number)
    weekday := UInt8.ofNat ((dayNumber.toNat + 2) % 7 + 1) }

def fields (date : CalendarDate) : List Nat :=
  [date.year.toNat, date.month.toNat, date.day.toNat, date.weekday.toNat]

def text (date : CalendarDate) : String :=
  Numeral.decimal 4 date.year.toNat ++ "-" ++ Numeral.twoDigits date.month.toNat ++ "-" ++
    Numeral.twoDigits date.day.toNat

end CalendarDate

end ProgrammeGuide
