import ProgrammeGuide.Guide.Event

/-!
What is read off an event, with numbers of fixed widths. An operation whose result does not fit
into its width, and an index that is not in its table, give nothing. For every event there is a
result, and it is the one that unbounded numbers give.
-/

namespace ProgrammeGuide.Machine

def number? (limit value : Nat) : Option Nat :=
  if value < limit then some value else none

abbrev octet? : Nat → Option Nat := number? 256

abbrev word32? : Nat → Option Nat := number? 4294967296

def signed32? (value : Int) : Option Int :=
  if -2147483648 ≤ value ∧ value < 2147483648 then some value else none

theorem number?_of_lt {limit value : Nat} (fits : value < limit) :
    number? limit value = some value := if_pos fits

theorem signed32?_of_bounds {value : Int} (lower : -2147483648 ≤ value)
    (upper : value < 2147483648) : signed32? value = some value := if_pos ⟨lower, upper⟩

def decimal? (octet : UInt8) : Option Nat := do
  let tens ← octet? (octet.toNat / 16 * 10)
  octet? (tens + octet.toNat % 16)

theorem decimal?_eq (octet : UInt8) : decimal? octet = some (BinaryDecimal.value octet) := by
  have bound := octet.toNat_lt
  have tens : octet? (octet.toNat / 16 * 10) = some (octet.toNat / 16 * 10) :=
    number?_of_lt (by omega)
  rw [decimal?, tens]
  exact number?_of_lt (by omega)

def seconds? (duration : Duration) : Option Nat := do
  let hours ← decimal? duration.hours
  let minutes ← decimal? duration.minutes
  let seconds ← decimal? duration.seconds
  let hourSeconds ← word32? (hours * 3600)
  let minuteSeconds ← word32? (minutes * 60)
  let total ← word32? (hourSeconds + minuteSeconds)
  word32? (total + seconds)

theorem seconds?_eq (duration : Duration) : seconds? duration = some duration.totalSeconds := by
  have hours := BinaryDecimal.value_le duration.hours
  have minutes := BinaryDecimal.value_le duration.minutes
  have seconds := BinaryDecimal.value_le duration.seconds
  simp (disch := omega) only [seconds?, decimal?_eq, Option.bind_eq_bind, Option.bind_some,
    number?_of_lt, Duration.totalSeconds]

/-- Every step of the calendar formula is a signed number, and so is what its quotients are taken
down to; only the weekday is counted in unsigned ones. -/
def date? (dayNumber : UInt16) : Option CalendarDate := do
  let number : Int := dayNumber.toNat
  let years ← signed32? (CalendarDate.years number)
  let yearDays ← signed32? (CalendarDate.daysOfYears years)
  let months ← signed32? (CalendarDate.months number)
  let monthDays ← signed32? (CalendarDate.daysOfMonths months)
  let counted ← signed32? (number - 14956)
  let ofYear ← signed32? (counted - yearDays)
  let day ← signed32? (ofYear - monthDays)
  let shifted ← word32? (dayNumber.toNat + 2)
  let weekday ← word32? (shifted % 7 + 1)
  let (year, month) ←
    if months = 14 ∨ months = 15 then do
      let year ← signed32? (years + 1)
      let month ← signed32? (months - 1)
      let wrapped ← signed32? (month - 12)
      some (year, wrapped)
    else do
      let month ← signed32? (months - 1)
      some (years, month)
  let fullYear ← signed32? (1900 + year)
  some {
    year := UInt16.ofInt fullYear
    month := UInt8.ofInt month
    day := UInt8.ofInt day
    weekday := UInt8.ofNat weekday }

/-- A quotient lies within one of the exact one. -/
theorem tdiv_bounds (value : Int) {divisor : Int} (positive : 0 < divisor) :
    value - divisor < divisor * value.tdiv divisor ∧
      divisor * value.tdiv divisor < value + divisor := by
  have split := Int.mul_tdiv_add_tmod value divisor
  have upper := Int.tmod_lt_of_pos value positive
  have lower := Int.lt_tmod_of_pos value positive
  omega

theorem years_bounds {number : Int} (lower : 0 ≤ number) (upper : number < 65536) :
    -50 ≤ CalendarDate.years number ∧ CalendarDate.years number ≤ 150 := by
  have close := tdiv_bounds (number * 100 - 1507820) (by decide : (0 : Int) < 36525)
  simp only [CalendarDate.years]
  omega

theorem daysOfYears_bounds {count : Int} (lower : -50 ≤ count) (upper : count ≤ 150) :
    -20000 ≤ CalendarDate.daysOfYears count ∧ CalendarDate.daysOfYears count ≤ 60000 := by
  have close := tdiv_bounds (count * 36525) (by decide : (0 : Int) < 100)
  simp only [CalendarDate.daysOfYears]
  omega

theorem months_bounds {number : Int} (lower : 0 ≤ number) (upper : number < 65536) :
    -3000 ≤ CalendarDate.months number ∧ CalendarDate.months number ≤ 3000 := by
  obtain ⟨fewest, most⟩ := years_bounds lower upper
  have days := daysOfYears_bounds fewest most
  have close := tdiv_bounds
    ((number - CalendarDate.daysOfYears (CalendarDate.years number)) * 10000 - 149561000)
    (by decide : (0 : Int) < 306001)
  simp only [CalendarDate.months]
  omega

theorem daysOfMonths_bounds {count : Int} (lower : -3000 ≤ count) (upper : count ≤ 3000) :
    -100000 ≤ CalendarDate.daysOfMonths count ∧ CalendarDate.daysOfMonths count ≤ 100000 := by
  have close := tdiv_bounds (count * 306001) (by decide : (0 : Int) < 10000)
  simp only [CalendarDate.daysOfMonths]
  omega

theorem date?_eq (dayNumber : UInt16) : date? dayNumber = some (.ofDayNumber dayNumber) := by
  have lower : (0 : Int) ≤ dayNumber.toNat := Int.natCast_nonneg _
  have upper : (dayNumber.toNat : Int) < 65536 := Int.ofNat_lt.mpr dayNumber.toNat_lt
  have years := years_bounds lower upper
  have yearDays := daysOfYears_bounds years.1 years.2
  have months := months_bounds lower upper
  have monthDays := daysOfMonths_bounds months.1 months.2
  -- Within these bounds every step has its number, in either form of the last one.
  by_cases wraps : CalendarDate.months dayNumber.toNat = 14 ∨
      CalendarDate.months dayNumber.toNat = 15
  · simp (disch := omega) only [date?, Option.bind_eq_bind, Option.bind_some, number?_of_lt,
      signed32?_of_bounds, CalendarDate.ofDayNumber, CalendarDate.dayOfMonth, if_pos wraps,
      ← Int.add_assoc]
  · simp (disch := omega) only [date?, Option.bind_eq_bind, Option.bind_some, number?_of_lt,
      signed32?_of_bounds, CalendarDate.ofDayNumber, CalendarDate.dayOfMonth, if_neg wraps,
      Int.add_zero, Int.sub_zero]

/-- The character of the last digit of a number. -/
def digit? (value : Nat) : Option Char := do
  let code ← octet? (48 + value % 10)
  some (Char.ofNat code)

theorem digitChar_eq : ∀ digit < 10, Nat.digitChar digit = Char.ofNat (48 + digit) := by
  decide

theorem digit?_eq (value : Nat) : digit? value = some (Nat.digitChar (value % 10)) := by
  have small : value % 10 < 10 := Nat.mod_lt value (by decide)
  rw [digit?, octet?, number?_of_lt (by omega), digitChar_eq _ small]
  rfl

def twoDigits? (value : Nat) : Option String := do
  let tens ← digit? (value / 10)
  let units ← digit? value
  some (String.ofList [tens, units])

theorem twoDigits?_eq (value : Nat) : twoDigits? value = some (Numeral.twoDigits value) := by
  simp only [twoDigits?, digit?_eq, Option.bind_eq_bind, Option.bind_some, Numeral.twoDigits]

def dateText? (date : CalendarDate) : Option String := do
  let month ← twoDigits? date.month.toNat
  let day ← twoDigits? date.day.toNat
  some (Numeral.decimal 4 date.year.toNat ++ "-" ++ month ++ "-" ++ day)

def timeText? (time : DateTime) : Option String := do
  let date ← dateText? time.date
  let hour ← twoDigits? time.hour
  let minute ← twoDigits? time.minute
  let second ← twoDigits? time.second
  some (date ++ " " ++ hour ++ ":" ++ minute ++ ":" ++ second)

theorem timeText?_eq (time : DateTime) : timeText? time = some time.text := by
  simp only [timeText?, dateText?, twoDigits?_eq, Option.bind_eq_bind, Option.bind_some,
    DateTime.text, CalendarDate.text]

def dateTime? (start : StartTime) : Option DateTime := do
  let date ← date? start.dayNumber
  let hour ← decimal? start.hour
  let minute ← decimal? start.minute
  let second ← decimal? start.second
  some { date, hour, minute, second }

theorem dateTime?_eq (start : StartTime) : dateTime? start = some start.dateTime := by
  simp only [dateTime?, date?_eq, decimal?_eq, Option.bind_eq_bind, Option.bind_some,
    StartTime.dateTime]

/-- The least age of a rating, which is none for some. -/
def age? (rating : UInt8) : Option (Option UInt8) :=
  if 1 ≤ rating ∧ rating ≤ 15 then do
    let age ← octet? (rating.toNat + 3)
    some (some (UInt8.ofNat age))
  else some none

theorem age?_eq (rating : UInt8) : age? rating = some (minimumAge? rating) := by
  by_cases rated : 1 ≤ rating ∧ rating ≤ 15
  · have small : rating.toNat ≤ 15 := UInt8.le_iff_toNat_le.mp rated.2
    have age : UInt8.ofNat (rating.toNat + 3) = rating + 3 := by
      rw [UInt8.ofNat_add, UInt8.ofNat_toNat]
      rfl
    rw [age?, minimumAge?, if_pos rated, if_pos rated, octet?, number?_of_lt (by omega), ← age]
    rfl
  · rw [age?, minimumAge?, if_neg rated, if_neg rated]

/-- The leak rates for all codes of six bits; the first and the last three are reserved. -/
def leakRateTable : List String :=
  "0" :: SmoothingBuffer.leakRates ++ ["0", "0", "0"]

def leakRate? (code : UInt8) : Option (Option String) :=
  if 1 ≤ code ∧ code ≤ 60 then do
    let rate ← leakRateTable[code.toNat]?
    some (some rate)
  else some none

theorem leakRate?_eq (code : UInt8) :
    leakRate? code = some (SmoothingBuffer.leakRateOf? code) := by
  simp only [leakRate?, SmoothingBuffer.leakRateOf?, UInt8.le_iff_toNat_le, ← UInt8.toNat_inj]
  have all : SmoothingBuffer.leakRates.length = 60 := rfl
  -- The table is counted from code 0, the listed rates from code 1.
  match code.toNat with
  | 0 => rfl
  | before + 1 =>
      have coded : before + 1 ≠ (0 : UInt8).toNat := Nat.succ_ne_zero before
      by_cases known : before < SmoothingBuffer.leakRates.length
      · have rate : leakRateTable[before + 1]? = some SmoothingBuffer.leakRates[before] := by
          rw [leakRateTable, List.cons_append, List.getElem?_cons_succ,
            List.getElem?_append_left known, List.getElem?_eq_getElem known]
        have listed : (1 : UInt8).toNat ≤ before + 1 ∧ before + 1 ≤ (60 : UInt8).toNat :=
          ⟨Nat.le_add_left 1 before, Nat.le_trans known (Nat.le_of_eq all)⟩
        rw [if_pos listed, rate, if_neg coded, Nat.add_sub_cancel,
          List.getElem?_eq_getElem known]
        rfl
      · have beyond : ¬((1 : UInt8).toNat ≤ before + 1 ∧ before + 1 ≤ (60 : UInt8).toNat) :=
          fun listed => known (Nat.lt_of_lt_of_eq listed.2 all.symm)
        rw [if_neg beyond, if_neg coded, Nat.add_sub_cancel,
          List.getElem?_eq_none (Nat.le_of_not_lt known)]

end ProgrammeGuide.Machine

namespace ProgrammeGuide

/-- All that can be asked of an event beyond what it holds. -/
structure Readings where
  start : Option DateTime
  startText : Option String
  seconds : Nat
  component : Option String
  genre : Option String
  minimumAge : Option UInt8
  leakRate : Option String
  deriving DecidableEq, Repr

def GuideEvent.readings (event : GuideEvent) : Readings where
  start := event.airing.start.dateTime?
  startText := event.airing.start.dateTime?.map DateTime.text
  seconds := event.airing.duration.totalSeconds
  component := event.componentText?
  genre := event.genreText?
  minimumAge := event.rating.bind Rating.minimumAge?
  leakRate := event.smoothingBuffer.bind SmoothingBuffer.leakRate?

namespace Machine

def start? (start : StartTime) : Option (Option DateTime) :=
  if start = .undefined then some none else (dateTime? start).map some

theorem start?_eq (start : StartTime) : start? start = some start.dateTime? := by
  by_cases unknown : start = .undefined
  · rw [start?, StartTime.dateTime?, if_pos unknown, if_pos unknown]
  · rw [start?, StartTime.dateTime?, if_neg unknown, if_neg unknown, dateTime?_eq, Option.map_some]

def readings? (event : GuideEvent) : Option Readings := do
  let start ← start? event.airing.start
  let startText ← start.mapM timeText?
  let seconds ← seconds? event.airing.duration
  let minimumAge ← event.rating.mapM fun rating => age? rating.rating
  let leakRate ← event.smoothingBuffer.mapM fun buffer => leakRate? buffer.leakRateCode
  some {
    start, startText, seconds
    component := event.componentText?
    genre := event.genreText?
    minimumAge := minimumAge.join
    leakRate := leakRate.join }

theorem mapM_of_some {α β : Type} {read : α → Option β} {value : α → β}
    (reads : ∀ entry, read entry = some (value entry)) (given : Option α) :
    given.mapM read = some (given.map value) := by
  cases given with
  | none => rfl
  | some entry => exact congrArg (Option.map some) (reads entry)

theorem readings?_eq (event : GuideEvent) : readings? event = some event.readings := by
  have startText := mapM_of_some timeText?_eq event.airing.start.dateTime?
  have minimumAge := mapM_of_some (fun rating : Rating => age?_eq rating.rating) event.rating
  have leakRate := mapM_of_some (fun buffer : SmoothingBuffer => leakRate?_eq buffer.leakRateCode)
    event.smoothingBuffer
  simp only [readings?, start?_eq, seconds?_eq, startText, minimumAge, leakRate,
    Option.bind_eq_bind, Option.bind_some, ← Option.bind_id_eq_join, Option.bind_map]
  rfl

end Machine

end ProgrammeGuide
