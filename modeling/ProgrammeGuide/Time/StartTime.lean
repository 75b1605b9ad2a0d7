import ProgrammeGuide.Reader.Repeated
import ProgrammeGuide.Time.BinaryDecimal
import ProgrammeGuide.Time.CalendarDate

/-!
Start times as they are sent, a day number and three binary coded decimals, and the date and
clock reading that they stand for.
-/

namespace ProgrammeGuide

structure DateTime where
  date : CalendarDate
  hour : Nat
  minute : Nat
  second : Nat
  deriving DecidableEq, Repr

namespace DateTime

def fields (time : DateTime) : List Nat :=
  time.date.fields ++ [time.hour, time.minute, time.second]

/-- Field by field, the year first. -/
instance : Ord DateTime where
  compare first second := compare first.fields second.fields

def text (time : DateTime) : String :=
  time.date.text ++ " " ++ Numeral.twoDigits time.hour ++ ":" ++
    Numeral.twoDigits time.minute ++ ":" ++ Numeral.twoDigits time.second

end DateTime

structure StartTime where
  dayNumber : UInt16
  hour : UInt8
  minute : UInt8
  second : UInt8
  deriving DecidableEq, Repr

namespace StartTime

/-- All bits set: the start is not known. -/
def undefined : StartTime := ⟨0xFFFF, 0xFF, 0xFF, 0xFF⟩

def octets (start : StartTime) : Octets :=
  octets16 start.dayNumber ++ [start.hour, start.minute, start.second]

def reader : Reader StartTime := do
  let dayNumber ← Reader.word16
  let hour ← Reader.octet
  let minute ← Reader.octet
  let second ← Reader.octet
  pure ⟨dayNumber, hour, minute, second⟩

def dateTime (start : StartTime) : DateTime where
  date := .ofDayNumber start.dayNumber
  hour := BinaryDecimal.value start.hour
  minute := BinaryDecimal.value start.minute
  second := BinaryDecimal.value start.second

def dateTime? (start : StartTime) : Option DateTime :=
  if start = undefined then none else some start.dateTime

end StartTime

end ProgrammeGuide
