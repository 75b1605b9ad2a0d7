import ProgrammeGuide.Reader.Repeated
import ProgrammeGuide.Time.BinaryDecimal

/-!
Durations as they are sent: hours, minutes and seconds as binary coded decimals.
-/

namespace ProgrammeGuide

structure Duration where
  hours : UInt8
  minutes : UInt8
  seconds : UInt8
  deriving DecidableEq, Repr

namespace Duration

def zero : Duration := ⟨0, 0, 0⟩

def octets (duration : Duration) : Octets :=
  [duration.hours, duration.minutes, duration.seconds]

def reader : Reader Duration := do
  let hours ← Reader.octet
  let minutes ← Reader.octet
  let seconds ← Reader.octet
  pure ⟨hours, minutes, seconds⟩

def totalSeconds (duration : Duration) : Nat :=
  BinaryDecimal.value duration.hours * 3600 + BinaryDecimal.value duration.minutes * 60 +
    BinaryDecimal.value duration.seconds

/-- The duration of so many seconds; none from one hundred hours on. -/
def ofSeconds? (total : Nat) : Option Duration :=
  if total / 3600 < 100 then
    some ⟨BinaryDecimal.encode (total / 3600), BinaryDecimal.encode (total / 60 % 60),
      BinaryDecimal.encode (total % 60)⟩
  else none

end Duration

end ProgrammeGuide
