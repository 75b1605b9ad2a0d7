import ProgrammeGuide.Descriptor.Block

/-!
Descriptors that are meant for the receiver. Programme delivery control gives the label, a day and
a time of day, by which a recorder recognises an event. Telephone descriptors give a number in five
parts, the length of each packed into a few bits. Private data specifiers say whose private
descriptors follow, and stuffing descriptors hold whatever octets fill a block up.
-/

namespace ProgrammeGuide

/-- Day, month, hour and minute in five, four, five and six bits, the minute lowest. -/
structure RecordingLabel where
  value : UInt32
  deriving DecidableEq, Repr

namespace RecordingLabel

def day (label : RecordingLabel) : Nat := (label.value.toNat >>> 15) % 32

def month (label : RecordingLabel) : Nat := (label.value.toNat >>> 11) % 16

def hour (label : RecordingLabel) : Nat := (label.value.toNat >>> 6) % 32

def minute (label : RecordingLabel) : Nat := label.value.toNat % 64

end RecordingLabel

structure DeliveryControl where
  label : RecordingLabel
  deriving DecidableEq, Repr

def DeliveryControl.reader : Reader DeliveryControl := do
  let first ← Reader.octet
  let second ← Reader.octet
  let third ← Reader.octet
  pure ⟨⟨word32 0 (bits 0 4 first) second third⟩⟩

instance : DescriptorBody DeliveryControl where
  tag := 0x69
  read := DeliveryControl.reader.parse

structure Telephone where
  /-- Whether the number can be called from abroad. -/
  foreignAvailability : Bool
  connectionType : UInt8
  countryPrefix : Text
  internationalAreaCode : Text
  operatorCode : Text
  nationalAreaCode : Text
  coreNumber : Text
  deriving DecidableEq, Repr

def Telephone.reader : Reader Telephone := do
  let connection ← Reader.octet
  let outerLengths ← Reader.octet
  let innerLengths ← Reader.octet
  let countryPrefix ← Reader.take (bits 5 2 outerLengths).toNat
  let internationalAreaCode ← Reader.take (bits 2 3 outerLengths).toNat
  let operatorCode ← Reader.take (bits 0 2 outerLengths).toNat
  let nationalAreaCode ← Reader.take (bits 4 3 innerLengths).toNat
  let coreNumber ← Reader.take (bits 0 4 innerLengths).toNat
  pure {
    foreignAvailability := flag 5 connection
    connectionType := bits 0 5 connection
    countryPrefix := ⟨countryPrefix⟩
    internationalAreaCode := ⟨internationalAreaCode⟩
    operatorCode := ⟨operatorCode⟩
    nationalAreaCode := ⟨nationalAreaCode⟩
    coreNumber := ⟨coreNumber⟩ }

instance : DescriptorBody Telephone where
  tag := 0x57
  read := Telephone.reader.parse

structure PrivateDataSpecifier where
  specifier : UInt32
  deriving DecidableEq, Repr

def PrivateDataSpecifier.reader : Reader PrivateDataSpecifier := do
  let specifier ← Reader.word32
  pure { specifier }

instance : DescriptorBody PrivateDataSpecifier where
  tag := 0x5F
  read := PrivateDataSpecifier.reader.parse

structure Stuffing where
  octets : Octets
  deriving DecidableEq, Repr

instance : DescriptorBody Stuffing where
  tag := 0x42
  read body := .ok ⟨body⟩

end ProgrammeGuide
