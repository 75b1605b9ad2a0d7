import ProgrammeGuide.Descriptor.Block
import ProgrammeGuide.Section
import ProgrammeGuide.Time.Duration
import ProgrammeGuide.Time.StartTime

/-!
Sections of the event information table: the events of one service, each with its time, whether it
is on air, and a block of descriptors.
-/

namespace ProgrammeGuide

inductive RunningStatus
  | undefined
  | notRunning
  | startsSoon
  | pausing
  | running
  | serviceOffAir
  | reserved
  deriving DecidableEq, Repr

namespace RunningStatus

def ofCode (code : UInt8) : RunningStatus :=
  if code = 0 then undefined
  else if code = 1 then notRunning
  else if code = 2 then startsSoon
  else if code = 3 then pausing
  else if code = 4 then running
  else if code = 5 then serviceOffAir
  else reserved

def text : RunningStatus → String
  | undefined => "undefined"
  | notRunning => "not running"
  | startsSoon => "starts in a few seconds"
  | pausing => "pausing"
  | running => "running"
  | serviceOffAir => "service off-air"
  | reserved => "reserved"

end RunningStatus

structure EventTableHeader where
  transportStreamId : UInt16
  networkId : UInt16
  segmentLastNumber : UInt8
  lastTableId : UInt8
  deriving DecidableEq, Repr

def EventTableHeader.reader : Reader EventTableHeader := do
  let transportStreamId ← Reader.word16
  let networkId ← Reader.word16
  let segmentLastNumber ← Reader.octet
  let lastTableId ← Reader.octet
  pure { transportStreamId, networkId, segmentLastNumber, lastTableId }

/-- When an event is broadcast, whether it is on air, and whether it is scrambled. -/
structure Airing where
  start : StartTime
  duration : Duration
  status : RunningStatus
  scrambled : Bool
  deriving DecidableEq, Repr

structure EventRecord where
  eventId : UInt16
  airing : Airing
  descriptors : DescriptorBlock
  deriving DecidableEq, Repr

namespace EventRecord

/-- A block of descriptors that is said to be longer than the section ends with the section. -/
def reader : Reader EventRecord := do
  let eventId ← Reader.word16
  let start ← StartTime.reader
  let duration ← Duration.reader
  let flags ← Reader.octet
  let lengthLow ← Reader.octet
  let descriptors ← Reader.takeUpTo (length12 flags lengthLow).toNat
  pure {
    eventId
    airing := {
      start, duration
      status := .ofCode (bits 5 3 flags)
      scrambled := flag 4 flags }
    descriptors := ⟨descriptors⟩ }

theorem reader_progresses : reader.Progresses := Reader.word16_progresses.bind _

end EventRecord

structure EventSection where
  header : SectionHeader
  table : EventTableHeader
  events : List EventRecord
  checksum : UInt32
  deriving DecidableEq, Repr

/-- Reads the whole buffer as a section of an event table, whatever its table id. Events are read
up to the first whose fixed part is cut off. -/
def EventSection.read (buffer : Octets) : Except ReadError EventSection := do
  let plain ← Section.read buffer
  let (table, body) ← EventTableHeader.reader.run plain.body
  pure {
    table
    header := plain.header
    events := (Reader.repeated EventRecord.reader EventRecord.reader_progresses body).1
    checksum := plain.checksum }

end ProgrammeGuide
