import ProgrammeGuide.Proofs.Blocks
import ProgrammeGuide.Proofs.SectionLayout

/-!
Sections as a broadcaster sends them: the headers, events that give the length of their block of
descriptors as it is, and a checksum. Such a section is read back as it was sent.
-/

namespace ProgrammeGuide

/-- Whole descriptors, and perhaps the beginning of another one. -/
structure SentBlock where
  descriptors : List RawDescriptor
  remnant : Octets
  short : ∀ raw ∈ descriptors, raw.body.length < 256
  incomplete : RawDescriptor.Incomplete remnant

namespace SentBlock

def octets (sent : SentBlock) : Octets :=
  sent.descriptors.flatMap RawDescriptor.octets ++ sent.remnant

theorem raw_octets (sent : SentBlock) : (DescriptorBlock.mk sent.octets).raw = sent.descriptors :=
  DescriptorBlock.raw_octets sent.short sent.incomplete

end SentBlock

structure SentEvent where
  head : EventHead
  block : SentBlock
  fits : head.Fits
  declared : head.length.toNat = block.octets.length

namespace SentEvent

def octets (sent : SentEvent) : Octets := sent.head.octets ++ sent.block.octets

def record (sent : SentEvent) : EventRecord := sent.head.record sent.block.octets

theorem reads_octets (sent : SentEvent) : EventRecord.reader.Reads sent.octets sent.record :=
  EventRecord.reads_record sent.fits sent.declared

end SentEvent

structure SentSection where
  header : SectionHeader
  spare : Spare
  table : EventTableHeader
  events : List SentEvent
  checksum : UInt32
  fits : header.Fits

namespace SentSection

def octets (sent : SentSection) : Octets :=
  sent.header.octets sent.spare ++ (sent.table.octets ++ sent.events.flatMap SentEvent.octets) ++
    octets32 sent.checksum

def received (sent : SentSection) : EventSection where
  header := sent.header
  table := sent.table
  events := sent.events.map SentEvent.record
  checksum := sent.checksum

theorem ofLoop_octets (sent : List SentEvent) :
    EventRecord.ofLoop (sent.flatMap SentEvent.octets) = sent.map SentEvent.record :=
  EventRecord.ofLoop_layouts fun entry _ => SentEvent.reads_octets entry

theorem read_octets (sent : SentSection) : EventSection.read sent.octets = .ok sent.received := by
  have found := EventSection.read_layout sent.spare sent.fits sent.table
    (sent.events.flatMap SentEvent.octets) sent.checksum
  rw [ofLoop_octets] at found
  exact found

end SentSection

end ProgrammeGuide
