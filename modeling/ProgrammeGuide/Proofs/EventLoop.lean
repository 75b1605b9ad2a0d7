import ProgrammeGuide.Proofs.FixedWidth
import ProgrammeGuide.Proofs.ReadBack

/-!
Sections of an event table taken apart: the two headers in front, the loop of events, and the
checksum behind. An event is a head of twelve octets, which gives the length of its descriptors,
and as many octets of these as there are.
-/

namespace ProgrammeGuide

/-- Values for the bits that a layout leaves open, field after field, each cut to its width. -/
abbrev Spare := Nat → Nat

namespace SectionHeader

structure Fits (header : SectionHeader) : Prop where
  length : header.length.toNat < 4096
  version : header.version.toNat < 32

def lengthHigh (spare : Spare) (header : SectionHeader) : UInt8 :=
  UInt8.ofNat (header.syntaxIndicator.toNat * 128 + spare 0 % 8 * 16 +
    header.length.toNat / 256)

def versionOctet (spare : Spare) (header : SectionHeader) : UInt8 :=
  UInt8.ofNat (spare 1 % 4 * 64 + header.version.toNat * 2 + header.current.toNat)

def octets (spare : Spare) (header : SectionHeader) : Octets :=
  [header.tableId, header.lengthHigh spare, UInt8.ofNat header.length.toNat] ++
    octets16 header.subjectId ++ [header.versionOctet spare, header.number, header.lastNumber]

theorem lengthHigh_toNat (spare : Spare) {header : SectionHeader} (fits : header.Fits) :
    (header.lengthHigh spare).toNat = header.syntaxIndicator.toNat * 128 + spare 0 % 8 * 16 +
      header.length.toNat / 256 := by
  have short := fits.length
  have bit := Bool.toNat_le header.syntaxIndicator
  rw [lengthHigh, UInt8.toNat_ofNat']
  omega

theorem versionOctet_toNat (spare : Spare) {header : SectionHeader} (fits : header.Fits) :
    (header.versionOctet spare).toNat =
      spare 1 % 4 * 64 + header.version.toNat * 2 + header.current.toNat := by
  have narrow := fits.version
  have bit := Bool.toNat_le header.current
  rw [versionOctet, UInt8.toNat_ofNat']
  omega

theorem reads_octets (spare : Spare) {header : SectionHeader} (fits : header.Fits) :
    SectionHeader.reader.Reads (header.octets spare) header := by
  have short := fits.length
  have narrow := fits.version
  have syntaxBit := Bool.toNat_le header.syntaxIndicator
  have currentBit := Bool.toNat_le header.current
  have high := lengthHigh_toNat spare fits
  have packed := versionOctet_toNat spare fits
  have indicator : flag 7 (header.lengthHigh spare) = header.syntaxIndicator := by
    apply flag_eq
    omega
  have length : length12 (header.lengthHigh spare) (UInt8.ofNat header.length.toNat) =
      header.length := by
    rw [← UInt16.toNat_inj, length12_toNat, UInt8.toNat_ofNat']
    omega
  have version : bits 1 5 (header.versionOctet spare) = header.version := by
    apply bits_eq
    omega
  have current : flag 0 (header.versionOctet spare) = header.current := by
    apply flag_eq
    omega
  intro rest
  have ran : SectionHeader.reader.run (header.octets spare ++ rest) =
      .ok ({
        tableId := header.tableId
        syntaxIndicator := flag 7 (header.lengthHigh spare)
        length := length12 (header.lengthHigh spare) (UInt8.ofNat header.length.toNat)
        subjectId := word16 _ _
        version := bits 1 5 (header.versionOctet spare)
        current := flag 0 (header.versionOctet spare)
        number := header.number
        lastNumber := header.lastNumber }, rest) := rfl
  rw [ran, indicator, length, word16_octets16, version, current]

end SectionHeader

namespace EventTableHeader

def octets (table : EventTableHeader) : Octets :=
  octets16 table.transportStreamId ++ octets16 table.networkId ++
    [table.segmentLastNumber, table.lastTableId]

theorem reads_octets (table : EventTableHeader) :
    EventTableHeader.reader.Reads table.octets table := by
  intro rest
  have ran : EventTableHeader.reader.run (table.octets ++ rest) =
      .ok ({
        transportStreamId := word16 _ _
        networkId := word16 _ _
        segmentLastNumber := table.segmentLastNumber
        lastTableId := table.lastTableId }, rest) := rfl
  rw [ran, word16_octets16, word16_octets16]

end EventTableHeader

/-- What stands before the descriptors of an event. -/
structure EventHead where
  eventId : UInt16
  start : StartTime
  duration : Duration
  statusCode : UInt8
  scrambled : Bool
  /-- The octets that the descriptors are said to take. -/
  length : UInt16
  deriving DecidableEq, Repr

namespace EventHead

def reader : Reader EventHead := do
  let eventId ← Reader.word16
  let start ← StartTime.reader
  let duration ← Duration.reader
  let flags ← Reader.octet
  let lengthLow ← Reader.octet
  pure {
    eventId, start, duration
    statusCode := bits 5 3 flags
    scrambled := flag 4 flags
    length := length12 flags lengthLow }

def airing (head : EventHead) : Airing where
  start := head.start
  duration := head.duration
  status := .ofCode head.statusCode
  scrambled := head.scrambled

def record (head : EventHead) (descriptors : Octets) : EventRecord where
  eventId := head.eventId
  airing := head.airing
  descriptors := ⟨descriptors⟩

structure Fits (head : EventHead) : Prop where
  statusCode : head.statusCode.toNat < 8
  length : head.length.toNat < 4096

def flags (head : EventHead) : UInt8 :=
  UInt8.ofNat (head.statusCode.toNat * 32 + head.scrambled.toNat * 16 + head.length.toNat / 256)

def octets (head : EventHead) : Octets :=
  octets16 head.eventId ++ head.start.octets ++ head.duration.octets ++
    [head.flags, UInt8.ofNat head.length.toNat]

theorem hasWidth_reader : EventHead.reader.HasWidth 12 :=
  Reader.hasWidth_word16.bind fun _ =>
    (Reader.hasWidth_word16.bind fun _ => Reader.hasWidth_octet.bind fun _ =>
      Reader.hasWidth_octet.bind fun _ => Reader.hasWidth_octet.bind fun _ =>
      Reader.hasWidth_pure _).bind fun _ =>
    (Reader.hasWidth_octet.bind fun _ => Reader.hasWidth_octet.bind fun _ =>
      Reader.hasWidth_octet.bind fun _ => Reader.hasWidth_pure _).bind fun _ =>
    Reader.hasWidth_octet.bind fun _ => Reader.hasWidth_octet.bind fun _ => Reader.hasWidth_pure _

theorem reads_octets {head : EventHead} (fits : head.Fits) :
    EventHead.reader.Reads head.octets head := by
  have narrow := fits.statusCode
  have short := fits.length
  have bit := Bool.toNat_le head.scrambled
  have packed : head.flags.toNat =
      head.statusCode.toNat * 32 + head.scrambled.toNat * 16 + head.length.toNat / 256 := by
    rw [flags, UInt8.toNat_ofNat']
    omega
  have statusCode : bits 5 3 head.flags = head.statusCode := by
    apply bits_eq
    omega
  have scrambled : flag 4 head.flags = head.scrambled := by
    apply flag_eq
    omega
  have length : length12 head.flags (UInt8.ofNat head.length.toNat) = head.length := by
    rw [← UInt16.toNat_inj, length12_toNat, UInt8.toNat_ofNat']
    omega
  intro rest
  have ran : EventHead.reader.run (head.octets ++ rest) =
      .ok ({
        eventId := word16 _ _
        start := ⟨word16 _ _, head.start.hour, head.start.minute, head.start.second⟩
        duration := head.duration
        statusCode := bits 5 3 head.flags
        scrambled := flag 4 head.flags
        length := length12 head.flags (UInt8.ofNat head.length.toNat) }, rest) := rfl
  rw [ran, word16_octets16, word16_octets16, statusCode, scrambled, length]

end EventHead

namespace EventRecord

theorem reader_eq : EventRecord.reader =
    EventHead.reader >>= fun head => head.record <$> Reader.takeUpTo head.length.toNat := by
  simp only [EventHead.reader, bind_assoc, pure_bind, map_eq_pure_bind]
  rfl

theorem run_of_reads {front : Octets} {head : EventHead}
    (reads : EventHead.reader.Reads front head) (rest : Octets) :
    EventRecord.reader.run (front ++ rest) =
      .ok (head.record (rest.take head.length.toNat), rest.drop head.length.toNat) := by
  rw [reader_eq, reads.run_bind]
  rfl

theorem reads_record {head : EventHead} (fits : head.Fits) {descriptors : Octets}
    (declared : head.length.toNat = descriptors.length) :
    EventRecord.reader.Reads (head.octets ++ descriptors) (head.record descriptors) := by
  rw [reader_eq]
  exact (EventHead.reads_octets fits).bind
    ((Reader.reads_takeUpTo declared.symm).map head.record)

theorem run_of_short {input : Octets} (short : input.length < 12) :
    EventRecord.reader.run input = .error .truncated := by
  rw [reader_eq, Reader.run_bind, EventHead.hasWidth_reader.truncates input short]

/-- The events of a loop, up to the first whose head is cut off. -/
def ofLoop (octets : Octets) : List EventRecord :=
  (Reader.repeated EventRecord.reader reader_progresses octets).1

theorem ofLoop_of_error {octets : Octets} {cause : ReadError}
    (ran : EventRecord.reader.run octets = .error cause) : ofLoop octets = [] := by
  rw [ofLoop, Reader.repeated_of_error ran]

theorem ofLoop_of_ok {octets rest : Octets} {record : EventRecord}
    (ran : EventRecord.reader.run octets = .ok (record, rest)) :
    ofLoop octets = record :: ofLoop rest := by
  rw [ofLoop, Reader.repeated_of_ok ran, ofLoop]

theorem ofLoop_layouts {α : Type} {sent : List α} {layout : α → Octets} {value : α → EventRecord}
    (reads : ∀ entry ∈ sent, EventRecord.reader.Reads (layout entry) (value entry)) :
    ofLoop (sent.flatMap layout) = sent.map value := by
  have stuck : EventRecord.reader.run [] = .error .truncated :=
    run_of_short (Nat.zero_lt_succ 11)
  have found := Reader.repeated_layouts reader_progresses reads stuck
  rw [List.append_nil] at found
  rw [ofLoop, found]

end EventRecord

/-- The headers are read from their own octets, the checksum from the last four, and all that is
between them is the loop of events. -/
theorem EventSection.read_append {front middle last : Octets} {header : SectionHeader}
    {table : EventTableHeader} {checksum : UInt32}
    (headed : SectionHeader.reader.Reads front header) (eight : front.length = 8)
    (tabled : EventTableHeader.reader.Reads middle table)
    (ended : Reader.word32.Reads last checksum) (four : last.length = 4) (body : Octets) :
    EventSection.read (front ++ (middle ++ body) ++ last) = .ok {
      header, table, checksum, events := EventRecord.ofLoop body } := by
  have size : (front ++ (middle ++ body) ++ last).length - 4 =
      (front ++ (middle ++ body)).length := by
    rw [List.length_append, four, Nat.add_sub_cancel]
  have long : ¬(front ++ (middle ++ body) ++ last).length < 12 := by
    simp only [List.length_append, eight, four]
    omega
  have checked : Reader.word32.parse last = .ok checksum := by
    rw [← List.append_nil last]
    exact ended.parse []
  have plain : Section.read (front ++ (middle ++ body) ++ last) =
      .ok ⟨header, middle ++ body, checksum⟩ := by
    unfold Section.read
    simp only [long, if_false, size, List.take_left, List.drop_left, headed.run, checked]
    rfl
  unfold EventSection.read
  simp only [plain, bind, Except.bind, tabled.run]
  rfl

end ProgrammeGuide
