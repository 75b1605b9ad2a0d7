import ProgrammeGuide.Proofs.EventLoop

/-!
Sections of an event table and their octets, both ways. A section that is laid out from its parts is
read back as these parts. And every buffer of eighteen octets or more is such a layout: the
headers, the events one behind the other, a leftover that is too short for a further event, and the
checksum. Only the last event may have fewer octets of descriptors than it says, and then nothing is
left over.
-/

namespace ProgrammeGuide

theorem exists_octets32 {taken : Octets} (four : taken.length = 4) :
    ∃ word, octets32 word = taken := by
  match taken, four with
  | [first, second, third, fourth], _ =>
      have firstBound := first.toNat_lt
      have secondBound := second.toNat_lt
      have thirdBound := third.toNat_lt
      have fourthBound := fourth.toNat_lt
      refine ⟨word32 first second third fourth, ?_⟩
      simp only [octets32, word32_toNat, List.cons.injEq, and_true]
      simp only [← UInt8.toNat_inj, UInt8.toNat_ofNat']
      omega

namespace SectionHeader

/-- Any eight octets are a header, with something in the bits without a meaning. -/
theorem exists_octets {taken : Octets} (eight : taken.length = 8) :
    ∃ (spare : Spare) (header : SectionHeader), header.Fits ∧ header.octets spare = taken := by
  match taken, eight with
  | [tableId, high, low, subjectHigh, subjectLow, packed, number, lastNumber], _ =>
      have highBound := high.toNat_lt
      have lowBound := low.toNat_lt
      have packedBound := packed.toNat_lt
      let header : SectionHeader := {
        tableId, number, lastNumber
        syntaxIndicator := flag 7 high
        length := length12 high low
        subjectId := word16 subjectHigh subjectLow
        version := bits 1 5 packed
        current := flag 0 packed }
      let spare : Spare := fun index => if index = 0 then high.toNat / 16 else packed.toNat / 64
      have length : header.length.toNat = high.toNat % 16 * 256 + low.toNat :=
        length12_toNat high low
      have version : header.version.toNat = packed.toNat / 2 % 32 := bits_toNat_pow 1 5 packed
      have syntaxBit : header.syntaxIndicator.toNat = high.toNat / 128 % 2 := flag_toNat 7 high
      have currentBit : header.current.toNat = packed.toNat / 1 % 2 := flag_toNat 0 packed
      have fits : header.Fits := ⟨by omega, by omega⟩
      have lengthHigh : header.lengthHigh spare = high := by
        rw [← UInt8.toNat_inj, lengthHigh_toNat spare fits]
        simp only [spare, if_true]
        omega
      have lengthLow : UInt8.ofNat header.length.toNat = low := by
        rw [← UInt8.toNat_inj, UInt8.toNat_ofNat']
        omega
      have versionOctet : header.versionOctet spare = packed := by
        rw [← UInt8.toNat_inj, versionOctet_toNat spare fits]
        simp only [spare, Nat.one_ne_zero, if_false]
        omega
      refine ⟨spare, header, fits, ?_⟩
      rw [octets, lengthHigh, lengthLow, versionOctet, octets16_word16]
      rfl

end SectionHeader

theorem EventTableHeader.exists_octets {taken : Octets} (six : taken.length = 6) :
    ∃ table : EventTableHeader, table.octets = taken := by
  match taken, six with
  | [streamHigh, streamLow, networkHigh, networkLow, segmentLastNumber, lastTableId], _ =>
      refine ⟨⟨word16 streamHigh streamLow, word16 networkHigh networkLow, segmentLastNumber,
        lastTableId⟩, ?_⟩
      rw [octets, octets16_word16, octets16_word16]
      rfl

/-- Any twelve octets are the head of an event. -/
theorem EventHead.exists_octets {taken : Octets} (twelve : taken.length = 12) :
    ∃ head : EventHead, head.Fits ∧ head.octets = taken := by
  match taken, twelve with
  | [idHigh, idLow, dayHigh, dayLow, hour, minute, second, hours, minutes, seconds, packed, low],
      _ =>
      have packedBound := packed.toNat_lt
      have lowBound := low.toNat_lt
      let head : EventHead := {
        eventId := word16 idHigh idLow
        start := ⟨word16 dayHigh dayLow, hour, minute, second⟩
        duration := ⟨hours, minutes, seconds⟩
        statusCode := bits 5 3 packed
        scrambled := flag 4 packed
        length := length12 packed low }
      have length : head.length.toNat = packed.toNat % 16 * 256 + low.toNat :=
        length12_toNat packed low
      have status : head.statusCode.toNat = packed.toNat / 32 % 8 := bits_toNat_pow 5 3 packed
      have scrambledBit : head.scrambled.toNat = packed.toNat / 16 % 2 := flag_toNat 4 packed
      have flags : head.flags = packed := by
        rw [← UInt8.toNat_inj, EventHead.flags, UInt8.toNat_ofNat']
        omega
      have lengthLow : UInt8.ofNat head.length.toNat = low := by
        rw [← UInt8.toNat_inj, UInt8.toNat_ofNat']
        omega
      refine ⟨head, ⟨by omega, by omega⟩, ?_⟩
      rw [octets, flags, lengthLow, StartTime.octets, octets16_word16, octets16_word16]
      rfl

/-- The octets of an event: its head, and those that are taken for its descriptors. -/
structure EventSpan where
  head : EventHead
  descriptors : Octets
  fits : head.Fits

namespace EventSpan

def octets (span : EventSpan) : Octets := span.head.octets ++ span.descriptors

def record (span : EventSpan) : EventRecord := span.head.record span.descriptors

/-- Events one behind the other, and what is left over behind them. -/
inductive Tile : List EventSpan → Octets → Prop
  | leftover {rest : Octets} (short : rest.length < 12) : Tile [] rest
  | clamped {span : EventSpan} (beyond : span.descriptors.length < span.head.length.toNat) :
      Tile [span] []
  | declared {span : EventSpan} {others : List EventSpan} {rest : Octets}
      (exactly : span.descriptors.length = span.head.length.toNat) (behind : Tile others rest) :
      Tile (span :: others) rest

variable {spans : List EventSpan} {rest : Octets}

theorem Tile.short (tile : Tile spans rest) : rest.length < 12 := by
  induction tile with
  | leftover short => exact short
  | clamped beyond => exact Nat.zero_lt_succ 11
  | declared exactly behind ih => exact ih

theorem Tile.declared_of_mem_dropLast (tile : Tile spans rest) :
    ∀ span ∈ spans.dropLast, span.descriptors.length = span.head.length.toNat := by
  induction tile with
  | leftover short => simp
  | clamped beyond => simp
  | @declared first others rest exactly behind ih =>
      intro span member
      cases others with
      | nil => simp at member
      | cons second more =>
          rw [List.dropLast_cons_cons] at member
          rcases List.mem_cons.mp member with rfl | later
          · exact exactly
          · exact ih span later

theorem Tile.last_clamped (tile : Tile spans rest) :
    ∀ span, spans.getLast? = some span →
      span.descriptors.length =
        min span.head.length.toNat (span.descriptors.length + rest.length) ∧
      (span.descriptors.length < span.head.length.toNat → rest = []) := by
  induction tile with
  | leftover short => simp
  | @clamped first beyond =>
      intro span last
      obtain rfl : first = span := Option.some.inj last
      refine ⟨?_, fun _ => rfl⟩
      rw [List.length_nil, Nat.add_zero, Nat.min_eq_right (Nat.le_of_lt beyond)]
  | @declared first others rest exactly behind ih =>
      intro span last
      cases others with
      | nil =>
          obtain rfl : first = span := Option.some.inj last
          exact ⟨by omega, fun beyond => by omega⟩
      | cons second more =>
          rw [List.getLast?_cons_cons] at last
          exact ih span last

theorem run_octets (span : EventSpan) (rest : Octets) :
    EventRecord.reader.run (span.octets ++ rest) =
      .ok (span.head.record ((span.descriptors ++ rest).take span.head.length.toNat),
        (span.descriptors ++ rest).drop span.head.length.toNat) := by
  rw [octets, List.append_assoc, EventRecord.run_of_reads (EventHead.reads_octets span.fits)]

theorem ofLoop_of_tile (tile : Tile spans rest) :
    EventRecord.ofLoop (spans.flatMap octets ++ rest) = spans.map record := by
  induction tile with
  | leftover short => exact EventRecord.ofLoop_of_error (EventRecord.run_of_short short)
  | @clamped span beyond =>
      have ran := run_octets span []
      have all := Nat.le_of_lt beyond
      rw [List.append_nil span.descriptors, List.take_of_length_le all,
        List.drop_of_length_le all] at ran
      have none : EventRecord.reader.run [] = .error .truncated :=
        EventRecord.run_of_short (Nat.zero_lt_succ 11)
      rw [List.flatMap_singleton, EventRecord.ofLoop_of_ok ran, EventRecord.ofLoop_of_error none]
      rfl
  | @declared span others rest exactly behind ih =>
      have ran := run_octets span (others.flatMap octets ++ rest)
      rw [← exactly, List.take_left, List.drop_left] at ran
      rw [List.flatMap_cons, List.append_assoc, EventRecord.ofLoop_of_ok ran, ih]
      rfl

theorem exists_tile (loop : Octets) :
    ∃ spans rest, loop = spans.flatMap octets ++ rest ∧ Tile spans rest := by
  induction length : loop.length using Nat.strongRecOn generalizing loop with
  | ind size ih =>
      by_cases short : loop.length < 12
      · exact ⟨[], loop, rfl, .leftover short⟩
      · obtain ⟨head, fits, front⟩ :=
          EventHead.exists_octets (List.length_take_of_le (Nat.le_of_not_lt short))
        have split : loop = head.octets ++ loop.drop 12 := by rw [front, List.take_append_drop]
        by_cases beyond : (loop.drop 12).length < head.length.toNat
        · refine ⟨[⟨head, loop.drop 12, fits⟩], [], ?_, .clamped beyond⟩
          rw [List.flatMap_singleton, List.append_nil]
          exact split
        · have shorter : ((loop.drop 12).drop head.length.toNat).length < size := by
            simp only [List.length_drop]
            omega
          obtain ⟨spans, rest, tiles, tile⟩ := ih _ shorter _ rfl
          have exactly := List.length_take_of_le (Nat.le_of_not_lt beyond)
          refine ⟨⟨head, (loop.drop 12).take head.length.toNat, fits⟩ :: spans, rest, ?_,
            .declared exactly tile⟩
          rw [List.flatMap_cons, List.append_assoc, ← tiles, octets, List.append_assoc,
            List.take_append_drop]
          exact split

end EventSpan

/-- An event that is to be sent, with any octets for its descriptors. -/
structure EventEntry where
  eventId : UInt16
  start : StartTime
  duration : Duration
  statusCode : UInt8
  scrambled : Bool
  descriptors : Octets
  narrow : statusCode.toNat < 8
  short : descriptors.length ≤ 4095

namespace EventEntry

def head (entry : EventEntry) : EventHead where
  eventId := entry.eventId
  start := entry.start
  duration := entry.duration
  statusCode := entry.statusCode
  scrambled := entry.scrambled
  length := UInt16.ofNat entry.descriptors.length

def octets (entry : EventEntry) : Octets := entry.head.octets ++ entry.descriptors

def record (entry : EventEntry) : EventRecord where
  eventId := entry.eventId
  airing := {
    start := entry.start
    duration := entry.duration
    status := .ofCode entry.statusCode
    scrambled := entry.scrambled }
  descriptors := ⟨entry.descriptors⟩

theorem head_length (entry : EventEntry) :
    entry.head.length.toNat = entry.descriptors.length := by
  have short := entry.short
  rw [head, UInt16.toNat_ofNat']
  omega

theorem head_fits (entry : EventEntry) : entry.head.Fits := by
  have short := entry.short
  exact ⟨entry.narrow, by rw [head_length]; omega⟩

theorem ofLoop_octets (entries : List EventEntry) :
    EventRecord.ofLoop (entries.flatMap octets) = entries.map record :=
  EventRecord.ofLoop_layouts fun entry _ =>
    EventRecord.reads_record entry.head_fits entry.head_length

end EventEntry

namespace EventSection

/-- The octets of a section with these parts. -/
def layout (spare : Spare) (header : SectionHeader) (table : EventTableHeader) (loop : Octets)
    (checksum : UInt32) : Octets :=
  header.octets spare ++ (table.octets ++ loop) ++ octets32 checksum

theorem length_layout (spare : Spare) (header : SectionHeader) (table : EventTableHeader)
    (loop : Octets) (checksum : UInt32) :
    (layout spare header table loop checksum).length = 18 + loop.length := by
  have eight : (header.octets spare).length = 8 := rfl
  have six : table.octets.length = 6 := rfl
  have four : (octets32 checksum).length = 4 := rfl
  simp only [layout, List.length_append, eight, six, four]
  omega

theorem read_layout (spare : Spare) {header : SectionHeader} (fits : header.Fits)
    (table : EventTableHeader) (loop : Octets) (checksum : UInt32) :
    EventSection.read (layout spare header table loop checksum) =
      .ok { header, table, checksum, events := EventRecord.ofLoop loop } :=
  read_append (SectionHeader.reads_octets spare fits) rfl (EventTableHeader.reads_octets table)
    (Reader.reads_word32 checksum) rfl loop

theorem exists_layout {buffer : Octets} (long : 18 ≤ buffer.length) :
    ∃ spare header table loop checksum, header.Fits ∧
      buffer = layout spare header table loop checksum := by
  have eight : (buffer.take 8).length = 8 := List.length_take_of_le (by omega)
  have six : ((buffer.drop 8).take 6).length = 6 := by
    rw [List.length_take, List.length_drop]
    omega
  have four : (buffer.drop (buffer.length - 4)).length = 4 := by
    rw [List.length_drop]
    omega
  obtain ⟨spare, header, fits, front⟩ := SectionHeader.exists_octets eight
  obtain ⟨table, middle⟩ := EventTableHeader.exists_octets six
  obtain ⟨checksum, last⟩ := exists_octets32 four
  refine ⟨spare, header, table, (buffer.drop 14).take (buffer.length - 18), checksum, fits, ?_⟩
  have size : buffer.length - 4 = 8 + (6 + (buffer.length - 18)) := by omega
  rw [layout, front, middle, last, ← List.drop_drop (i := 6) (j := 8), ← List.take_add,
    ← List.take_add, ← size, List.take_append_drop]

theorem read_eq_ok {buffer : Octets} {received : EventSection}
    (found : EventSection.read buffer = .ok received) :
    received.header.Fits ∧ ∃ loop : Octets, loop.length + 18 = buffer.length ∧
      received.events = EventRecord.ofLoop loop := by
  rcases Nat.lt_or_ge buffer.length 18 with short | long
  · rw [read_of_short short] at found
    cases found
  · obtain ⟨spare, header, table, loop, checksum, fits, rfl⟩ := exists_layout long
    rw [read_layout spare fits] at found
    cases found
    rw [length_layout, Nat.add_comm]
    exact ⟨fits, loop, rfl, rfl⟩

/-- What is laid out from headers, events and a checksum is read as just these. And whatever is long
enough for the headers and the checksum is read, and is laid out without gap or overlap from what
was read: every event but the last has the octets of descriptors that it says, the last one those
or all that are left, and no further event would fit behind it. -/
theorem read_parts :
    (∀ (spare : Spare) (header : SectionHeader) (table : EventTableHeader)
        (entries : List EventEntry) (checksum : UInt32), header.Fits →
      EventSection.read (layout spare header table (entries.flatMap EventEntry.octets) checksum) =
        .ok { header, table, checksum, events := entries.map EventEntry.record }) ∧
    (∀ buffer : Octets, 18 ≤ buffer.length →
      ∃ (received : EventSection) (spare : Spare) (spans : List EventSpan) (leftover : Octets),
        EventSection.read buffer = .ok received ∧
        received.header.Fits ∧
        buffer = layout spare received.header received.table
          (spans.flatMap EventSpan.octets ++ leftover) received.checksum ∧
        received.events = spans.map EventSpan.record ∧
        leftover.length < 12 ∧
        (∀ span ∈ spans.dropLast, span.descriptors.length = span.head.length.toNat) ∧
        ∀ span, spans.getLast? = some span →
          span.descriptors.length =
              min span.head.length.toNat (span.descriptors.length + leftover.length) ∧
            (span.descriptors.length < span.head.length.toNat → leftover = [])) ∧
    ∀ buffer : Octets, buffer.length < 18 → EventSection.read buffer = .error .truncated := by
  refine ⟨?_, ?_, fun buffer short => read_of_short short⟩
  · intro spare header table entries checksum fits
    rw [read_layout spare fits, EventEntry.ofLoop_octets]
  · intro buffer long
    obtain ⟨spare, header, table, loop, checksum, fits, rfl⟩ := exists_layout long
    obtain ⟨spans, leftover, rfl, tile⟩ := EventSpan.exists_tile loop
    have ran := read_layout spare fits table (spans.flatMap EventSpan.octets ++ leftover) checksum
    rw [EventSpan.ofLoop_of_tile tile] at ran
    exact ⟨_, spare, spans, leftover, ran, fits, rfl, rfl, tile.short,
      tile.declared_of_mem_dropLast, tile.last_clamped⟩

/-- An event with six octets of descriptors. -/
def soleEntry : EventEntry where
  eventId := 0x1234
  start := ⟨0xC079, 0x01, 0x45, 0x30⟩
  duration := ⟨0x00, 0x30, 0x00⟩
  statusCode := 4
  scrambled := false
  descriptors := [0x50, 0x04, 0x15, 0x05, 0x00, 0x65]
  narrow := by decide
  short := by decide

/-- The same event, and one that says it has three octets of descriptors but has none. -/
def clampedEvents : Octets :=
  [0x4E, 0xF0, 0x2A, 0x00, 0x10, 0xC3, 0x00, 0x01, 0x00, 0x01, 0x00, 0x02, 0x01, 0x4E] ++
    soleEntry.octets ++
    [0x12, 0x35, 0xFF, 0xFF, 0xFF, 0xFF, 0xFF, 0x01, 0x00, 0x00, 0x10, 0x03,
      0xDE, 0xAD, 0xBE, 0xEF]

theorem read_parts_clampedEvents :
    let header : SectionHeader := ⟨0x4E, true, 0x21, 0x10, 1, true, 0, 1⟩
    header.Fits ∧
    EventSection.read (layout (fun _ => 3) header ⟨1, 2, 1, 0x4E⟩ soleEntry.octets 0xDEADBEEF) =
      .ok ⟨header, ⟨1, 2, 1, 0x4E⟩, [soleEntry.record], 0xDEADBEEF⟩ ∧
    18 ≤ clampedEvents.length ∧
    (∃ (received : EventSection) (spans : List EventSpan),
      EventSection.read clampedEvents = .ok received ∧
      received.events = spans.map EventSpan.record ∧
      spans.map (fun span => span.descriptors.length) = [6, 0]) ∧
    EventSection.read (clampedEvents.take 17) = .error .truncated := by
  obtain ⟨written, taken, refused⟩ := read_parts
  intro header
  have fits : header.Fits := ⟨by decide, by decide⟩
  have long : 18 ≤ clampedEvents.length := by decide
  refine ⟨fits, written (fun _ => 3) header ⟨1, 2, 1, 0x4E⟩ [soleEntry] 0xDEADBEEF fits, long, ?_,
    refused _ (by decide)⟩
  obtain ⟨received, _, spans, _, ran, _, _, events, _⟩ := taken clampedEvents long
  refine ⟨received, spans, ran, events, ?_⟩
  have sizes : (EventSection.read clampedEvents).toOption.map
      (fun found => found.events.map fun record => record.descriptors.octets.length) =
        some [6, 0] := by
    decide +kernel
  rw [ran] at sizes
  have both : received.events.map (fun record => record.descriptors.octets.length) = [6, 0] :=
    Option.some.inj sizes
  rw [events, List.map_map] at both
  exact both

end EventSection

end ProgrammeGuide
