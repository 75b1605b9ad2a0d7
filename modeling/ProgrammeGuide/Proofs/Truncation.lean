import ProgrammeGuide.Proofs.Blocks
import ProgrammeGuide.Proofs.EventLoop

/-!
Sections that have been cut off. What a section holds is laid out as one stream of pieces, the
fixed part of an event and every descriptor behind it, each with the place where it ends. A cut
keeps exactly the pieces that end before the four octets which are taken for the checksum now.
-/

namespace ProgrammeGuide

inductive Piece
  | event (eventId : UInt16) (airing : Airing)
  | descriptor (raw : RawDescriptor)
  deriving DecidableEq, Repr

/-- A piece and how many octets of the section there are up to its end. -/
structure Placed where
  piece : Piece
  stop : Nat
  deriving DecidableEq, Repr

/-- The pieces that are left end within the bound, the others after it and behind them. -/
def CutAt (bound : Nat) (whole left : List Placed) : Prop :=
  ∃ lost, whole = left ++ lost ∧ (∀ placed ∈ left, placed.stop ≤ bound) ∧
    ∀ placed ∈ lost, bound < placed.stop

namespace CutAt

variable {bound : Nat} {whole left more : List Placed}

theorem of_lost (lost : ∀ placed ∈ whole, bound < placed.stop) : CutAt bound whole [] :=
  ⟨whole, rfl, by simp, lost⟩

theorem append_kept (kept : ∀ placed ∈ more, placed.stop ≤ bound) (cut : CutAt bound whole left) :
    CutAt bound (more ++ whole) (more ++ left) := by
  obtain ⟨lost, rfl, within, beyond⟩ := cut
  refine ⟨lost, (List.append_assoc ..).symm, ?_, beyond⟩
  intro placed member
  rcases List.mem_append.mp member with first | second
  · exact kept placed first
  · exact within placed second

theorem cons_kept {place : Placed} (kept : place.stop ≤ bound) (cut : CutAt bound whole left) :
    CutAt bound (place :: whole) (place :: left) := by
  change CutAt bound ([place] ++ whole) ([place] ++ left)
  exact append_kept (List.forall_mem_singleton.mpr kept) cut

theorem append_lost (cut : CutAt bound whole left) (lost : ∀ placed ∈ more, bound < placed.stop) :
    CutAt bound (whole ++ more) left := by
  obtain ⟨others, rfl, within, beyond⟩ := cut
  refine ⟨others ++ more, List.append_assoc .., within, ?_⟩
  intro placed member
  rcases List.mem_append.mp member with first | second
  · exact beyond placed first
  · exact lost placed second

theorem eq_filter (cut : CutAt bound whole left) :
    left = whole.filter fun placed => placed.stop ≤ bound := by
  obtain ⟨lost, rfl, within, beyond⟩ := cut
  have all : (left.filter fun placed => placed.stop ≤ bound) = left := by
    rw [List.filter_eq_self]
    intro placed member
    exact decide_eq_true (within placed member)
  have none : (lost.filter fun placed => placed.stop ≤ bound) = [] := by
    rw [List.filter_eq_nil_iff]
    intro placed member
    simpa using beyond placed member
  rw [List.filter_append, all, none, List.append_nil]

theorem isPrefix (cut : CutAt bound whole left) : left <+: whole := by
  obtain ⟨lost, rfl, _⟩ := cut
  exact List.prefix_append left lost

end CutAt

namespace RawDescriptor

/-- Descriptors one behind the other, from the given place on. -/
def placed (start : Nat) : List RawDescriptor → List Placed
  | [] => []
  | raw :: others =>
      ⟨.descriptor raw, start + raw.octets.length⟩ :: placed (start + raw.octets.length) others

theorem placed_pieces (start : Nat) (descriptors : List RawDescriptor) :
    (placed start descriptors).map Placed.piece = descriptors.map Piece.descriptor := by
  induction descriptors generalizing start with
  | nil => rfl
  | cons raw others ih => simp only [placed, List.map_cons, ih]

theorem lt_stop_of_mem_placed {start : Nat} {descriptors : List RawDescriptor} {place : Placed}
    (member : place ∈ placed start descriptors) : start < place.stop := by
  induction descriptors generalizing start with
  | nil => cases member
  | cons raw others ih =>
      have size := raw.length_octets
      rcases List.mem_cons.mp member with rfl | later
      · simp only
        omega
      · have behind := ih later
        omega

theorem run_of_take {octets rest : Octets} {count : Nat} {raw : RawDescriptor}
    (ran : RawDescriptor.reader.run (octets.take count) = .ok (raw, rest)) :
    RawDescriptor.reader.run octets = .ok (raw, rest ++ octets.drop count) ∧
      raw.octets.length ≤ count := by
  obtain ⟨short, split⟩ := run_eq_ok_iff.mp ran
  constructor
  · apply run_eq_ok_iff.mpr
    refine ⟨short, ?_⟩
    rw [← List.append_assoc, ← split, List.take_append_drop]
  · have size := congrArg List.length split
    rw [List.length_take, List.length_append] at size
    omega

/-- The descriptors of a block whose end is cut off. -/
theorem placed_take (octets : Octets) (start count : Nat) :
    CutAt (start + count) (placed start (DescriptorBlock.mk octets).raw)
      (placed start (DescriptorBlock.mk (octets.take count)).raw) := by
  induction octets using reader_progresses.induction generalizing start count with
  | stuck octets cause ran =>
      cases left : RawDescriptor.reader.run (octets.take count) with
      | error reason =>
          rw [DescriptorBlock.raw_of_error ran, DescriptorBlock.raw_of_error left]
          exact CutAt.of_lost (by simp [placed])
      | ok found => cases ran.symm.trans (run_of_take left).1
  | step octets raw rest ran ih =>
      rw [DescriptorBlock.raw_of_ok ran, placed]
      by_cases fits : raw.octets.length ≤ count
      · obtain ⟨short, split⟩ := run_eq_ok_iff.mp ran
        have cut : octets.take count = raw.octets ++ rest.take (count - raw.octets.length) := by
          rw [split, List.take_append, List.take_of_length_le fits]
        have later := ih (start + raw.octets.length) (count - raw.octets.length)
        have bound : start + raw.octets.length + (count - raw.octets.length) = start + count := by
          omega
        rw [bound] at later
        rw [DescriptorBlock.raw_of_ok (run_eq_ok_iff.mpr ⟨short, cut⟩), placed]
        exact CutAt.cons_kept (Nat.add_le_add_left fits start) later
      · cases left : RawDescriptor.reader.run (octets.take count) with
        | ok found =>
            obtain ⟨whole, within⟩ := run_of_take left
            cases ran.symm.trans whole
            exact absurd within fits
        | error cause =>
            rw [DescriptorBlock.raw_of_error left]
            apply CutAt.of_lost
            intro place member
            rcases List.mem_cons.mp member with rfl | later
            · simp only
              omega
            · have behind := lt_stop_of_mem_placed later
              omega

end RawDescriptor

namespace EventRecord

def pieces (record : EventRecord) : List Piece :=
  .event record.eventId record.airing :: record.descriptors.raw.map .descriptor

def placed (start : Nat) : List EventRecord → List Placed
  | [] => []
  | record :: others =>
      ⟨.event record.eventId record.airing, start + 12⟩ ::
        (RawDescriptor.placed (start + 12) record.descriptors.raw ++
          placed (start + 12 + record.descriptors.octets.length) others)

theorem placed_pieces (start : Nat) (records : List EventRecord) :
    (placed start records).map Placed.piece = records.flatMap pieces := by
  induction records generalizing start with
  | nil => rfl
  | cons record others ih =>
      simp only [placed, pieces, List.map_cons, List.map_append, RawDescriptor.placed_pieces, ih,
        List.flatMap_cons, List.cons_append]

theorem le_stop_of_mem_placed {start : Nat} {records : List EventRecord} {place : Placed}
    (member : place ∈ placed start records) : start + 12 ≤ place.stop := by
  induction records generalizing start with
  | nil => cases member
  | cons record others ih =>
      rcases List.mem_cons.mp member with rfl | behind
      · exact Nat.le_refl _
      · rcases List.mem_append.mp behind with inBlock | later
        · exact Nat.le_of_lt (RawDescriptor.lt_stop_of_mem_placed inBlock)
        · have further := ih later
          omega

theorem run_of_long {input : Octets} (long : 12 ≤ input.length) :
    ∃ head, EventHead.reader.Reads (input.take 12) head ∧
      EventRecord.reader.run input =
        .ok (head.record ((input.drop 12).take head.length.toNat),
          (input.drop 12).drop head.length.toNat) := by
  obtain ⟨head, reads⟩ := EventHead.hasWidth_reader.reads _ (List.length_take_of_le long)
  have ran := run_of_reads reads (input.drop 12)
  rw [List.take_append_drop] at ran
  exact ⟨head, reads, ran⟩

theorem run_take {input : Octets} {head : EventHead}
    (reads : EventHead.reader.Reads (input.take 12) head) {count : Nat} (kept : 12 ≤ count) :
    EventRecord.reader.run (input.take count) =
      .ok (head.record (((input.drop 12).take head.length.toNat).take (count - 12)),
        ((input.drop 12).take (count - 12)).drop head.length.toNat) := by
  have split : input.take count = input.take 12 ++ (input.drop 12).take (count - 12) := by
    rw [← List.take_add, Nat.add_sub_cancel' kept]
  rw [split, run_of_reads reads, List.take_take, List.take_take, Nat.min_comm]

theorem drop_take_block (tail : Octets) (size count : Nat) :
    (tail.take count).drop size = (tail.drop size).take (count - (tail.take size).length) := by
  rw [List.drop_take]
  by_cases ample : size ≤ tail.length
  · rw [List.length_take_of_le ample]
  · rw [List.drop_eq_nil_of_le (by omega), List.take_nil, List.take_nil]

theorem ofLoop_of_short {octets : Octets} (short : octets.length < 12) : ofLoop octets = [] :=
  ofLoop_of_error (run_of_short short)

/-- The events of a loop whose end is cut off. -/
theorem placed_take (octets : Octets) (start count : Nat) :
    CutAt (start + count) (placed start (ofLoop octets))
      (placed start (ofLoop (octets.take count))) := by
  induction octets using reader_progresses.induction generalizing start count with
  | stuck octets cause ran =>
      have short : octets.length < 12 := by
        refine Nat.lt_of_not_le fun long => ?_
        obtain ⟨head, _, found⟩ := run_of_long long
        cases ran.symm.trans found
      have shorter : (octets.take count).length < 12 :=
        Nat.lt_of_le_of_lt (List.length_take_le' ..) short
      rw [ofLoop_of_short short, ofLoop_of_short shorter]
      exact CutAt.of_lost (by simp [placed])
  | step octets record rest ran ih =>
      have long : 12 ≤ octets.length := by
        refine Nat.le_of_not_lt fun short => ?_
        cases (run_of_short short).symm.trans ran
      obtain ⟨head, reads, found⟩ := run_of_long long
      cases ran.symm.trans found
      by_cases headless : count < 12
      · have short : (octets.take count).length < 12 :=
          Nat.lt_of_le_of_lt (List.length_take_le ..) headless
        rw [ofLoop_of_short short]
        apply CutAt.of_lost
        intro place member
        have behind := le_stop_of_mem_placed member
        omega
      · have cut := run_take reads (Nat.le_of_not_lt headless)
        rw [ofLoop_of_ok found, ofLoop_of_ok cut, placed, placed]
        refine CutAt.cons_kept (by simp only; omega) ?_
        generalize octets.drop 12 = tail at ih ⊢
        generalize head.length.toNat = size at ih ⊢
        have block := RawDescriptor.placed_take (tail.take size) (start + 12) (count - 12)
        have bound : start + 12 + (count - 12) = start + count := by omega
        rw [bound] at block
        rw [drop_take_block]
        simp only [EventHead.record]
        by_cases behind : (tail.take size).length ≤ count - 12
        · have later := ih (start + 12 + (tail.take size).length)
            (count - 12 - (tail.take size).length)
          have reached : start + 12 + (tail.take size).length +
              (count - 12 - (tail.take size).length) = start + count := by omega
          rw [reached] at later
          rw [List.take_of_length_le behind] at block ⊢
          obtain ⟨_, _, within, _⟩ := block
          exact CutAt.append_kept within later
        · -- The cut falls into the block, and of the events behind it nothing is left.
          have none : count - 12 - (tail.take size).length = 0 := by omega
          have nothing : ofLoop [] = [] := ofLoop_of_short (Nat.zero_lt_succ 11)
          rw [none, List.take_zero, nothing, placed, List.append_nil]
          refine CutAt.append_lost block ?_
          intro place member
          have further := le_stop_of_mem_placed member
          omega

end EventRecord

namespace EventSection

/-- The fixed part of every event, each followed by its descriptors. -/
def stream (received : EventSection) : List Piece := received.events.flatMap EventRecord.pieces

def placed (received : EventSection) : List Placed := EventRecord.placed 14 received.events

theorem read_of_front {buffer : Octets} (long : 18 ≤ buffer.length) {header : SectionHeader}
    {table : EventTableHeader} (headed : SectionHeader.reader.Reads (buffer.take 8) header)
    (tabled : EventTableHeader.reader.Reads ((buffer.drop 8).take 6) table) :
    ∃ checksum, EventSection.read buffer = .ok {
      header, table, checksum
      events := EventRecord.ofLoop ((buffer.drop 14).take (buffer.length - 18)) } := by
  have four : (buffer.drop (buffer.length - 4)).length = 4 := by
    rw [List.length_drop]
    omega
  have eight : (buffer.take 8).length = 8 := List.length_take_of_le (by omega)
  have front : buffer.take (buffer.length - 4) = buffer.take 8 ++
      ((buffer.drop 8).take 6 ++ (buffer.drop 14).take (buffer.length - 18)) := by
    have size : buffer.length - 4 = 8 + (6 + (buffer.length - 18)) := by omega
    rw [size, List.take_add, List.take_add, List.drop_drop]
  obtain ⟨checksum, ended⟩ := Reader.hasWidth_word32.reads _ four
  have found := EventSection.read_append headed eight tabled ended four
    ((buffer.drop 14).take (buffer.length - 18))
  rw [← front, List.take_append_drop] at found
  exact ⟨checksum, found⟩

theorem placed_pieces (received : EventSection) :
    received.placed.map Placed.piece = received.stream :=
  EventRecord.placed_pieces 14 received.events

/-- A section that is cut off is still read, with the same headers. Its events and descriptors are
the first ones of the whole section, namely those that end before its last four octets. -/
theorem read_take (buffer : Octets) (size : Nat) (long : 18 ≤ size)
    (within : size ≤ buffer.length) :
    ∃ left whole, EventSection.read (buffer.take size) = .ok left ∧
      EventSection.read buffer = .ok whole ∧
      left.header = whole.header ∧ left.table = whole.table ∧
      left.stream <+: whole.stream ∧
      left.placed = whole.placed.filter fun place => place.stop ≤ size - 4 := by
  have eight : (buffer.take 8).length = 8 := List.length_take_of_le (by omega)
  have six : ((buffer.drop 8).take 6).length = 6 := by
    rw [List.length_take, List.length_drop]
    omega
  obtain ⟨header, headed⟩ := SectionHeader.hasWidth_reader.reads _ eight
  obtain ⟨table, tabled⟩ := EventTableHeader.hasWidth_reader.reads _ six
  have fits : (buffer.take size).length = size := List.length_take_of_le within
  -- Both are read from the same first fourteen octets.
  have headedLeft : SectionHeader.reader.Reads ((buffer.take size).take 8) header := by
    rw [List.take_take, Nat.min_eq_left (by omega)]
    exact headed
  have tabledLeft : EventTableHeader.reader.Reads (((buffer.take size).drop 8).take 6) table := by
    rw [List.drop_take, List.take_take, Nat.min_eq_left (by omega)]
    exact tabled
  obtain ⟨wholeChecksum, wholeRead⟩ := read_of_front (by omega) headed tabled
  obtain ⟨leftChecksum, leftRead⟩ := read_of_front (by omega) headedLeft tabledLeft
  have loop : ((buffer.take size).drop 14).take ((buffer.take size).length - 18) =
      ((buffer.drop 14).take (buffer.length - 18)).take (size - 18) := by
    rw [fits, List.drop_take, List.take_take, List.take_take]
    congr 1
    omega
  rw [loop] at leftRead
  have cut := EventRecord.placed_take ((buffer.drop 14).take (buffer.length - 18)) 14 (size - 18)
  have bound : 14 + (size - 18) = size - 4 := by omega
  rw [bound] at cut
  refine ⟨_, _, leftRead, wholeRead, rfl, rfl, ?_, cut.eq_filter⟩
  rw [← placed_pieces, ← placed_pieces]
  exact cut.isPrefix.map Placed.piece

/-- Two events, the first of them with two descriptors. -/
def twoEvents : Octets :=
  [0x4E, 0xF0, 0x31, 0x00, 0x10, 0xC1, 0x00, 0x00, 0x00, 0x01, 0x00, 0x02, 0x00, 0x4E,
    0x00, 0x01, 0xC0, 0x79, 0x01, 0x45, 0x30, 0x00, 0x30, 0x00, 0x80, 0x0A,
    0x54, 0x02, 0x10, 0x00, 0x55, 0x04, 0x47, 0x42, 0x52, 0x09,
    0x00, 0x02, 0xC0, 0x79, 0x02, 0x15, 0x30, 0x00, 0x30, 0x00, 0x20, 0x00,
    0xDE, 0xAD, 0xBE, 0xEF]

/-- The cut falls into the first event's second descriptor, of which four octets become the
checksum. -/
theorem read_take_twoEvents :
    18 ≤ 38 ∧ 38 ≤ twoEvents.length ∧
    ∃ left whole, EventSection.read (twoEvents.take 38) = .ok left ∧
      EventSection.read twoEvents = .ok whole ∧
      left.header = whole.header ∧ left.stream <+: whole.stream ∧
      left.placed.map Placed.stop = [26, 30] ∧ whole.placed.map Placed.stop = [26, 30, 36, 48] := by
  have within : 38 ≤ twoEvents.length := by decide
  obtain ⟨left, whole, readLeft, readWhole, header, _, front, kept⟩ :=
    read_take twoEvents 38 (by decide) within
  have stops : (EventSection.read twoEvents).toOption.map
      (fun received => received.placed.map Placed.stop) = some [26, 30, 36, 48] := by
    decide +kernel
  rw [readWhole] at stops
  have places : whole.placed.map Placed.stop = [26, 30, 36, 48] := Option.some.inj stops
  refine ⟨by decide, within, left, whole, readLeft, readWhole, header, front, ?_, places⟩
  have filtered : (whole.placed.map Placed.stop).filter (fun stop => stop ≤ 34) =
      (whole.placed.filter fun place => place.stop ≤ 34).map Placed.stop := List.filter_map
  rw [places] at filtered
  rw [kept]
  exact filtered.symm

end EventSection

end ProgrammeGuide
