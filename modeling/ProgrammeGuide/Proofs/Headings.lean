import ProgrammeGuide.Proofs.ClassRuns
import ProgrammeGuide.Proofs.Truncation

/-!
What the verdict on a section goes by: the id of its table, its version, and four numbers in its
headers. All else, and the events above all, may be anything of any length without a change to the
verdict or to what is remembered of the classes. The checksum has no say even in the events.
-/

namespace ProgrammeGuide

/-- Agreement in all that is looked at before a section is taken. -/
structure SameHeading (first second : Octets) : Prop where
  tableId : first[0]? = second[0]?
  version : first[5]?.map (bits 1 5) = second[5]?.map (bits 1 5)
  number : first[6]? = second[6]?
  lastNumber : first[7]? = second[7]?
  segmentLastNumber : first[12]? = second[12]?
  lastTableId : first[13]? = second[13]?

namespace EventSection

structure HeadedBy (received : EventSection) (buffer : Octets) : Prop where
  version : buffer[5]?.map (bits 1 5) = some received.header.version
  number : buffer[6]? = some received.header.number
  lastNumber : buffer[7]? = some received.header.lastNumber
  segmentLastNumber : buffer[12]? = some received.table.segmentLastNumber
  lastTableId : buffer[13]? = some received.table.lastTableId

variable {buffer first second : Octets} {received : EventSection}

theorem headedBy_of_read (long : 18 ≤ buffer.length)
    (ran : EventSection.read buffer = .ok received) : received.HeadedBy buffer := by
  match buffer, long with
  | _ :: _ :: _ :: _ :: _ :: _ :: _ :: _ :: _ :: _ :: _ :: _ :: _ :: _ :: _, long =>
      obtain ⟨checksum, found⟩ := read_of_front long (fun _ => rfl) (fun _ => rfl)
      rw [ran] at found
      cases found
      exact ⟨rfl, rfl, rfl, rfl, rfl⟩

theorem read_of_same_front (long : 18 ≤ first.length) (sameLength : first.length = second.length)
    (sameFront : first.take (first.length - 4) = second.take (second.length - 4)) :
    ∃ received checksum, EventSection.read first = .ok received ∧
      EventSection.read second = .ok { received with checksum } := by
  have front : ∀ count, count ≤ first.length - 4 → first.take count = second.take count := by
    intro count within
    have cut := congrArg (List.take count) sameFront
    rwa [List.take_take, List.take_take, ← sameLength, Nat.min_eq_left within] at cut
  have eight : (first.take 8).length = 8 := List.length_take_of_le (by omega)
  have six : ((first.drop 8).take 6).length = 6 := by
    rw [List.length_take, List.length_drop]
    omega
  obtain ⟨header, headed⟩ := SectionHeader.hasWidth_reader.reads _ eight
  obtain ⟨table, tabled⟩ := EventTableHeader.hasWidth_reader.reads _ six
  have behind : ∀ start count, start + count ≤ first.length - 4 →
      (first.drop start).take count = (second.drop start).take count := by
    intro start count within
    rw [List.take_drop, List.take_drop, front (start + count) within]
  obtain ⟨_, ran⟩ := read_of_front long headed tabled
  rw [front 8 (by omega)] at headed
  rw [behind 8 6 (by omega)] at tabled
  obtain ⟨otherChecksum, otherRan⟩ := read_of_front (sameLength ▸ long) headed tabled
  rw [← sameLength, ← behind 14 (first.length - 18) (by omega)] at otherRan
  exact ⟨_, otherChecksum, ran, otherRan⟩

end EventSection

namespace ClassState

variable {cls : TableClass} {header otherHeader : SectionHeader}
  {table otherTable : EventTableHeader} {first second : Octets}

theorem review_congr (state : ClassState) (version : header.version = otherHeader.version)
    (number : header.number = otherHeader.number)
    (lastNumber : header.lastNumber = otherHeader.lastNumber)
    (segmentLastNumber : table.segmentLastNumber = otherTable.segmentLastNumber)
    (lastTableId : table.lastTableId = otherTable.lastTableId) :
    state.review cls header table = state.review cls otherHeader otherTable := by
  cases header
  cases otherHeader
  cases table
  cases otherTable
  cases version
  cases number
  cases lastNumber
  cases segmentLastNumber
  cases lastTableId
  rfl

theorem receive_congr (state : ClassState) (firstLong : 18 ≤ first.length)
    (secondLong : 18 ≤ second.length) (same : SameHeading first second) :
    state.receive cls first = state.receive cls second := by
  obtain ⟨received, ran⟩ := EventSection.read_of_long firstLong
  obtain ⟨other, otherRan⟩ := EventSection.read_of_long secondLong
  have heading := EventSection.headedBy_of_read firstLong ran
  have otherHeading := EventSection.headedBy_of_read secondLong otherRan
  simp only [receive, ran, otherRan]
  apply review_congr
  · exact Option.some.inj (heading.version.symm.trans (same.version.trans otherHeading.version))
  · exact Option.some.inj (heading.number.symm.trans (same.number.trans otherHeading.number))
  · exact Option.some.inj
      (heading.lastNumber.symm.trans (same.lastNumber.trans otherHeading.lastNumber))
  · exact Option.some.inj (heading.segmentLastNumber.symm.trans
      (same.segmentLastNumber.trans otherHeading.segmentLastNumber))
  · exact Option.some.inj
      (heading.lastTableId.symm.trans (same.lastTableId.trans otherHeading.lastTableId))

end ClassState

namespace Guide

variable {first second : Octets}

theorem receive_of_sameHeading (guide : Guide) (firstLong : 18 ≤ first.length)
    (secondLong : 18 ≤ second.length) (same : SameHeading first second) :
    (guide.receive first).2 = (guide.receive second).2 ∧
      (guide.receive first).1.states = (guide.receive second).1.states := by
  obtain ⟨tableId, others, rfl⟩ := List.exists_cons_of_length_pos (Nat.lt_of_lt_of_le
    (by decide) firstLong)
  obtain ⟨otherId, rest, rfl⟩ := List.exists_cons_of_length_pos (Nat.lt_of_lt_of_le
    (by decide) secondLong)
  obtain rfl : tableId = otherId := Option.some.inj same.tableId
  cases known : TableClass.ofTableId? tableId with
  | none =>
      rw [receive_of_error (identify_of_unknown known),
        receive_of_error (identify_of_unknown known)]
      exact ⟨rfl, rfl⟩
  | some cls =>
      have firstKnown : TableClass.ofBuffer? (tableId :: others) = some cls := known
      have secondKnown : TableClass.ofBuffer? (tableId :: rest) = some cls := known
      obtain ⟨firstState, firstVerdict⟩ := guide.receive_of_class firstKnown
      obtain ⟨secondState, secondVerdict⟩ := guide.receive_of_class secondKnown
      have agreed : (guide.states.get cls).receive cls _ = (guide.states.get cls).receive cls _ :=
        ClassState.receive_congr _ firstLong secondLong same
      refine ⟨by rw [firstVerdict, secondVerdict, agreed], PerClass.ext_get fun other => ?_⟩
      by_cases own : other = cls
      · subst own
        rw [firstState, secondState, agreed]
      · have foreign : some cls ≠ some other := fun equal => own (Option.some.inj equal).symm
        rw [guide.receive_of_other (firstKnown ▸ foreign),
          guide.receive_of_other (secondKnown ▸ foreign)]

theorem receive_of_unidentified (guide : Guide)
    (unidentified : ∀ cls received, ¬(TableClass.ofBuffer? first = some cls ∧
      EventSection.read first = .ok received)) : (guide.receive first).1 = guide := by
  cases identified : identify first with
  | error cause => rw [receive_of_error identified]
  | ok found => exact absurd (identify_eq_ok_iff.mp identified) (unidentified found.1 found.2)

theorem receive_of_short (guide : Guide) (short : first.length < 18) :
    (guide.receive first).1 = guide := by
  apply receive_of_unidentified
  rintro cls received ⟨_, ran⟩
  rw [EventSection.read_of_short short] at ran
  cases ran

theorem receive_of_same_front (guide : Guide) (sameLength : first.length = second.length)
    (sameFront : first.take (first.length - 4) = second.take (second.length - 4)) :
    (guide.receive first).1 = (guide.receive second).1 := by
  rcases Nat.lt_or_ge first.length 18 with short | long
  · rw [guide.receive_of_short short, guide.receive_of_short (sameLength ▸ short)]
  · obtain ⟨received, checksum, ran, otherRan⟩ :=
      EventSection.read_of_same_front long sameLength sameFront
    have sameClass : TableClass.ofBuffer? second = TableClass.ofBuffer? first := by
      have same := congrArg List.head? sameFront
      rw [List.head?_take, List.head?_take, if_neg (by omega), if_neg (by omega)] at same
      rw [TableClass.ofBuffer?, TableClass.ofBuffer?, same]
    cases known : TableClass.ofBuffer? first with
    | none =>
        have unclassed : ∀ cls, TableClass.ofBuffer? first ≠ some cls := by simp [known]
        rw [receive_of_unidentified guide fun cls _ found => unclassed cls found.1,
          receive_of_unidentified guide fun cls _ found => unclassed cls (sameClass ▸ found.1)]
    | some cls =>
        rw [receive_of_ok (identify_of_read known ran),
          receive_of_ok (identify_of_read (sameClass.trans known) otherRan)]
        rfl

/-- Sections of the same heading get the same verdict and leave the same states behind, whatever
else they hold. Buffers of one length that differ in their last four octets at most leave the same
guide behind, its events included. -/
theorem receive_heading (guide : Guide) (first second : Octets) :
    (18 ≤ first.length → 18 ≤ second.length → SameHeading first second →
      (guide.receive first).2 = (guide.receive second).2 ∧
      (guide.receive first).1.states = (guide.receive second).1.states) ∧
    (first.length = second.length →
      first.take (first.length - 4) = second.take (second.length - 4) →
      (guide.receive first).1 = (guide.receive second).1) :=
  ⟨guide.receive_of_sameHeading, guide.receive_of_same_front⟩

/-- Another service and network, no section syntax, no length, and an event without an end. -/
def unlikeSection : Octets :=
  [0x50, 0x00, 0x00, 0xFF, 0xFF, 0x06, 0x00, 0x00, 0x12, 0x34, 0x56, 0x78, 0x00, 0x51,
    0x00, 0x01, 0xC0, 0x79, 0x01, 0x45, 0x30, 0x00, 0x30, 0x00, 0x8F, 0xFF, 0x4D, 0x20, 0x65, 0x6E,
    0x67, 0x00]

theorem receive_heading_unlikeSection :
    let guide := ((empty .unlimited).receive (bareSection 0x50 1 0x50)).1
    let mistaken := unlikeSection.dropLast ++ [0xFF]
    SameHeading (bareSection 0x50 3 0x51) unlikeSection ∧
    (guide.receive unlikeSection).2 = .ok () ∧
    (guide.receive (bareSection 0x50 3 0x51)).2 = (guide.receive unlikeSection).2 ∧
    (guide.receive (bareSection 0x50 3 0x51)).1.states = (guide.receive unlikeSection).1.states ∧
    (guide.receive unlikeSection).1 = (guide.receive mistaken).1 := by
  intro guide mistaken
  have same : SameHeading (bareSection 0x50 3 0x51) unlikeSection := ⟨rfl, rfl, rfl, rfl, rfl, rfl⟩
  obtain ⟨verdict, states⟩ :=
    (receive_heading guide (bareSection 0x50 3 0x51) unlikeSection).1 (by decide) (by decide) same
  have checksum := (receive_heading guide unlikeSection mistaken).2 rfl rfl
  exact ⟨same, rfl, verdict, states, checksum⟩

end Guide

end ProgrammeGuide
