import ProgrammeGuide.Proofs.LongDescriptions
import ProgrammeGuide.Proofs.RoundTrip
import ProgrammeGuide.Proofs.SectionLayout
import ProgrammeGuide.Proofs.Splitting
import ProgrammeGuide.Proofs.Verdicts

/-!
From a plan of programmes to the guide. The programmes are laid out in one section, each with its
name and a short text in one descriptor and its long text in numbered fragments, cut in any way.
A guide without limits that holds none of them and is open to the section holds all of them after
it, complete and in the order of the plan.
-/

namespace ProgrammeGuide

/-- What one fragment carries of a long description. -/
structure Passage where
  language : LetterCode
  items : List EventItem
  text : Text
  short : 6 + (items.flatMap EventItem.layout).length + text.length ≤ 255

namespace Passage

def fragment (lastNumber number : Nat) (passage : Passage) : ExtendedEvent where
  number := UInt8.ofNat number
  lastNumber := UInt8.ofNat lastNumber
  language := passage.language
  items := passage.items
  text := passage.text

theorem length_layout (lastNumber number : Nat) (passage : Passage) :
    (passage.fragment lastNumber number).layout.length =
      6 + (passage.items.flatMap EventItem.layout).length + passage.text.length := by
  have three : passage.language.octets.length = 3 := rfl
  simp only [ExtendedEvent.layout, fragment, List.length_cons, List.length_append, length_counted,
    three, Text.length]
  omega

theorem fragment_fits {lastNumber number : Nat} (lastBound : lastNumber < 16)
    (bound : number < 16) (passage : Passage) : (passage.fragment lastNumber number).Fits := by
  constructor
  · change (UInt8.ofNat number).toNat < 16
    rw [UInt8.toNat_ofNat']
    omega
  · change (UInt8.ofNat lastNumber).toNat < 16
    rw [UInt8.toNat_ofNat']
    omega

/-- The passages in order, numbered from 0. -/
def fragments (passages : List Passage) : List ExtendedEvent :=
  passages.zipIdx.map fun entry => entry.1.fragment (passages.length - 1) entry.2

theorem flatMap_fragments {α : Type} (passages : List Passage) {field : ExtendedEvent → List α}
    {own : Passage → List α}
    (same : ∀ passage lastNumber number, field (passage.fragment lastNumber number) = own passage) :
    (fragments passages).flatMap field = passages.flatMap own := by
  have unnumbered := congrArg (List.flatMap own) (List.zipIdx_map_fst 0 passages)
  rw [List.flatMap_map] at unnumbered
  rw [fragments, List.flatMap_map, ← unnumbered]
  exact congrArg (List.flatMap · _) (funext fun entry => same entry.1 _ entry.2)

theorem ascending_fragments {passages : List Passage} (few : passages.length ≤ 16)
    (source : TableVersion) :
    Fragment.Ascending ((fragments passages).map (Fragment.mk source)) := by
  constructor
  · intro first found
    cases passages with
    | nil => cases found
    | cons passage others =>
        cases found
        rfl
  · have numbers : (passages.zipIdx.map Prod.snd).Pairwise (· < ·) := by
      rw [List.zipIdx_map_snd]
      exact List.pairwise_lt_range'
    rw [fragments, List.map_map, List.pairwise_map]
    refine (List.pairwise_map.mp numbers).imp_of_mem ?_
    intro first second _ member below
    have bound := (List.mem_zipIdx' member).1
    change UInt8.ofNat first.2 < UInt8.ofNat second.2
    rw [UInt8.lt_iff_toNat_lt, UInt8.toNat_ofNat', UInt8.toNat_ofNat']
    omega

theorem getLast?_fragments (earlier : List Passage) (last : Passage) :
    (fragments (earlier ++ [last])).getLast? =
      some (last.fragment earlier.length earlier.length) := by
  simp [fragments, List.zipIdx_append]

/-- The texts and items of the passages, one behind the other. -/
def assembled (source : TableVersion) (passages : List Passage) : Option LongDescription :=
  if passages.isEmpty then none else some {
    text := ⟨passages.flatMap fun passage => passage.text.octets⟩
    items := passages.flatMap Passage.items
    lastFragment := UInt8.ofNat (passages.length - 1)
    source := some source }

theorem foldl_join_fragments {passages : List Passage} (few : passages.length ≤ 16)
    (source : TableVersion) :
    ((fragments passages).map (Fragment.mk source)).foldl (Fragment.join .unlimited) none =
      assembled source passages := by
  have texts : ((fragments passages).flatMap fun body => body.text.octets) =
      passages.flatMap fun passage => passage.text.octets :=
    flatMap_fragments passages fun _ _ _ => rfl
  have items : (fragments passages).flatMap ExtendedEvent.items = passages.flatMap Passage.items :=
    flatMap_fragments passages fun _ _ _ => rfl
  rw [Fragment.foldl_join, (ascending_fragments few source).parts_eq, Fragment.assemble,
    List.getLast?_map, List.flatMap_map, List.flatMap_map, texts, items]
  rcases List.eq_nil_or_concat passages with rfl | ⟨earlier, last, rfl⟩
  · rfl
  · have several : (earlier ++ [last]).isEmpty = false := by simp
    have size : (earlier ++ [last]).length - 1 = earlier.length := by simp
    rw [List.concat_eq_append, getLast?_fragments, assembled, several, size]
    rfl

end Passage

/-- An event as it is planned. One descriptor has room for its name and short text, and there are
enough numbers for the fragments. -/
structure Programme where
  eventId : UInt16
  start : StartTime
  duration : Duration
  statusCode : UInt8
  scrambled : Bool
  outline : ShortEvent
  passages : List Passage
  narrow : statusCode.toNat < 8
  short : outline.layout.length ≤ 255
  few : passages.length ≤ 16

namespace Programme

def descriptors (programme : Programme) : List Descriptor :=
  .shortEvent programme.outline :: (Passage.fragments programme.passages).map .extendedEvent

def unpadded : Filling := ⟨fun _ => 0, []⟩

def block (programme : Programme) : Octets :=
  programme.descriptors.flatMap fun descriptor => (descriptor.sent unpadded).octets

def head (programme : Programme) : EventHead where
  eventId := programme.eventId
  start := programme.start
  duration := programme.duration
  statusCode := programme.statusCode
  scrambled := programme.scrambled
  length := UInt16.ofNat programme.block.length

def octets (programme : Programme) : Octets := programme.head.octets ++ programme.block

def record (programme : Programme) : EventRecord := programme.head.record programme.block

variable (programme : Programme)

theorem descriptors_fit {descriptor : Descriptor} (member : descriptor ∈ programme.descriptors) :
    descriptor.Fits ∧ (descriptor.sent unpadded).body.length ≤ 255 := by
  rcases List.mem_cons.mp member with rfl | later
  · refine ⟨trivial, ?_⟩
    rw [Descriptor.sent, unpadded, List.append_nil]
    exact programme.short
  · obtain ⟨body, listed, rfl⟩ := List.mem_map.mp later
    obtain ⟨⟨passage, number⟩, numbered, rfl⟩ := List.mem_map.mp listed
    have bound := (List.mem_zipIdx' numbered).1
    have few := programme.few
    constructor
    · exact passage.fragment_fits (by omega) (by omega)
    · rw [Descriptor.sent, unpadded, List.append_nil, Passage.length_layout]
      exact passage.short

theorem readable_block : (DescriptorBlock.mk programme.block).readable = programme.descriptors := by
  have short : ∀ descriptor ∈ programme.descriptors,
      (descriptor.sent unpadded).body.length < 256 :=
    fun descriptor member => Nat.lt_succ_of_le (programme.descriptors_fit member).2
  have raw : (DescriptorBlock.mk programme.block).raw = _ := DescriptorBlock.raw_flatMap short
  have parsed : (DescriptorBlock.mk programme.block).parsed = programme.descriptors.map .ok := by
    rw [DescriptorBlock.parsed, raw, List.map_map]
    exact List.map_congr_left fun descriptor member =>
      Descriptor.read_sent unpadded (programme.descriptors_fit member).1 (short descriptor member)
  rw [DescriptorBlock.readable, parsed, List.filterMap_map]
  exact List.filterMap_some

theorem reads_octets (short : programme.block.length ≤ 4095) :
    EventRecord.reader.Reads programme.octets programme.record := by
  have declared : programme.head.length.toNat = programme.block.length := by
    rw [head, UInt16.toNat_ofNat']
    omega
  exact EventRecord.reads_record ⟨programme.narrow, by omega⟩ declared

end Programme

namespace GuideEvent

theorem foldl_merge_fragments {limits : Limits} {source : TableVersion} {event : GuideEvent}
    (announced : event.source = some source) (bodies : List ExtendedEvent) :
    (bodies.map Descriptor.extendedEvent).foldl (merge limits) event =
      { event with
        longDescription := (bodies.map (Fragment.mk source)).foldl (Fragment.join limits)
          event.longDescription } := by
  induction bodies generalizing event with
  | nil => rfl
  | cons body others ih =>
      have merged : event.merge limits (.extendedEvent body) =
          { event with
            longDescription := Fragment.join limits event.longDescription ⟨source, body⟩ } := by
        rw [merge, announced]
        rfl
      rw [List.map_cons, List.foldl_cons, merged]
      refine ih ?_
      exact announced

end GuideEvent

/-- A plan of programmes as one section of an event table. -/
structure Broadcast where
  header : SectionHeader
  spare : Spare
  table : EventTableHeader
  programmes : List Programme
  checksum : UInt32
  version : header.version.toNat < 32
  declared : header.length.toNat = 15 + (programmes.flatMap Programme.octets).length
  short : header.length.toNat ≤ 4095
  distinct : (programmes.map Programme.eventId).Nodup

namespace Broadcast

variable (sent : Broadcast)

def octets : Octets :=
  EventSection.layout sent.spare sent.header sent.table (sent.programmes.flatMap Programme.octets)
    sent.checksum

def received : EventSection where
  header := sent.header
  table := sent.table
  events := sent.programmes.map Programme.record
  checksum := sent.checksum

def key (programme : Programme) : EventKey :=
  ⟨sent.table.transportStreamId, sent.table.networkId, programme.eventId⟩

/-- What a guide is to hold of a programme that it did not know before. -/
def event (cls : TableClass) (programme : Programme) : GuideEvent :=
  { GuideEvent.blank (sent.key programme) sent.header.subjectId with
    airing := {
      start := programme.start
      duration := programme.duration
      status := .ofCode programme.statusCode
      scrambled := programme.scrambled }
    source := some ⟨cls, sent.header.version⟩
    language := some programme.outline.language
    name := programme.outline.name
    shortText := programme.outline.text
    longDescription := Passage.assembled ⟨cls, sent.header.version⟩ programme.passages }

theorem header_fits : sent.header.Fits := ⟨Nat.lt_succ_of_le sent.short, sent.version⟩

theorem read_octets : EventSection.read sent.octets = .ok sent.received := by
  have reads : ∀ programme ∈ sent.programmes,
      EventRecord.reader.Reads programme.octets programme.record := by
    intro programme member
    have within : programme.octets.length ≤ (sent.programmes.flatMap Programme.octets).length :=
      length_le_flatMap member
    have whole : programme.octets.length = _ := List.length_append
    have declared := sent.declared
    have short := sent.short
    exact programme.reads_octets (by omega)
  rw [octets, EventSection.read_layout sent.spare sent.header_fits,
    EventRecord.ofLoop_layouts reads]
  rfl

theorem whole_octets {cls : TableClass}
    (known : TableClass.ofTableId? sent.header.tableId = some cls) : Section.Whole sent.octets := by
  have genuine : sent.header.tableId ≠ Section.stuffing := by
    intro stuffed
    rw [stuffed] at known
    cases known
  have length := SectionHeader.length_of_run
    (SectionHeader.reads_octets sent.spare sent.header_fits [])
  have size := EventSection.length_layout sent.spare sent.header sent.table
    (sent.programmes.flatMap Programme.octets) sent.checksum
  refine ⟨genuine, ?_⟩
  rw [← length, sent.declared]
  -- The length field does not count itself and the table id.
  exact Nat.add_right_cancel (m := 3) (size.trans (by omega))

theorem split_octets {cls : TableClass}
    (known : TableClass.ofTableId? sent.header.tableId = some cls) (count : Nat) :
    Section.split (sent.octets ++ List.replicate count Section.stuffing) = [sent.octets] := by
  have exhausted : Section.Exhausted (List.replicate count Section.stuffing) := by
    match count with
    | 0 | 1 | 2 => exact trivial
    | count + 3 => exact Or.inl rfl
  rw [Section.split_append (sent.whole_octets known), Section.split_of_exhausted exhausted]

theorem nodup_keys : (sent.programmes.map sent.key).Nodup := by
  have same : sent.programmes.map sent.key =
      (sent.programmes.map Programme.eventId).map fun eventId =>
        ⟨sent.table.transportStreamId, sent.table.networkId, eventId⟩ := by
    rw [List.map_map]
    rfl
  rw [same]
  refine sent.distinct.map ?_
  intro first second alike
  exact (EventKey.mk.inj alike).2.2

theorem applyTo_blank (cls : TableClass) (programme : Programme) :
    Delivery.applyTo .unlimited (.blank (sent.key programme) sent.header.subjectId)
        ⟨cls, sent.received, programme.record⟩ = sent.event cls programme := by
  have kept (text : Text) : (if text.isEmpty then Text.empty else text) = text := by
    split
    · rename_i empty
      exact congrArg Text.mk (List.isEmpty_iff.mp empty).symm
    · rfl
  have readable : programme.record.descriptors.readable = programme.descriptors :=
    programme.readable_block
  have announced : (((GuideEvent.blank (sent.key programme) sent.header.subjectId).announce
      ⟨cls, sent.header.version⟩ programme.record.airing).merge .unlimited
        (.shortEvent programme.outline)).source = some ⟨cls, sent.header.version⟩ := rfl
  have assembled := Passage.foldl_join_fragments programme.few ⟨cls, sent.header.version⟩
  rw [Delivery.applyTo, readable, Programme.descriptors, List.foldl_cons]
  refine (GuideEvent.foldl_merge_fragments announced _).trans ?_
  simp only [GuideEvent.merge, GuideEvent.mergeShortEvent, GuideEvent.announce, GuideEvent.blank,
    kept, assembled]
  rfl

end Broadcast

/-- A section that is split off the buffer, read and accepted leaves all its programmes behind those
that the guide has held before, with all that the plan says of them. -/
theorem Guide.receiveAll_broadcast (guide : Guide) (unlimited : guide.limits = .unlimited)
    (sent : Broadcast) (cls : TableClass)
    (known : TableClass.ofTableId? sent.header.tableId = some cls)
    (absent : ∀ event ∈ guide.events, event.key ∉ sent.programmes.map sent.key)
    (ordered : (guide.states.get cls).keepsOrder cls sent.header sent.table)
    (fresh : ¬(guide.states.get cls).isDuplicate sent.header.version) (count : Nat) :
    let outcome := guide.receiveAll
      (Section.split (sent.octets ++ List.replicate count Section.stuffing))
    outcome.2 = [.ok ()] ∧
    outcome.1.events = guide.events ++ sent.programmes.map (sent.event cls) ∧
    ∀ programme : Programme,
      (sent.event cls programme).longText =
        ⟨programme.passages.flatMap fun passage => passage.text.octets⟩ ∧
      (sent.event cls programme).items = programme.passages.flatMap Passage.items ∧
      (sent.event cls programme).lastFragment? =
        programme.passages.getLast?.map fun _ => UInt8.ofNat (programme.passages.length - 1) := by
  intro outcome
  have identified : identify sent.octets = .ok (cls, sent.received) :=
    identify_of_read known sent.read_octets
  have verdict : (guide.receive sent.octets).2 = .ok () := by
    rcases (guide.states.get cls).review_cases cls sent.header sent.table with
      ⟨unordered, _⟩ | ⟨_, duplicate, _⟩ | ⟨_, _, reviewed⟩
    · exact absurd ordered unordered
    · exact absurd duplicate fresh
    · rw [receive_of_ok identified]
      exact congrArg Prod.snd reviewed
  have brought : guide.deliveries sent.octets =
      sent.programmes.map fun programme => ⟨cls, sent.received, programme.record⟩ := by
    simp only [deliveries, identified, verdict]
    exact List.map_map
  have keys : (guide.deliveries sent.octets).map Delivery.key = sent.programmes.map sent.key := by
    rw [brought, List.map_map]
    rfl
  have events : (guide.receive sent.octets).1.events =
      guide.events ++ sent.programmes.map (sent.event cls) := by
    have distinct := sent.nodup_keys
    rw [← keys] at distinct absent
    rw [receive_events, unlimited, Delivery.foldl_enter_absent .unlimited distinct absent, brought,
      List.map_map]
    exact congrArg (guide.events ++ ·) (List.map_congr_left fun programme _ =>
      sent.applyTo_blank cls programme)
  have single : outcome = ((guide.receive sent.octets).1, [(guide.receive sent.octets).2]) := by
    simp only [outcome, sent.split_octets known, receiveAll]
  rw [single, verdict]
  refine ⟨rfl, events, fun programme => ?_⟩
  rcases List.eq_nil_or_concat programme.passages with none | ⟨earlier, last, several⟩
  · simp [Broadcast.event, Passage.assembled, GuideEvent.longText, GuideEvent.items,
      GuideEvent.lastFragment?, none, Text.empty]
  · simp [Broadcast.event, Passage.assembled, GuideEvent.longText, GuideEvent.items,
      GuideEvent.lastFragment?, several]

/-- A programme with its long text in two passages, the first of them with an item, and one
without a long text. -/
def twoProgrammes : Broadcast where
  header := ⟨0x4E, true, 0x54, 0x10, 7, true, 0, 0⟩
  spare := fun _ => 3
  table := ⟨1, 2, 0, 0x4E⟩
  programmes := [
    { eventId := 1
      start := ⟨0xC079, 0x01, 0x45, 0x30⟩
      duration := ⟨0x00, 0x30, 0x00⟩
      statusCode := 4
      scrambled := false
      outline := ⟨⟨0x65, 0x6E, 0x67⟩, ⟨[0x4E, 0x65, 0x77, 0x73]⟩, ⟨[]⟩⟩
      passages := [
        ⟨⟨0x65, 0x6E, 0x67⟩, [⟨⟨[0x43]⟩, ⟨[0x44]⟩⟩], ⟨[0x41]⟩, by decide⟩,
        ⟨⟨0x65, 0x6E, 0x67⟩, [], ⟨[0x42]⟩, by decide⟩]
      narrow := (by decide : 4 < 8)
      short := by decide
      few := by decide },
    { eventId := 2
      start := ⟨0xC079, 0x02, 0x15, 0x30⟩
      duration := ⟨0x01, 0x00, 0x00⟩
      statusCode := 1
      scrambled := true
      outline := ⟨⟨0x66, 0x72, 0x65⟩, ⟨[0x46, 0x69, 0x6C, 0x6D]⟩, ⟨[0x31]⟩⟩
      passages := []
      narrow := by decide
      short := by decide
      few := by decide }]
  checksum := 0xDEADBEEF
  version := by decide
  declared := by decide
  short := by decide
  distinct := by decide

theorem Guide.receiveAll_broadcast_twoProgrammes :
    let guide := ((empty .unlimited).receive EventSection.clampedEvents).1
    let outcome := guide.receiveAll
      (Section.split (twoProgrammes.octets ++ List.replicate 5 Section.stuffing))
    (∀ event ∈ guide.events, event.key ∉ twoProgrammes.programmes.map twoProgrammes.key) ∧
    (guide.states.get .actualPresentFollowing).lastVersion = some 1 ∧
    outcome.2 = [.ok ()] ∧
    outcome.1.events.map (fun event =>
        (event.key.eventId, event.name.octets, event.longText.octets, event.lastFragment?)) = [
      (0x1234, [], [], none),
      (0x1235, [], [], none),
      (1, [0x4E, 0x65, 0x77, 0x73], [0x41, 0x42], some 1),
      (2, [0x46, 0x69, 0x6C, 0x6D], [], none)] := by
  intro guide outcome
  have absent : ∀ event ∈ guide.events,
      event.key ∉ twoProgrammes.programmes.map twoProgrammes.key := by decide +kernel
  have version : (guide.states.get .actualPresentFollowing).lastVersion = some 1 := by
    decide +kernel
  have held : guide.events.map (fun event =>
      (event.key.eventId, event.name.octets, event.longText.octets, event.lastFragment?)) =
        [(0x1234, [], [], none), (0x1235, [], [], none)] := by
    decide +kernel
  obtain ⟨verdicts, events, _⟩ := guide.receiveAll_broadcast rfl twoProgrammes
    .actualPresentFollowing rfl absent (by decide +kernel) (by decide +kernel) 5
  refine ⟨absent, version, verdicts, ?_⟩
  have taken : outcome.1.events = _ := events
  rw [taken, List.map_append, held]
  rfl

end ProgrammeGuide
