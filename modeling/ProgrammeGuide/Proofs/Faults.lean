import Mathlib.Data.List.Forall2
import ProgrammeGuide.Proofs.Descriptors
import ProgrammeGuide.Proofs.SentSections
import ProgrammeGuide.Proofs.Verdicts

/-!
Descriptors that a guide has no use for: those that cannot be read, those with a tag that is not
registered, and those that say nothing about an event. A section without them does to a guide what
the section with them does, wherever they stand and however many there are.
-/

namespace ProgrammeGuide

/-- Stuffing, service, linkage, telephone, multilingual component, private data specifier and data
broadcast. -/
def discardedTags : List UInt8 := [0x42, 0x48, 0x4A, 0x57, 0x5E, 0x5F, 0x64]

namespace RawDescriptor

def Dispensable (raw : RawDescriptor) : Prop :=
  (∃ cause, Descriptor.read raw = .error cause) ∨ Descriptor.bodyReader? raw.tag = none ∨
    raw.tag ∈ discardedTags

/-- The second list is the first one without some of its dispensable descriptors. -/
inductive Thinned : List RawDescriptor → List RawDescriptor → Prop
  | done : Thinned [] []
  | keep (raw : RawDescriptor) {full thin : List RawDescriptor} (others : Thinned full thin) :
      Thinned (raw :: full) (raw :: thin)
  | drop {raw : RawDescriptor} {full thin : List RawDescriptor} (dispensable : raw.Dispensable)
      (others : Thinned full thin) : Thinned (raw :: full) thin

end RawDescriptor

namespace GuideEvent

/-- The event after a descriptor as it was sent. -/
def mergeRaw (limits : Limits) (event : GuideEvent) (raw : RawDescriptor) : GuideEvent :=
  match Descriptor.read raw with
  | .ok descriptor => event.merge limits descriptor
  | .error _ => event

theorem update_eq_foldl_mergeRaw (limits : Limits) (source : TableVersion) (record : EventRecord)
    (event : GuideEvent) : event.update limits source record =
      record.descriptors.raw.foldl (mergeRaw limits) (event.announce source record.airing) := by
  rw [update, DescriptorBlock.readable, DescriptorBlock.parsed, List.foldl_filterMap,
    List.foldl_map]
  congr 1
  funext event raw
  rw [mergeRaw]
  cases Descriptor.read raw <;> rfl

theorem merge_of_discarded (limits : Limits) (event : GuideEvent) {descriptor : Descriptor}
    (discarded : descriptor.tag ∈ discardedTags) : event.merge limits descriptor = event := by
  cases descriptor with
  | stuffing | service | linkage | telephone | multilingualComponent | privateDataSpecifier
  | dataBroadcast | unsupported => rfl
  | _ => simp [Descriptor.tag, discardedTags] at discarded

theorem mergeRaw_of_dispensable (limits : Limits) (event : GuideEvent) {raw : RawDescriptor}
    (dispensable : raw.Dispensable) : event.mergeRaw limits raw = event := by
  rcases dispensable with ⟨cause, failed⟩ | unregistered | discarded
  · rw [mergeRaw, failed]
  · rw [mergeRaw, Descriptor.read, unregistered]
    rfl
  · rw [mergeRaw]
    cases ran : Descriptor.read raw with
    | error cause => rfl
    | ok descriptor =>
        rw [← Descriptor.tag_of_read ran] at discarded
        exact merge_of_discarded limits event discarded

theorem foldl_mergeRaw_of_thinned (limits : Limits) {full thin : List RawDescriptor}
    (thinned : RawDescriptor.Thinned full thin) (event : GuideEvent) :
    full.foldl (mergeRaw limits) event = thin.foldl (mergeRaw limits) event := by
  induction thinned generalizing event with
  | done => rfl
  | keep raw others ih => exact ih (event.mergeRaw limits raw)
  | drop dispensable others ih =>
      rw [List.foldl_cons, mergeRaw_of_dispensable limits event dispensable, ih]

end GuideEvent

/-- The incomplete descriptor at the end is dispensable as well. -/
structure SentBlock.Thins (full thin : SentBlock) : Prop where
  descriptors : RawDescriptor.Thinned full.descriptors thin.descriptors
  remnant : thin.remnant = full.remnant ∨ thin.remnant = []

/-- The same event with a part of its descriptors and with the length of these. -/
structure SentEvent.Thins (full thin : SentEvent) : Prop where
  head : thin.head = { full.head with length := thin.head.length }
  block : full.block.Thins thin.block

/-- The same section with a part of the descriptors of its events. Its own length, its checksum
and the bits that have no meaning may be any. -/
structure SentSection.Thins (full thin : SentSection) : Prop where
  header : thin.header = { full.header with length := thin.header.length }
  table : thin.table = full.table
  events : List.Forall₂ SentEvent.Thins full.events thin.events

theorem SentEvent.Thins.update_eq {full thin : SentEvent} (thins : full.Thins thin)
    (limits : Limits) (source : TableVersion) :
    GuideEvent.update limits source full.record = GuideEvent.update limits source thin.record := by
  have airing : thin.head.airing = full.head.airing := by
    rw [thins.head]
    rfl
  funext event
  simp only [GuideEvent.update_eq_foldl_mergeRaw, record, EventHead.record, SentBlock.raw_octets,
    airing]
  exact GuideEvent.foldl_mergeRaw_of_thinned limits thins.block.descriptors _

namespace SentSection

variable {full thin : SentSection}

theorem Thins.addRecord_eq (thins : full.Thins thin) (limits : Limits) (cls : TableClass)
    {fullEvent thinEvent : SentEvent} (thinned : fullEvent.Thins thinEvent)
    (events : List GuideEvent) :
    Guide.addRecord limits cls full.received events fullEvent.record =
      Guide.addRecord limits cls thin.received events thinEvent.record := by
  have eventId : thinEvent.record.eventId = fullEvent.record.eventId := by
    change thinEvent.head.eventId = fullEvent.head.eventId
    rw [thinned.head]
  have table : thin.received.table = full.received.table := thins.table
  have header : thin.received.header =
      { full.received.header with length := thin.header.length } := thins.header
  simp only [Guide.addRecord, eventId, table, header, thinned.update_eq]

theorem Thins.foldl_addRecord_eq (thins : full.Thins thin) (limits : Limits) (cls : TableClass)
    {fullEvents thinEvents : List SentEvent}
    (paired : List.Forall₂ SentEvent.Thins fullEvents thinEvents) (events : List GuideEvent) :
    (fullEvents.map SentEvent.record).foldl (Guide.addRecord limits cls full.received) events =
      (thinEvents.map SentEvent.record).foldl (Guide.addRecord limits cls thin.received)
        events := by
  induction paired generalizing events with
  | nil => rfl
  | cons thinned others ih =>
      rw [List.map_cons, List.map_cons, List.foldl_cons, List.foldl_cons,
        thins.addRecord_eq limits cls thinned, ih]

end SentSection

namespace Guide

theorem identify_sent (sent : SentSection) : identify sent.octets =
    match TableClass.ofTableId? sent.header.tableId with
    | none => .error (.unknownTable sent.header.tableId)
    | some cls => .ok (cls, sent.received) := by
  cases known : TableClass.ofTableId? sent.header.tableId with
  | none => exact identify_of_unknown known
  | some cls => exact identify_of_read known sent.read_octets

/-- A guide is left the same, and gives the same verdict, whether or not dispensable descriptors are
sent along. -/
theorem receive_thinned (guide : Guide) {full thin : SentSection}
    (thins : full.Thins thin) : guide.receive full.octets = guide.receive thin.octets := by
  have header : thin.received.header =
      { full.received.header with length := thin.header.length } := thins.header
  have table : thin.received.table = full.received.table := thins.table
  have tableId : thin.header.tableId = full.header.tableId := by rw [thins.header]
  have identified := identify_sent full
  have identifiedThin := identify_sent thin
  rw [tableId] at identifiedThin
  cases known : TableClass.ofTableId? full.header.tableId with
  | none =>
      rw [known] at identified identifiedThin
      rw [receive_of_error identified, receive_of_error identifiedThin]
  | some cls =>
      rw [known] at identified identifiedThin
      have events : full.received.events.foldl (addRecord guide.limits cls full.received)
          guide.events = thin.received.events.foldl (addRecord guide.limits cls thin.received)
          guide.events := thins.foldl_addRecord_eq guide.limits cls thins.events guide.events
      rw [receive_of_ok identified, receive_of_ok identifiedThin, events, header, table]
      -- The length of the section is not among what is reviewed.
      rfl

/-- Event 1 of service 16, with the given descriptors. -/
def loneEvent (block : SentBlock) (short : block.octets.length < 4069) : SentSection :=
  have eventLength : (UInt16.ofNat block.octets.length).toNat = block.octets.length := by
    rw [UInt16.toNat_ofNat']
    omega
  have eventFits : (UInt16.ofNat block.octets.length).toNat < 4096 := by
    rw [eventLength]
    omega
  have sectionLength : (UInt16.ofNat (27 + block.octets.length)).toNat < 4096 := by
    rw [UInt16.toNat_ofNat']
    omega
  { header := ⟨0x4E, true, UInt16.ofNat (27 + block.octets.length), 0x10, 0, true, 0, 0⟩
    spare := fun _ => 0
    table := ⟨1, 2, 0, 0x4E⟩
    events := [{
      block
      head := ⟨1, ⟨0xC079, 0x01, 0x45, 0x30⟩, ⟨0x00, 0x30, 0x00⟩, 4, false,
        UInt16.ofNat block.octets.length⟩
      fits := ⟨(by decide : (4 : UInt8).toNat < 8), eventFits⟩
      declared := eventLength }]
    checksum := 0
    fits := ⟨sectionLength, (by decide : (0 : UInt8).toNat < 32)⟩ }

/-- A rating of one octet, a name, stuffing, a tag that is not registered, a genre, one text in
several languages and the beginning of another genre. -/
def faultyBlock : SentBlock where
  descriptors := [⟨0x55, [0x47]⟩, ⟨0x4D, [0x65, 0x6E, 0x67, 0x02, 0x41, 0x42, 0x00]⟩,
    ⟨0x42, [0xFF]⟩, ⟨0x80, [0x01, 0x02]⟩, ⟨0x54, [0x10, 0x00]⟩, ⟨0x5E, [0x01]⟩]
  remnant := [0x54, 0x02, 0x10]
  short := by decide
  incomplete := Nat.lt_succ_self 1

/-- The name and the genre. -/
def soundBlock : SentBlock where
  descriptors := [⟨0x4D, [0x65, 0x6E, 0x67, 0x02, 0x41, 0x42, 0x00]⟩, ⟨0x54, [0x10, 0x00]⟩]
  remnant := []
  short := by decide
  incomplete := trivial

theorem receive_thinned_loneEvent :
    let full := loneEvent faultyBlock (by decide)
    let thin := loneEvent soundBlock (by decide)
    full.Thins thin ∧ full.octets.length = 59 ∧ thin.octets.length = 43 ∧
      (empty .unlimited).receive full.octets = (empty .unlimited).receive thin.octets ∧
      ((empty .unlimited).receive full.octets).2 = .ok () ∧
      ((empty .unlimited).receive full.octets).1.events.map GuideEvent.name = [⟨[0x41, 0x42]⟩] := by
  intro full thin
  have thinned : RawDescriptor.Thinned faultyBlock.descriptors soundBlock.descriptors :=
    .drop (Or.inl ⟨.malformedLength, rfl⟩) <| .keep _ <| .drop (Or.inr (Or.inr (by decide))) <|
      .drop (Or.inr (Or.inl rfl)) <| .keep _ <| .drop (Or.inr (Or.inr (by decide))) .done
  have thins : full.Thins thin := ⟨rfl, rfl, .cons ⟨rfl, thinned, Or.inr rfl⟩ .nil⟩
  refine ⟨thins, by decide, by decide, receive_thinned _ thins, rfl, ?_⟩
  decide +kernel

end Guide

end ProgrammeGuide
