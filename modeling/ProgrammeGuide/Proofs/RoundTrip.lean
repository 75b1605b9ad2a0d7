import ProgrammeGuide.Proofs.Blocks
import ProgrammeGuide.Proofs.LinkLayouts

/-!
Descriptors of all kinds as they are sent. A block of them is read back descriptor by descriptor, in
the order in which they were sent, and nothing is left of what the layouts leave to the sender.
-/

namespace ProgrammeGuide

/-- What the layout of a descriptor leaves to the sender: the bits without a meaning, and the octets
after the last field where the kind of descriptor has no field for the rest of its body. -/
structure Filling where
  spare : Spare
  padding : Octets

namespace Descriptor

def registeredTags : List UInt8 :=
  [0x42, 0x48, 0x4A, 0x4D, 0x4E, 0x4F, 0x50, 0x53, 0x54, 0x55, 0x57, 0x5E, 0x5F, 0x61, 0x64, 0x69]

/-- Whether the fields fit the bits that they have, and a link has the detail of its type. -/
def Fits : Descriptor → Prop
  | stuffing _ | service _ | shortEvent _ | timeShiftedEvent _ | conditionalAccess _
  | parentalRating _ | multilingualComponent _ | privateDataSpecifier _ | dataBroadcast _ => True
  | linkage body => body.Fits
  | extendedEvent body => body.Fits
  | component body => body.Fits
  | content body => ∀ genre ∈ body.genres, genre.Fits
  | telephone body => body.Fits
  | shortSmoothingBuffer body => body.buffer.Fits
  | deliveryControl body => body.Fits
  | unsupported tag => tag ∉ registeredTags

def sent (filling : Filling) : Descriptor → RawDescriptor
  | stuffing body => ⟨0x42, body.octets⟩
  | service body => ⟨0x48, body.layout ++ filling.padding⟩
  | linkage body => ⟨0x4A, body.layout filling.spare⟩
  | shortEvent body => ⟨0x4D, body.layout ++ filling.padding⟩
  | extendedEvent body => ⟨0x4E, body.layout ++ filling.padding⟩
  | timeShiftedEvent body => ⟨0x4F, body.layout ++ filling.padding⟩
  | component body => ⟨0x50, body.layout⟩
  | conditionalAccess body => ⟨0x53, body.layout⟩
  | content body => ⟨0x54, body.layout⟩
  | parentalRating body => ⟨0x55, body.layout⟩
  | telephone body => ⟨0x57, body.layout filling.spare ++ filling.padding⟩
  | multilingualComponent body => ⟨0x5E, body.layout⟩
  | privateDataSpecifier body => ⟨0x5F, body.layout ++ filling.padding⟩
  | shortSmoothingBuffer body => ⟨0x61, body.layout⟩
  | dataBroadcast body => ⟨0x64, body.layout ++ filling.padding⟩
  | deliveryControl body => ⟨0x69, body.layout filling.spare ++ filling.padding⟩
  -- Nothing of such a body is kept, so all of it is padding.
  | unsupported tag => ⟨tag, filling.padding⟩

theorem bodyReader?_eq_none_iff {tag : UInt8} : bodyReader? tag = none ↔ tag ∉ registeredTags := by
  have tags : registry.map Prod.fst = registeredTags := rfl
  rw [bodyReader?, List.lookup_eq_none_iff, ← tags, List.mem_map]
  simp only [bne_iff_ne]
  constructor
  · rintro other ⟨entry, member, rfl⟩
    exact other entry member rfl
  · rintro unregistered entry member rfl
    exact unregistered ⟨entry, member, rfl⟩

theorem read_of_listed {α : Type} [DescriptorBody α] (wrap : α → Descriptor) {tag : UInt8}
    {octets : Octets} {body : α} (listed : bodyReader? tag = some (entry tag wrap).2)
    (ran : DescriptorBody.read octets = .ok body) : read ⟨tag, octets⟩ = .ok (wrap body) := by
  simp only [read, listed, entry, ran]
  rfl

theorem read_sent (filling : Filling) {descriptor : Descriptor} (fits : descriptor.Fits)
    (short : (descriptor.sent filling).body.length < 256) :
    read (descriptor.sent filling) = .ok descriptor := by
  have own {front padding : Octets} (short : (front ++ padding).length < 256) :
      front.length < 256 := by
    rw [List.length_append] at short
    omega
  cases descriptor with
  | stuffing body => exact read_of_listed stuffing rfl rfl
  | service body =>
      have reads := Service.reads_layout (own short)
      exact read_of_listed service rfl (reads.parse filling.padding)
  | linkage body =>
      have fills := Linkage.fills_layout filling.spare fits short
      exact read_of_listed linkage rfl fills.parse
  | shortEvent body =>
      have reads := ShortEvent.reads_layout (own short)
      exact read_of_listed shortEvent rfl (reads.parse filling.padding)
  | extendedEvent body =>
      have reads := ExtendedEvent.reads_layout fits (own short)
      exact read_of_listed extendedEvent rfl (reads.parse filling.padding)
  | timeShiftedEvent body =>
      exact read_of_listed timeShiftedEvent rfl (body.reads_layout.parse filling.padding)
  | component body => exact read_of_listed component rfl (Component.fills_layout fits).parse
  | conditionalAccess body => exact read_of_listed conditionalAccess rfl body.read_layout
  | content body => exact read_of_listed content rfl (Content.read_layout fits)
  | parentalRating body => exact read_of_listed parentalRating rfl body.read_layout
  | telephone body =>
      have reads := Telephone.reads_layout filling.spare fits
      exact read_of_listed telephone rfl (reads.parse filling.padding)
  | multilingualComponent body =>
      have fills := MultilingualComponent.fills_layout short
      exact read_of_listed multilingualComponent rfl fills.parse
  | privateDataSpecifier body =>
      exact read_of_listed privateDataSpecifier rfl (body.reads_layout.parse filling.padding)
  | shortSmoothingBuffer body =>
      have fills := ShortSmoothingBuffer.fills_layout fits
      exact read_of_listed shortSmoothingBuffer rfl fills.parse
  | dataBroadcast body =>
      have reads := DataBroadcast.reads_layout (own short)
      exact read_of_listed dataBroadcast rfl (reads.parse filling.padding)
  | deliveryControl body =>
      have reads := DeliveryControl.reads_layout filling.spare fits
      exact read_of_listed deliveryControl rfl (reads.parse filling.padding)
  | unsupported tag => rw [sent, read, bodyReader?_eq_none_iff.mpr fits]

end Descriptor

/-- A descriptor that fits its layout and is not longer than a descriptor may be. -/
structure SentDescriptor where
  descriptor : Descriptor
  filling : Filling
  fits : descriptor.Fits
  short : (descriptor.sent filling).body.length ≤ 255

namespace SentDescriptor

def raw (entry : SentDescriptor) : RawDescriptor := entry.descriptor.sent entry.filling

def octets (entry : SentDescriptor) : Octets := entry.raw.octets

theorem read_raw (entry : SentDescriptor) : Descriptor.read entry.raw = .ok entry.descriptor :=
  Descriptor.read_sent entry.filling entry.fits (Nat.lt_succ_of_le entry.short)

end SentDescriptor

/-- A block of descriptors is read back as it was sent, whatever the sender has filled in. -/
theorem DescriptorBlock.parsed_sent (entries : List SentDescriptor) :
    (DescriptorBlock.mk (entries.flatMap SentDescriptor.octets)).parsed =
      entries.map fun entry => .ok entry.descriptor := by
  have raw : (DescriptorBlock.mk (entries.flatMap SentDescriptor.octets)).raw =
      entries.map SentDescriptor.raw :=
    raw_flatMap fun entry _ => Nat.lt_succ_of_le entry.short
  rw [parsed, raw, List.map_map]
  exact List.map_congr_left fun entry _ => entry.read_raw

/-- A telephone number, links to two events, an item of a long description and a descriptor of no
registered kind. -/
def assorted : List SentDescriptor := [
  { descriptor := .telephone ⟨true, 5, ⟨[0x38, 0x31]⟩, ⟨[]⟩, ⟨[]⟩, ⟨[0x33]⟩, ⟨[0x31, 0x32]⟩⟩
    filling := ⟨fun _ => 1, [0xAA]⟩
    fits := Telephone.Fits.mk (by decide) (by decide) (by decide) (by decide) (by decide)
      (by decide)
    short := by decide },
  { descriptor := .linkage ⟨1, 2, 3, 0x0E, .extendedEvents [
      ⟨⟨4, true, false⟩, 2, .service 1 5 none (some 6)⟩, ⟨⟨7, false, true⟩, 0, .userDefined 8⟩],
      [0xBB]⟩
    filling := ⟨fun index => index + 1, []⟩
    fits := by
      refine ⟨by decide, ?_⟩
      intro link member
      simp only [List.mem_cons, List.not_mem_nil, or_false] at member
      rcases member with rfl | rfl
      · exact ⟨by decide, (by decide : (1 : UInt8).toNat < 3)⟩
      · exact ⟨by decide, trivial⟩
    short := by decide },
  { descriptor := .extendedEvent ⟨1, 2, ⟨0x65, 0x6E, 0x67⟩, [⟨⟨[0x41]⟩, ⟨[0x42]⟩⟩], ⟨[0x43]⟩⟩
    filling := ⟨fun _ => 0, [0xCC]⟩
    fits := ExtendedEvent.Fits.mk (by decide) (by decide)
    short := by decide },
  { descriptor := .unsupported 0x80
    filling := ⟨fun _ => 0, [0xDD]⟩
    fits := (by decide : (0x80 : UInt8) ∉ Descriptor.registeredTags)
    short := by decide }]

theorem DescriptorBlock.parsed_sent_assorted :
    (DescriptorBlock.mk [
      0x57, 0x09, 0x65, 0xC0, 0x92, 0x38, 0x31, 0x33, 0x31, 0x32, 0xAA,
      0x4A, 0x15, 0x00, 0x01, 0x00, 0x02, 0x00, 0x03, 0x0E, 0x0C,
        0x00, 0x04, 0xA5, 0x00, 0x05, 0x00, 0x06, 0x00, 0x07, 0x4E, 0x00, 0x08, 0xBB,
      0x4E, 0x0C, 0x12, 0x65, 0x6E, 0x67, 0x04, 0x01, 0x41, 0x01, 0x42, 0x01, 0x43, 0xCC,
      0x80, 0x01, 0xDD]).parsed =
      assorted.map fun entry => .ok entry.descriptor :=
  parsed_sent assorted

end ProgrammeGuide
