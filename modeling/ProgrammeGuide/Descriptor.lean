import ProgrammeGuide.Descriptor.Audience
import ProgrammeGuide.Descriptor.EventText
import ProgrammeGuide.Descriptor.Linkage
import ProgrammeGuide.Descriptor.Receiver
import ProgrammeGuide.Descriptor.Streams

/-!
Descriptors of all kinds. The kind is found by the tag; a descriptor with a tag that is not
registered is read as unsupported, and its body is not looked at.
-/

namespace ProgrammeGuide

inductive Descriptor
  | stuffing (body : Stuffing)
  | service (body : Service)
  | linkage (body : Linkage)
  | shortEvent (body : ShortEvent)
  | extendedEvent (body : ExtendedEvent)
  | timeShiftedEvent (body : TimeShiftedEvent)
  | component (body : Component)
  | conditionalAccess (body : ConditionalAccess)
  | content (body : Content)
  | parentalRating (body : ParentalRating)
  | telephone (body : Telephone)
  | multilingualComponent (body : MultilingualComponent)
  | privateDataSpecifier (body : PrivateDataSpecifier)
  | shortSmoothingBuffer (body : ShortSmoothingBuffer)
  | dataBroadcast (body : DataBroadcast)
  | deliveryControl (body : DeliveryControl)
  | unsupported (tag : UInt8)
  deriving DecidableEq, Repr

namespace Descriptor

def tag : Descriptor → UInt8
  | stuffing _ => 0x42
  | service _ => 0x48
  | linkage _ => 0x4A
  | shortEvent _ => 0x4D
  | extendedEvent _ => 0x4E
  | timeShiftedEvent _ => 0x4F
  | component _ => 0x50
  | conditionalAccess _ => 0x53
  | content _ => 0x54
  | parentalRating _ => 0x55
  | telephone _ => 0x57
  | multilingualComponent _ => 0x5E
  | privateDataSpecifier _ => 0x5F
  | shortSmoothingBuffer _ => 0x61
  | dataBroadcast _ => 0x64
  | deliveryControl _ => 0x69
  | unsupported tag => tag

abbrev BodyReader := Octets → Except ReadError Descriptor

def entry {α : Type} [DescriptorBody α] (tag : UInt8) (wrap : α → Descriptor) :
    UInt8 × BodyReader :=
  (tag, fun body => (DescriptorBody.read body).map wrap)

/-- The tags are named once more here, apart from those that the kinds carry themselves. -/
def registry : List (UInt8 × BodyReader) :=
  [entry 0x42 stuffing, entry 0x48 service, entry 0x4A linkage, entry 0x4D shortEvent,
    entry 0x4E extendedEvent, entry 0x4F timeShiftedEvent, entry 0x50 component,
    entry 0x53 conditionalAccess, entry 0x54 content, entry 0x55 parentalRating,
    entry 0x57 telephone, entry 0x5E multilingualComponent, entry 0x5F privateDataSpecifier,
    entry 0x61 shortSmoothingBuffer, entry 0x64 dataBroadcast, entry 0x69 deliveryControl]

def bodyReader? (tag : UInt8) : Option BodyReader :=
  registry.lookup tag

def read (raw : RawDescriptor) : Except ReadError Descriptor :=
  match bodyReader? raw.tag with
  | some readBody => readBody raw.body
  | none => .ok (unsupported raw.tag)

end Descriptor

namespace DescriptorBlock

/-- Every descriptor of the block, or why its body could not be read. -/
def parsed (block : DescriptorBlock) : List (Except ReadError Descriptor) :=
  block.raw.map Descriptor.read

/-- The descriptors of the block that can be read. -/
def readable (block : DescriptorBlock) : List Descriptor :=
  block.parsed.filterMap Except.toOption

/-- The first descriptor of a kind; none when there is none or its body cannot be read. -/
def first? (α : Type) [DescriptorBody α] (block : DescriptorBlock) : Option α :=
  (block.raw.find? fun raw => raw.tag = DescriptorBody.tag α).bind fun raw =>
    (DescriptorBody.read raw.body).toOption

/-- The descriptors of a kind that can be read. -/
def ofKind (α : Type) [DescriptorBody α] (block : DescriptorBlock) : List α :=
  block.raw.filterMap fun raw =>
    if raw.tag = DescriptorBody.tag α then (DescriptorBody.read raw.body).toOption else none

end DescriptorBlock

end ProgrammeGuide
