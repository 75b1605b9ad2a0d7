import ProgrammeGuide.Descriptor.Block

/-!
Descriptors that name a service or point elsewhere. Service descriptors name a service and its
provider; time-shifted event descriptors refer to the event of which this one is a later showing.
Linkage descriptors point to a service that goes with this one. Depending on the type of the
link they also say how a mobile receiver is handed over, or which events are linked.
-/

namespace ProgrammeGuide

structure Service where
  serviceType : UInt8
  provider : Text
  name : Text
  deriving DecidableEq, Repr

def Service.reader : Reader Service := do
  let serviceType ← Reader.octet
  let provider ← Reader.counted
  let name ← Reader.counted
  pure { serviceType, provider := ⟨provider⟩, name := ⟨name⟩ }

instance : DescriptorBody Service where
  tag := 0x48
  read := Service.reader.parse

structure TimeShiftedEvent where
  serviceId : UInt16
  eventId : UInt16
  deriving DecidableEq, Repr

def TimeShiftedEvent.reader : Reader TimeShiftedEvent := do
  let serviceId ← Reader.word16
  let eventId ← Reader.word16
  pure { serviceId, eventId }

instance : DescriptorBody TimeShiftedEvent where
  tag := 0x4F
  read := TimeShiftedEvent.reader.parse

inductive HandOver
  | identical (networkId : UInt16)
  | localVariation (networkId : UInt16)
  | associated (networkId : UInt16)
  | reserved (code : UInt8)
  deriving DecidableEq, Repr

structure MobileHandOver where
  handOver : HandOver
  /-- Present when the link comes from a service table, absent from a network table. -/
  initialServiceId : Option UInt16
  deriving DecidableEq, Repr

structure EventLink where
  eventId : UInt16
  /-- Whether the event is in an event table. -/
  listed : Bool
  simulcast : Bool
  deriving DecidableEq, Repr

inductive LinkTarget
  | service (idType : UInt8) (id : UInt16) (networkId serviceId : Option UInt16)
  | userDefined (id : UInt16)
  deriving DecidableEq, Repr

structure ExtendedEventLink where
  event : EventLink
  linkType : UInt8
  target : LinkTarget
  deriving DecidableEq, Repr

inductive LinkDetail
  | mobileHandOver (detail : MobileHandOver)
  | event (link : EventLink)
  | extendedEvents (links : List ExtendedEventLink)
  | other
  deriving DecidableEq, Repr

structure Linkage where
  transportStreamId : UInt16
  networkId : UInt16
  serviceId : UInt16
  linkageType : UInt8
  detail : LinkDetail
  privateData : Octets
  deriving DecidableEq, Repr

def HandOver.reader (code : UInt8) : Reader HandOver :=
  if code = 1 then identical <$> Reader.word16
  else if code = 2 then localVariation <$> Reader.word16
  else if code = 3 then associated <$> Reader.word16
  else pure (reserved code)

def MobileHandOver.reader : Reader MobileHandOver := do
  let codes ← Reader.octet
  let handOver ← HandOver.reader (bits 4 4 codes)
  let initialServiceId ← Reader.onlyIf (!flag 0 codes) Reader.word16
  pure { handOver, initialServiceId }

def EventLink.reader : Reader EventLink := do
  let eventId ← Reader.word16
  let flags ← Reader.octet
  pure { eventId, listed := flag 7 flags, simulcast := flag 6 flags }

/-- Type 3 is the user's own id, and its presence flags mean nothing. -/
def LinkTarget.reader (flags : UInt8) : Reader LinkTarget := do
  let id ← Reader.word16
  if bits 2 2 flags = 3 then pure (userDefined id) else do
    let networkId ← Reader.onlyIf (flag 1 flags) Reader.word16
    let serviceId ← Reader.onlyIf (flag 0 flags) Reader.word16
    pure (service (bits 2 2 flags) id networkId serviceId)

namespace ExtendedEventLink

def reader : Reader ExtendedEventLink := do
  let eventId ← Reader.word16
  let flags ← Reader.octet
  let target ← LinkTarget.reader flags
  pure {
    target
    event := { eventId, listed := flag 7 flags, simulcast := flag 6 flags }
    linkType := bits 4 2 flags }

theorem reader_progresses : reader.Progresses := Reader.word16_progresses.bind _

/-- The links of a loop, up to the first that does not fit into it. -/
def ofArea (area : Octets) : List ExtendedEventLink :=
  (Reader.repeated reader reader_progresses area).1

end ExtendedEventLink

namespace Linkage

def isExtendedEvent (linkageType : UInt8) : Bool :=
  0x0E ≤ linkageType && linkageType ≤ 0x1F

/-- A loop of links that is said to be longer than the body ends with the body. -/
def detailReader (linkageType : UInt8) : Reader LinkDetail :=
  if linkageType = 0x08 then .mobileHandOver <$> MobileHandOver.reader
  else if linkageType = 0x0D then .event <$> EventLink.reader
  else if isExtendedEvent linkageType then do
    let areaLength ← Reader.octet
    let area ← Reader.takeUpTo areaLength.toNat
    pure (.extendedEvents (ExtendedEventLink.ofArea area))
  else pure .other

theorem isExtendedEvent_iff {linkageType : UInt8} :
    isExtendedEvent linkageType = true ↔ 0x0E ≤ linkageType ∧ linkageType ≤ 0x1F := by
  simp only [isExtendedEvent, Bool.and_eq_true, decide_eq_true_eq]

theorem detailReader_of_extended {linkageType : UInt8}
    (extended : 0x0E ≤ linkageType ∧ linkageType ≤ 0x1F) :
    detailReader linkageType = (do
      let areaLength ← Reader.octet
      let area ← Reader.takeUpTo areaLength.toNat
      pure (.extendedEvents (ExtendedEventLink.ofArea area))) := by
  have notHandOver : linkageType ≠ 0x08 := by
    rintro rfl
    exact absurd extended.1 (by decide)
  have notEvent : linkageType ≠ 0x0D := by
    rintro rfl
    exact absurd extended.1 (by decide)
  rw [detailReader, if_neg notHandOver, if_neg notEvent, if_pos (isExtendedEvent_iff.mpr extended)]

theorem detailReader_of_other {linkageType : UInt8} (notHandOver : linkageType ≠ 0x08)
    (notEvent : linkageType ≠ 0x0D) (outside : ¬(0x0E ≤ linkageType ∧ linkageType ≤ 0x1F)) :
    detailReader linkageType = pure .other := by
  rw [detailReader, if_neg notHandOver, if_neg notEvent,
    if_neg (mt isExtendedEvent_iff.mp outside)]

def reader : Reader Linkage := do
  let transportStreamId ← Reader.word16
  let networkId ← Reader.word16
  let serviceId ← Reader.word16
  let linkageType ← Reader.octet
  let detail ← detailReader linkageType
  let privateData ← Reader.takeRest
  pure { transportStreamId, networkId, serviceId, linkageType, detail, privateData }

end Linkage

instance : DescriptorBody Linkage where
  tag := 0x4A
  read := Linkage.reader.parse

end ProgrammeGuide
