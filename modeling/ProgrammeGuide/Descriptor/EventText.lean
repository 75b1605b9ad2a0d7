import ProgrammeGuide.Descriptor.Block

/-!
Descriptors that tell about an event in words. Short event descriptors give its name and a short
text, in one language. Extended event descriptors carry one fragment of a long description each: a
list of described items and a piece of text.
-/

namespace ProgrammeGuide

structure ShortEvent where
  language : LetterCode
  name : Text
  text : Text
  deriving DecidableEq, Repr

def ShortEvent.reader : Reader ShortEvent := do
  let language ← LetterCode.reader
  let name ← Reader.counted
  let text ← Reader.counted
  pure { language, name := ⟨name⟩, text := ⟨text⟩ }

instance : DescriptorBody ShortEvent where
  tag := 0x4D
  read := ShortEvent.reader.parse

structure EventItem where
  description : Text
  content : Text
  deriving DecidableEq, Repr

namespace EventItem

def reader : Reader EventItem := do
  let description ← Reader.counted
  let content ← Reader.counted
  pure { description := ⟨description⟩, content := ⟨content⟩ }

theorem reader_progresses : reader.Progresses := Reader.counted_progresses.bind _

/-- The items of an area, up to the first that does not fit into it. -/
def ofArea (area : Octets) : List EventItem :=
  (Reader.repeated reader reader_progresses area).1

end EventItem

structure ExtendedEvent where
  number : UInt8
  lastNumber : UInt8
  language : LetterCode
  items : List EventItem
  text : Text
  deriving DecidableEq, Repr

/-- An item area that is said to be longer than the body takes the whole rest of the body. -/
def ExtendedEvent.reader : Reader ExtendedEvent := do
  let numbers ← Reader.octet
  let language ← LetterCode.reader
  let areaLength ← Reader.octet
  let area ← Reader.takeUpTo areaLength.toNat
  let text ← Reader.counted
  pure {
    language
    number := bits 4 4 numbers
    lastNumber := bits 0 4 numbers
    items := EventItem.ofArea area
    text := ⟨text⟩ }

instance : DescriptorBody ExtendedEvent where
  tag := 0x4E
  read := ExtendedEvent.reader.parse

end ProgrammeGuide
