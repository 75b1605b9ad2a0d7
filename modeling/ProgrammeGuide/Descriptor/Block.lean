import ProgrammeGuide.Text

/-!
Blocks of descriptors, each a tag and a body of at most 255 octets. A block is read up to the
first descriptor that does not fit into it.
-/

namespace ProgrammeGuide

structure DescriptorHeader where
  tag : UInt8
  length : UInt8
  deriving DecidableEq, Repr

def DescriptorHeader.reader : Reader DescriptorHeader := do
  let tag ← Reader.octet
  let length ← Reader.octet
  pure { tag, length }

structure RawDescriptor where
  tag : UInt8
  body : Octets
  deriving DecidableEq, Repr

namespace RawDescriptor

def reader : Reader RawDescriptor := do
  let tag ← Reader.octet
  let body ← Reader.counted
  pure { tag, body }

theorem reader_progresses : reader.Progresses := Reader.octet_progresses.bind _

def octetsText (octets : Octets) : String :=
  "\"" ++ " ".intercalate (octets.map fun octet => Numeral.upperHex 2 octet.toNat) ++ "\""

def text (raw : RawDescriptor) : String :=
  "RawDescriptor \x7b tag: 0x" ++ Numeral.upperHex 1 raw.tag.toNat ++ ", data: " ++
    octetsText raw.body ++ " \x7d"

end RawDescriptor

structure DescriptorBlock where
  octets : Octets
  deriving DecidableEq, Repr

namespace DescriptorBlock

/-- The first descriptor and the block behind it; none where no descriptor can be read. -/
def next? (block : DescriptorBlock) : Option (RawDescriptor × DescriptorBlock) :=
  match RawDescriptor.reader.run block.octets with
  | .ok (raw, rest) => some (raw, ⟨rest⟩)
  | .error _ => none

def raw (block : DescriptorBlock) : List RawDescriptor :=
  (Reader.repeated RawDescriptor.reader RawDescriptor.reader_progresses block.octets).1

/-- What cannot be read as a descriptor any more; empty when the block is sound. -/
def rest (block : DescriptorBlock) : Octets :=
  (Reader.repeated RawDescriptor.reader RawDescriptor.reader_progresses block.octets).2

/-- The descriptors in brackets, under the given name. -/
def listing (name : String) (block : DescriptorBlock) : String :=
  name ++ "([" ++ ", ".intercalate (block.raw.map RawDescriptor.text) ++ "])"

def text (block : DescriptorBlock) : String := block.listing "DescriptorBlock"

/-- The text of a block that is being walked through, with the descriptors still to come. -/
def pendingText (block : DescriptorBlock) : String := block.listing "DescriptorIter"

end DescriptorBlock

/-- What every kind of descriptor has: a tag of its own and a way to read its body. -/
class DescriptorBody (α : Type) where
  tag : UInt8
  /-- Reads a body, the tag and the length not included. -/
  read : Octets → Except ReadError α

end ProgrammeGuide
