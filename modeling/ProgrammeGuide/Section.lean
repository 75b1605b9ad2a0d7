import ProgrammeGuide.Reader.Repeated

/-!
Sections of service information: the header common to all of them, the body and the checksum
that ends them, and the splitting of a buffer that holds one section after another.
-/

namespace ProgrammeGuide

structure SectionHeader where
  tableId : UInt8
  syntaxIndicator : Bool
  /-- The octets that follow the length field itself. -/
  length : UInt16
  /-- What the table is about; in an event table, the service. -/
  subjectId : UInt16
  version : UInt8
  current : Bool
  number : UInt8
  lastNumber : UInt8
  deriving DecidableEq, Repr

def SectionHeader.reader : Reader SectionHeader := do
  let tableId ← Reader.octet
  let lengthHigh ← Reader.octet
  let lengthLow ← Reader.octet
  let subjectId ← Reader.word16
  let version ← Reader.octet
  let number ← Reader.octet
  let lastNumber ← Reader.octet
  pure {
    tableId, subjectId, number, lastNumber
    syntaxIndicator := flag 7 lengthHigh
    length := length12 lengthHigh lengthLow
    version := bits 1 5 version
    current := flag 0 version }

structure Section where
  header : SectionHeader
  body : Octets
  checksum : UInt32
  deriving DecidableEq, Repr

namespace Section

/-- The whole buffer as one section: its last four octets are the checksum, which is not verified,
and the length field is not consulted. -/
def read (buffer : Octets) : Except ReadError Section := do
  let size := buffer.length
  if size < 12 then throw .truncated
  let (header, body) ← SectionHeader.reader.run (buffer.take (size - 4))
  let checksum ← Reader.word32.parse (buffer.drop (size - 4))
  pure { header, body, checksum }

/-- The table id that fills the space behind the last section. -/
def stuffing : UInt8 := 0xFF

/-- The octets of one section, as many as its length field says. -/
def spanned : Reader Octets := do
  let tableId ← Reader.octet
  if tableId = stuffing then Reader.fail .truncated else do
    let lengthHigh ← Reader.octet
    let lengthLow ← Reader.octet
    let rest ← Reader.take (length12 lengthHigh lengthLow).toNat
    pure (tableId :: lengthHigh :: lengthLow :: rest)

theorem spanned_progresses : spanned.Progresses := Reader.octet_progresses.bind _

/-- The sections of a buffer, up to the stuffing or to the first that does not fit. -/
def split (buffer : Octets) : List Octets :=
  (Reader.repeated spanned spanned_progresses buffer).1

end Section

end ProgrammeGuide
