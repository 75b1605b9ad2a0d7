import ProgrammeGuide.Cursor
import ProgrammeGuide.EventTable.Section

/-!
Nested reading. A stack of cursors is worked on at its top: entering a stretch of octets pushes a
cursor over just that stretch and moves the cursor below past it; leaving drops the top again.
-/

namespace ProgrammeGuide

/-- What one step reads at the top of a stack. -/
inductive CursorStep
  | octet
  | word16
  | word32
  | take (count : Nat)
  | declared (count : Nat)
  /-- As many octets as there are in an array of a fixed length. -/
  | array (count : Nat)
  | skip (count : Nat)
  | counted
  | unread
  | takeRest
  | descriptorHeader
  | sectionHeader
  | eventTableHeader
  | enter (count : Nat)
  | leave
  deriving DecidableEq, Repr

inductive CursorValue
  | nothing
  | number (value : Nat)
  | octets (value : Octets)
  | descriptorHeader (header : DescriptorHeader)
  | sectionHeader (header : SectionHeader)
  | eventTableHeader (header : EventTableHeader)
  /-- Whether there was a cursor to leave. -/
  | left (done : Bool)
  deriving DecidableEq, Repr

/-- Cursors from the inside out; there is always one. -/
structure CursorStack where
  top : Cursor
  below : List Cursor
  deriving DecidableEq, Repr

namespace CursorStack

def start (data : Octets) : CursorStack := ⟨.start data, []⟩

def depth (stack : CursorStack) : Nat := stack.below.length + 1

def read (reader : Reader CursorValue) (stack : CursorStack) :
    Except ReadError CursorValue × CursorStack :=
  let (result, top) := stack.top.read reader
  (result, { stack with top := top })

def enter (count : Nat) (stack : CursorStack) : Except ReadError CursorValue × CursorStack :=
  match stack.top.read (Reader.take count) with
  | (.error cause, _) => (.error cause, stack)
  | (.ok stretch, top) => (.ok .nothing, ⟨.start stretch, top :: stack.below⟩)

def leave (stack : CursorStack) : Except ReadError CursorValue × CursorStack :=
  match stack.below with
  | [] => (.ok (.left false), stack)
  | top :: below => (.ok (.left true), ⟨top, below⟩)

def step (stack : CursorStack) : CursorStep → Except ReadError CursorValue × CursorStack
  | .octet => stack.read ((fun octet => .number octet.toNat) <$> Reader.octet)
  | .word16 => stack.read ((fun word => .number word.toNat) <$> Reader.word16)
  | .word32 => stack.read ((fun word => .number word.toNat) <$> Reader.word32)
  | .take count | .array count => stack.read (.octets <$> Reader.take count)
  | .declared count => stack.read (.octets <$> (Reader.take count).declared)
  | .skip count => stack.read ((fun _ => .nothing) <$> Reader.skip count)
  | .counted => stack.read (.octets <$> Reader.counted)
  | .unread => (.ok (.octets stack.top.unread), stack)
  | .takeRest => stack.read (.octets <$> Reader.takeRest)
  | .descriptorHeader => stack.read (.descriptorHeader <$> DescriptorHeader.reader)
  | .sectionHeader => stack.read (.sectionHeader <$> SectionHeader.reader)
  | .eventTableHeader => stack.read (.eventTableHeader <$> EventTableHeader.reader)
  | .enter count => stack.enter count
  | .leave => stack.leave

end CursorStack

end ProgrammeGuide
