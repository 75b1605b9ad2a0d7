/-!
The four classes of event tables: what is on now and next, and the schedule, each for the
transport stream that carries the table and for other ones.
-/

namespace ProgrammeGuide

inductive TableClass
  | actualPresentFollowing
  | otherPresentFollowing
  | actualSchedule
  | otherSchedule
  deriving DecidableEq, Repr

namespace TableClass

def all : List TableClass :=
  [actualPresentFollowing, otherPresentFollowing, actualSchedule, otherSchedule]

/-- The class of an event table's id; none for other tables. -/
def ofTableId? (tableId : UInt8) : Option TableClass :=
  if tableId = 0x4E then some actualPresentFollowing
  else if tableId = 0x4F then some otherPresentFollowing
  else if 0x50 ≤ tableId ∧ tableId ≤ 0x5F then some actualSchedule
  else if 0x60 ≤ tableId ∧ tableId ≤ 0x6F then some otherSchedule
  else none

def firstTableId : TableClass → UInt8
  | actualPresentFollowing => 0x4E
  | otherPresentFollowing => 0x4F
  | actualSchedule => 0x50
  | otherSchedule => 0x60

def isSchedule : TableClass → Bool
  | actualPresentFollowing | otherPresentFollowing => false
  | actualSchedule | otherSchedule => true

/-- The position among all classes. -/
def index : TableClass → Nat
  | actualPresentFollowing => 0
  | otherPresentFollowing => 1
  | actualSchedule => 2
  | otherSchedule => 3

theorem all_index (cls : TableClass) : all[cls.index]? = some cls := by
  cases cls <;> rfl

theorem ofTableId?_firstTableId (cls : TableClass) : ofTableId? cls.firstTableId = some cls := by
  cases cls <;> rfl

end TableClass

end ProgrammeGuide
