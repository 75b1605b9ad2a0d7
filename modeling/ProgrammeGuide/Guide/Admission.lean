import ProgrammeGuide.EventTable.Section
import ProgrammeGuide.EventTable.TableClass
import ProgrammeGuide.Text

/-!
Which sections of a table the guide takes. Each class of tables has a state of its own, and the
headers of a section decide against it; the events of a section have no say.
-/

namespace ProgrammeGuide

inductive Rejection
  | truncated
  | unknownTable (tableId : UInt8)
  | discontinuous
  | duplicateVersion
  deriving DecidableEq, Repr

def Rejection.message : Rejection → String
  | .truncated => "truncated section"
  | .unknownTable tableId => "unknown table id: 0x" ++ Numeral.upperHex 2 tableId.toNat
  | .discontinuous => "continuity rejected"
  | .duplicateVersion => "duplicate version"

abbrev Verdict := Except Rejection Unit

structure ClassState where
  /-- The version taken last. -/
  lastVersion : Option UInt8
  /-- The last table id of the latest schedule section that kept the order. -/
  lastTableId : UInt8
  deriving DecidableEq, Repr

namespace ClassState

def initial (cls : TableClass) : ClassState := ⟨none, cls.firstTableId⟩

/-- A version has been received if it is the last one or the next after it, modulo 32. -/
def isDuplicate (state : ClassState) (version : UInt8) : Bool :=
  match state.lastVersion with
  | none => false
  | some last => version = last || version = (last + 1) % 32

/-- A schedule section ends its segment and does not go back to an earlier last table. A
present/following section names its own table as the last and has one segment. -/
def keepsOrder (cls : TableClass) (state : ClassState) (header : SectionHeader)
    (table : EventTableHeader) : Bool :=
  if cls.isSchedule then
    table.segmentLastNumber = header.number && state.lastTableId ≤ table.lastTableId
  else
    table.lastTableId = cls.firstTableId && header.lastNumber = table.segmentLastNumber

/-- A schedule section that keeps the order moves the last table on, even as a duplicate. -/
def advance (cls : TableClass) (state : ClassState) (table : EventTableHeader) : ClassState :=
  if cls.isSchedule then { state with lastTableId := table.lastTableId } else state

def review (cls : TableClass) (state : ClassState) (header : SectionHeader)
    (table : EventTableHeader) : ClassState × Verdict :=
  if state.keepsOrder cls header table then
    let advanced := state.advance cls table
    if advanced.isDuplicate header.version then (advanced, .error .duplicateVersion)
    else ({ advanced with lastVersion := some header.version }, .ok ())
  else (state, .error .discontinuous)

end ClassState

/-- One value for every class of tables. -/
structure PerClass (α : Type) where
  actualPresentFollowing : α
  otherPresentFollowing : α
  actualSchedule : α
  otherSchedule : α
  deriving DecidableEq, Repr

namespace PerClass

variable {α : Type}

def ofFunction (value : TableClass → α) : PerClass α where
  actualPresentFollowing := value .actualPresentFollowing
  otherPresentFollowing := value .otherPresentFollowing
  actualSchedule := value .actualSchedule
  otherSchedule := value .otherSchedule

def get (values : PerClass α) : TableClass → α
  | .actualPresentFollowing => values.actualPresentFollowing
  | .otherPresentFollowing => values.otherPresentFollowing
  | .actualSchedule => values.actualSchedule
  | .otherSchedule => values.otherSchedule

def set (values : PerClass α) (cls : TableClass) (value : α) : PerClass α :=
  match cls with
  | .actualPresentFollowing => { values with actualPresentFollowing := value }
  | .otherPresentFollowing => { values with otherPresentFollowing := value }
  | .actualSchedule => { values with actualSchedule := value }
  | .otherSchedule => { values with otherSchedule := value }

@[simp] theorem get_ofFunction (value : TableClass → α) (cls : TableClass) :
    (ofFunction value).get cls = value cls := by
  cases cls <;> rfl

@[simp] theorem get_set_self (values : PerClass α) (cls : TableClass) (value : α) :
    (values.set cls value).get cls = value := by
  cases cls <;> rfl

theorem get_set_of_ne {cls other : TableClass} (values : PerClass α) (value : α)
    (different : other ≠ cls) : (values.set cls value).get other = values.get other := by
  cases cls <;> cases other <;> simp_all [get, set]

theorem ext_get {first second : PerClass α} (same : ∀ cls, first.get cls = second.get cls) :
    first = second := by
  cases first
  cases second
  simp only [mk.injEq]
  exact ⟨same .actualPresentFollowing, same .otherPresentFollowing, same .actualSchedule,
    same .otherSchedule⟩

end PerClass

end ProgrammeGuide
