import ProgrammeGuide.Descriptor.EventText
import ProgrammeGuide.EventTable.TableClass

/-!
The long description of an event, put together from numbered fragments. Fragment 0 begins it,
and after that only higher numbers are taken. A fragment 0 from another version of the table
begins it anew.
-/

namespace ProgrammeGuide

/-- The version of a table, told apart by the table's class. -/
structure TableVersion where
  cls : TableClass
  version : UInt8
  deriving DecidableEq, Repr

/-- How many octets of text and how many items a long description may hold. -/
structure Limits where
  text : Option Nat
  items : Option Nat
  deriving DecidableEq, Repr

namespace Limits

def unlimited : Limits := ⟨none, none⟩

def cutText (limits : Limits) (text : Text) : Text :=
  match limits.text with
  | none => text
  | some limit => text.truncate limit

def cutItems (limits : Limits) (items : List EventItem) : List EventItem :=
  match limits.items with
  | none => items
  | some limit => items.take limit

end Limits

structure LongDescription where
  text : Text
  items : List EventItem
  lastFragment : UInt8
  /-- Where the last fragment came from. -/
  source : Option TableVersion
  deriving DecidableEq, Repr

namespace LongDescription

def start (limits : Limits) (source : Option TableVersion) (fragment : ExtendedEvent) :
    LongDescription where
  text := limits.cutText fragment.text
  items := limits.cutItems fragment.items
  lastFragment := fragment.number
  source := source

def append (limits : Limits) (source : Option TableVersion) (fragment : ExtendedEvent)
    (description : LongDescription) : LongDescription where
  text := limits.cutText (description.text.append fragment.text)
  items := limits.cutItems (description.items ++ fragment.items)
  lastFragment := fragment.number
  source := source

/-- The description after one more fragment; none as long as there has been no fragment 0. -/
def extend (limits : Limits) (source : Option TableVersion) (fragment : ExtendedEvent) :
    Option LongDescription → Option LongDescription
  | none => if fragment.number = 0 then some (start limits source fragment) else none
  | some description =>
      if fragment.number = 0 ∧ description.source ≠ source then some (start limits source fragment)
      else if description.lastFragment < fragment.number then
        some (description.append limits source fragment)
      else some description

end LongDescription

end ProgrammeGuide
