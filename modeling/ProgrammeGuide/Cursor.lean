import ProgrammeGuide.Reader

/-!
Cursors: a reader's place in a sequence of octets. A reader that fails leaves its cursor alone.
-/

namespace ProgrammeGuide

structure Cursor where
  data : Octets
  unread : Octets
  unread_suffix : unread <:+ data
  deriving DecidableEq, Repr

namespace Cursor

def start (data : Octets) : Cursor := ⟨data, data, List.suffix_refl _⟩

def position (cursor : Cursor) : Nat := cursor.data.length - cursor.unread.length

def remaining (cursor : Cursor) : Nat := cursor.unread.length

def atEnd (cursor : Cursor) : Bool := cursor.unread.isEmpty

def read {α : Type} (reader : Reader α) (cursor : Cursor) : Except ReadError α × Cursor :=
  match ran : reader.run cursor.unread with
  | .error cause => (.error cause, cursor)
  | .ok (value, rest) =>
      (.ok value, ⟨cursor.data, rest, (reader.leaves_suffix ran).trans cursor.unread_suffix⟩)

theorem position_add_remaining (cursor : Cursor) :
    cursor.position + cursor.remaining = cursor.data.length := by
  have shorter := cursor.unread_suffix.length_le
  simp only [position, remaining]
  omega

theorem drop_position (cursor : Cursor) : cursor.data.drop cursor.position = cursor.unread :=
  (List.suffix_iff_eq_drop.mp cursor.unread_suffix).symm

theorem read_of_error {α : Type} {reader : Reader α} {cursor : Cursor} {cause : ReadError}
    (ran : reader.run cursor.unread = .error cause) :
    cursor.read reader = (.error cause, cursor) := by
  simp only [read]
  split
  · rename_i found
    rw [ran] at found
    cases found
    rfl
  · rename_i found
    rw [ran] at found
    cases found

theorem read_of_ok {α : Type} {reader : Reader α} {cursor : Cursor} {value : α} {rest : Octets}
    (ran : reader.run cursor.unread = .ok (value, rest)) :
    cursor.read reader =
      (.ok value, ⟨cursor.data, rest, (reader.leaves_suffix ran).trans cursor.unread_suffix⟩) := by
  simp only [read]
  split
  · rename_i found
    rw [ran] at found
    cases found
  · rename_i found
    rw [ran] at found
    cases found
    rfl

end Cursor

end ProgrammeGuide
