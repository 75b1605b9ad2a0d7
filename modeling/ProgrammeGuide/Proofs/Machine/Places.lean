import ProgrammeGuide.Proofs.CursorSteps

/-!
Stacks of places. The steps with a stack of cursors are taken by position, with checked differences
and slices: each of them has an outcome, the one that the cursors give, and the places stay within
their octets.
-/

namespace ProgrammeGuide.Machine

/-- Places from the inside out; there is always one. -/
structure PlaceStack where
  top : Place
  below : List Place
  deriving DecidableEq, Repr

namespace PlaceStack

def start (octets : Octets) : PlaceStack := ⟨.start octets, []⟩

def places (stack : PlaceStack) : List Place := stack.top :: stack.below

def read (sizes : Nat) (attempt : Attempt CursorValue) (stack : PlaceStack) :
    Option (Except ReadError CursorValue × PlaceStack) :=
  (attempt.run sizes stack.top).map fun (outcome, top) => (outcome, { stack with top })

def enter (sizes count : Nat) (stack : PlaceStack) :
    Option (Except ReadError CursorValue × PlaceStack) :=
  ((Attempt.take count).run sizes stack.top).map fun
    | (.error cause, top) => (.error cause, { stack with top })
    | (.ok stretch, top) => (.ok .nothing, ⟨.start stretch, top :: stack.below⟩)

def leave (stack : PlaceStack) : Except ReadError CursorValue × PlaceStack :=
  match stack.below with
  | [] => (.ok (.left false), stack)
  | top :: below => (.ok (.left true), ⟨top, below⟩)

def step (sizes : Nat) (stack : PlaceStack) :
    CursorStep → Option (Except ReadError CursorValue × PlaceStack)
  | .octet => stack.read sizes do
      let octet ← Attempt.octet
      pure (.number octet.toNat)
  | .word16 => stack.read sizes do
      let word ← Attempt.word16
      pure (.number word.toNat)
  | .word32 => stack.read sizes do
      let word ← Attempt.word32
      pure (.number word.toNat)
  | .take count => stack.read sizes do
      let taken ← Attempt.take count
      pure (.octets taken)
  | .declared count => stack.read sizes do
      let taken ← Attempt.declared count
      pure (.octets taken)
  | .array count => stack.read sizes do
      let taken ← Attempt.array count (Reader.take count)
      pure (.octets taken)
  | .skip count => stack.read sizes do
      let _ ← Attempt.take count
      pure .nothing
  | .counted => stack.read sizes do
      let taken ← Attempt.counted
      pure (.octets taken)
  | .unread => stack.read sizes do
      let unread ← Attempt.rest
      pure (.octets unread)
  | .takeRest => stack.read sizes do
      let taken ← Attempt.takeRest
      pure (.octets taken)
  | .descriptorHeader => stack.read sizes do
      let header ← Attempt.array 2 DescriptorHeader.reader
      pure (.descriptorHeader header)
  | .sectionHeader => stack.read sizes do
      let header ← Attempt.array 8 SectionHeader.reader
      pure (.sectionHeader header)
  | .eventTableHeader => stack.read sizes do
      let table ← Attempt.array 6 EventTableHeader.reader
      pure (.eventTableHeader table)
  | .enter count => stack.enter sizes count
  | .leave => some stack.leave

def run (sizes : Nat) (stack : PlaceStack) :
    List CursorStep → Option (List (Except ReadError CursorValue) × PlaceStack)
  | [] => some ([], stack)
  | step :: later => do
      let (result, next) ← stack.step sizes step
      let (results, last) ← next.run sizes later
      some (result :: results, last)

end PlaceStack

/-- The place is where the cursor is, with the same octets. -/
structure Place.Marks (sizes : Nat) (place : Place) (cursor : Cursor) : Prop where
  octets : place.octets = cursor.data
  position : place.position = cursor.position
  sound : place.Sound sizes

/-- Place for cursor, from the inside out. -/
structure PlaceStack.Marks (sizes : Nat) (places : PlaceStack) (stack : CursorStack) : Prop where
  top : places.top.Marks sizes stack.top
  below : List.Forall₂ (Place.Marks sizes) places.below stack.below

namespace Place

variable {sizes : Nat} {place : Place} {cursor : Cursor}

theorem marks_start {octets : Octets} (addressable : octets.length < sizes) :
    (start octets).Marks sizes (.start octets) :=
  ⟨rfl, (Nat.sub_self _).symm, sound_start addressable⟩

theorem Marks.unread_eq (marks : place.Marks sizes cursor) : place.unread = cursor.unread := by
  rw [unread, marks.octets, marks.position, cursor.drop_position]

theorem Marks.difference_eq (marks : place.Marks sizes cursor) :
    difference? place.octets.length place.position = some cursor.remaining := by
  have total := cursor.position_add_remaining
  rw [difference?, if_pos marks.sound.within, marks.octets, marks.position]
  exact congrArg some (by omega)

theorem Marks.run_read {α : Type} {attempt : Attempt α} {reader : Reader α}
    (copies : Attempt.Copies sizes attempt reader) (marks : place.Marks sizes cursor) :
    ∃ left, attempt.run sizes place = some ((cursor.read reader).1, left) ∧
      left.Marks sizes (cursor.read reader).2 := by
  have same := marks.unread_eq
  cases ran : reader.run cursor.unread with
  | error cause =>
      rw [Cursor.read_of_error ran]
      rw [← same] at ran
      exact ⟨place, copies.rejects marks.sound ran, marks⟩
  | ok found =>
      obtain ⟨value, rest⟩ := found
      have shorter := (reader.leaves_suffix ran).length_le
      have total := cursor.position_add_remaining
      rw [Cursor.read_of_ok ran]
      rw [← same] at ran
      refine ⟨_, copies.accepts marks.sound ran, marks.octets, ?_,
        Place.sound_advance marks.sound (Nat.sub_le _ _)⟩
      simp only [advance, Cursor.position, Cursor.remaining, marks.position, same] at total ⊢
      omega

end Place

namespace PlaceStack

variable {sizes : Nat} {places : PlaceStack} {stack : CursorStack}

/-- The step has an outcome, and after it the places are where the cursors are. -/
def Takes (sizes : Nat) (outcome : Option (Except ReadError CursorValue × PlaceStack))
    (stepped : Except ReadError CursorValue × CursorStack) : Prop :=
  ∃ next, outcome = some (stepped.1, next) ∧ next.Marks sizes stepped.2

theorem marks_start {octets : Octets} (addressable : octets.length < sizes) :
    (start octets).Marks sizes (.start octets) := ⟨Place.marks_start addressable, .nil⟩

theorem Marks.read {attempt : Attempt CursorValue} {reader : Reader CursorValue}
    (marks : places.Marks sizes stack) (copies : Attempt.Copies sizes attempt reader) :
    Takes sizes (places.read sizes attempt) (stack.read reader) := by
  obtain ⟨left, ran, moved⟩ := marks.top.run_read copies
  refine ⟨{ places with top := left }, ?_, moved, marks.below⟩
  rw [PlaceStack.read, ran]
  rfl

theorem Marks.enter (marks : places.Marks sizes stack) (count : Nat) :
    Takes sizes (places.enter sizes count) (stack.enter count) := by
  obtain ⟨left, ran, moved⟩ := marks.top.run_read (Attempt.copies_take count)
  cases taken : (Reader.take count).run stack.top.unread with
  | error cause =>
      have failed := Cursor.read_of_error taken
      rw [failed] at ran moved
      refine ⟨{ places with top := left }, ?_, ?_⟩
      · rw [PlaceStack.enter, ran, CursorStack.enter, failed]
        rfl
      · rw [CursorStack.enter, failed]
        exact ⟨moved, marks.below⟩
  | ok found =>
      obtain ⟨stretch, rest⟩ := found
      have read := Cursor.read_of_ok taken
      have short : stretch.length < sizes := by
        have whole := marks.top.sound.unread_lt
        rw [marks.top.unread_eq, (Reader.run_take_eq_ok.mp taken).2, List.length_append] at whole
        omega
      rw [read] at ran moved
      refine ⟨⟨.start stretch, left :: places.below⟩, ?_, ?_⟩
      · rw [PlaceStack.enter, ran, CursorStack.enter, read]
        rfl
      · rw [CursorStack.enter, read]
        exact ⟨Place.marks_start short, .cons moved marks.below⟩

theorem Marks.leave (marks : places.Marks sizes stack) :
    Takes sizes (some places.leave) stack.leave := by
  obtain ⟨top, below⟩ := stack
  obtain ⟨place, others⟩ := places
  have outside := marks.below
  cases outside with
  | nil => exact ⟨_, rfl, marks⟩
  | cons first rest => exact ⟨_, rfl, first, rest⟩

theorem Marks.unread (marks : places.Marks sizes stack) :
    Takes sizes (places.step sizes .unread) (stack.step .unread) := by
  have ran := Attempt.run_rest marks.top.sound
  rw [marks.top.unread_eq] at ran
  refine ⟨places, ?_, marks⟩
  rw [PlaceStack.step, PlaceStack.read, Attempt.run_bind_of_ok ran]
  rfl

theorem copies_skip (count : Nat) :
    Attempt.Copies sizes (Attempt.take count >>= fun _ => pure CursorValue.nothing)
      ((fun _ => CursorValue.nothing) <$> Reader.skip count) := by
  have copies : Attempt.Copies sizes _ _ :=
    (Attempt.copies_take count).map fun _ => CursorValue.nothing
  simpa only [Reader.skip, map_eq_pure_bind, bind_assoc, pure_bind] using copies

theorem Marks.step (marks : places.Marks sizes stack) (step : CursorStep) :
    Takes sizes (places.step sizes step) (stack.step step) := by
  open Attempt in
  cases step with
  | octet => exact marks.read (copies_octet.map _)
  | word16 => exact marks.read (copies_word16.map _)
  | word32 => exact marks.read (copies_word32.map _)
  | take count => exact marks.read ((copies_take count).map _)
  | declared count => exact marks.read ((copies_take count).declared.map _)
  | array count => exact marks.read ((copies_array (Reader.hasWidth_take count)).map _)
  | skip count => exact marks.read (copies_skip count)
  | counted => exact marks.read (copies_counted.map _)
  | unread => exact marks.unread
  | takeRest => exact marks.read (copies_takeRest.map _)
  | descriptorHeader => exact marks.read ((copies_array DescriptorHeader.hasWidth_reader).map _)
  | sectionHeader => exact marks.read ((copies_array SectionHeader.hasWidth_reader).map _)
  | eventTableHeader => exact marks.read ((copies_array EventTableHeader.hasWidth_reader).map _)
  | enter count => exact marks.enter count
  | leave => exact marks.leave

theorem Marks.run (marks : places.Marks sizes stack) (steps : List CursorStep) :
    ∃ last, places.run sizes steps = some ((stack.run steps).1, last) ∧
      last.Marks sizes (stack.run steps).2 := by
  induction steps generalizing places stack with
  | nil => exact ⟨places, rfl, marks⟩
  | cons step later ih =>
      obtain ⟨next, taken, marked⟩ := marks.step step
      obtain ⟨last, ran, ended⟩ := ih marked
      refine ⟨last, ?_, ended⟩
      rw [PlaceStack.run, taken]
      change (next.run sizes later).bind _ = _
      rw [ran]
      rfl

end PlaceStack

end ProgrammeGuide.Machine
