import ProgrammeGuide.Proofs.FixedWidth
import ProgrammeGuide.Proofs.Machine.Readings
import ProgrammeGuide.Proofs.ReadBack

/-!
Reading by position. An attempt goes from place to place in a sequence of octets and cuts slices
out of it; the sizes that it computes are numbers of a width of their own. Where a difference is
below zero, a size too large, a slice out of bounds or an array of the wrong length, there is no
outcome at all, not even an error. An attempt follows a reader if it has an outcome from every
sound place, and the reader's.
-/

namespace ProgrammeGuide.Machine

structure Place where
  octets : Octets
  /-- How many of them have been read. -/
  position : Nat
  deriving DecidableEq, Repr

namespace Place

def start (octets : Octets) : Place := ⟨octets, 0⟩

def advance (count : Nat) (place : Place) : Place :=
  { place with position := place.position + count }

def finish (place : Place) : Place := { place with position := place.octets.length }

def unread (place : Place) : Octets := place.octets.drop place.position

/-- Within its octets, of which there are fewer than `sizes`. -/
structure Sound (sizes : Nat) (place : Place) : Prop where
  within : place.position ≤ place.octets.length
  addressable : place.octets.length < sizes

theorem sound_start {sizes : Nat} {octets : Octets} (addressable : octets.length < sizes) :
    (start octets).Sound sizes := ⟨Nat.zero_le _, addressable⟩

variable {sizes : Nat} {place : Place}

theorem Sound.length_unread (sound : place.Sound sizes) :
    place.position + place.unread.length = place.octets.length := by
  have within := sound.within
  rw [unread, List.length_drop]
  omega

theorem Sound.unread_lt (sound : place.Sound sizes) : place.unread.length < sizes := by
  have total := sound.length_unread
  have addressable := sound.addressable
  omega

theorem sound_advance (sound : place.Sound sizes) {count : Nat}
    (enough : count ≤ place.unread.length) : (place.advance count).Sound sizes := by
  have total := sound.length_unread
  refine ⟨?_, sound.addressable⟩
  simp only [advance]
  omega

theorem unread_advance (place : Place) (count : Nat) :
    (place.advance count).unread = place.unread.drop count := by
  simp only [unread, advance, List.drop_drop]

theorem unread_behind (place : Place) {left : Octets} (suffix : left <:+ place.unread) :
    (place.advance (place.unread.length - left.length)).unread = left := by
  rw [unread_advance]
  exact (List.suffix_iff_eq_drop.mp suffix).symm

theorem advance_advance (place : Place) (count more : Nat) :
    (place.advance count).advance more = place.advance (count + more) := by
  simp only [advance, Nat.add_assoc]

theorem sound_finish (sound : place.Sound sizes) : place.finish.Sound sizes :=
  ⟨Nat.le_refl _, sound.addressable⟩

theorem unread_finish (place : Place) : place.finish.unread = [] := List.drop_length

end Place

def difference? (whole part : Nat) : Option Nat :=
  if part ≤ whole then some (whole - part) else none

def slice? (octets : Octets) (first last : Nat) : Option Octets :=
  if first ≤ last ∧ last ≤ octets.length then some ((octets.drop first).take (last - first))
  else none

/-- A computation that knows the bound of all sizes and moves in octets. -/
abbrev Attempt := ReaderT Nat (ExceptT ReadError (StateT Place Option))

namespace Attempt

variable {α β : Type}

def run (attempt : Attempt α) (sizes : Nat) (place : Place) :
    Option (Except ReadError α × Place) :=
  StateT.run (ExceptT.run (ReaderT.run attempt sizes)) place

/-- The outcome from the start of a sequence of octets. -/
def parse (attempt : Attempt α) (sizes : Nat) (octets : Octets) : Option (Except ReadError α) :=
  (attempt.run sizes (.start octets)).map Prod.fst

/-- A failure as a value. -/
def caught (attempt : Attempt α) : Attempt (Except ReadError α) :=
  fun sizes place => (attempt.run sizes place).map fun (outcome, left) => (.ok outcome, left)

/-- A failure takes the place back to where it was. -/
def atomically (attempt : Attempt α) : Attempt α := do
  let place ← get
  tryCatch attempt fun cause => do
    set place
    throw cause

def remaining : Attempt Nat := do
  let place ← get
  difference? place.octets.length place.position

def rest : Attempt Octets := do
  let place ← get
  slice? place.octets place.position place.octets.length

def takeRest : Attempt Octets := do
  let octets ← rest
  modify Place.finish
  pure octets

def take (count : Nat) : Attempt Octets := do
  let left ← remaining
  if left < count then throw .truncated else do
    let place ← get
    let last ← number? (← read) (place.position + count)
    let octets ← slice? place.octets place.position last
    set { place with position := last }
    pure octets

def declared (count : Nat) : Attempt Octets :=
  tryCatch (take count) fun _ => throw .malformedLength

/-- The fields of an array, which must be as many octets as the array has. -/
def opened? (width : Nat) (fields : Reader α) (octets : Octets) : Option α :=
  if octets.length = width then
    match fields.run octets with
    | .ok (value, []) => some value
    | _ => none
  else none

def array (width : Nat) (fields : Reader α) : Attempt α := do
  let octets ← take width
  opened? width fields octets

def octet : Attempt UInt8 := array 1 Reader.octet

def word16 : Attempt UInt16 := array 2 Reader.word16

def word32 : Attempt UInt32 := array 4 Reader.word32

def counted : Attempt Octets := atomically do
  let count ← octet
  take count.toNat

/-- The values of one attempt after the other, as long as octets remain; and what the last one
failed with, if one did. More rounds than these give no outcome. -/
def rounds (attempt : Attempt α) : Nat → Attempt (List α × Option ReadError)
  | 0 => fun _ _ => none
  | more + 1 => do
      let left ← remaining
      if left = 0 then pure ([], none) else do
        match ← attempt.caught with
        | .error cause => pure ([], some cause)
        | .ok value =>
            let (values, ending) ← rounds attempt more
            pure (value :: values, ending)

/-- A round for every octet and one to notice the end. -/
def repeated (attempt : Attempt α) : Attempt (List α × Option ReadError) := do
  let left ← remaining
  attempt.rounds (left + 1)

/-- The values in a sequence of octets of their own. A repetition does not fail. -/
def valuesIn (attempt : Attempt α) (sizes : Nat) (octets : Octets) : Option (List α) := do
  match ← attempt.repeated.parse sizes octets with
  | .ok (values, _) => some values
  | .error _ => none

def listed (octets : Octets) (attempt : Attempt α) : Attempt (List α) := do
  attempt.valuesIn (← read) octets

/-- The values up to the end, which the last one must reach. -/
def untilEnd (attempt : Attempt α) : Attempt (List α) := do
  let (values, ending) ← attempt.repeated
  match ending with
  | none => pure values
  | some _ => throw .truncated

/-- Both, one after the other, whether or not the first one fails. -/
def together (first : Attempt α) (second : Attempt β) : Attempt (α × β) := do
  let one ← first.caught
  let other ← second.caught
  match one, other with
  | .ok value, .ok another => pure (value, another)
  | _, _ => throw .truncated

section Run

variable {first : Attempt α} {next : α → Attempt β} {handle : ReadError → Attempt α} {sizes : Nat}
  {place left : Place} {value : α} {cause : ReadError}

theorem run_bind : (first >>= next).run sizes place =
    (first.run sizes place).bind fun (outcome, left) =>
      match outcome with
      | .ok value => (next value).run sizes left
      | .error cause => some (.error cause, left) := by
  change (first.run sizes place).bind _ = _
  congr 1
  funext ⟨outcome, left⟩
  cases outcome <;> rfl

theorem run_tryCatch : (tryCatch first handle).run sizes place =
    (first.run sizes place).bind fun (outcome, left) =>
      match outcome with
      | .ok value => some (.ok value, left)
      | .error cause => (handle cause).run sizes left := by
  change (first.run sizes place).bind _ = _
  congr 1
  funext ⟨outcome, left⟩
  cases outcome <;> rfl

theorem run_pure : (pure value : Attempt α).run sizes place = some (.ok value, place) := rfl

theorem run_throw : (throw cause : Attempt α).run sizes place = some (.error cause, place) := rfl

theorem run_get : (get : Attempt Place).run sizes place = some (.ok place, place) := rfl

theorem run_set : (set left : Attempt Unit).run sizes place = some (.ok (), left) := rfl

theorem run_read : (read : Attempt Nat).run sizes place = some (.ok sizes, place) := rfl

theorem run_given {given : Option α} (there : given = some value) :
    (liftM given : Attempt α).run sizes place = some (.ok value, place) := by
  subst there
  rfl

theorem run_bind_of_ok (ran : first.run sizes place = some (.ok value, left)) :
    (first >>= next).run sizes place = (next value).run sizes left := by
  rw [run_bind, ran, Option.bind_some]

theorem run_bind_of_error (ran : first.run sizes place = some (.error cause, left)) :
    (first >>= next).run sizes place = some (.error cause, left) := by
  rw [run_bind, ran, Option.bind_some]

theorem run_tryCatch_of_ok (ran : first.run sizes place = some (.ok value, left)) :
    (tryCatch first handle).run sizes place = some (.ok value, left) := by
  rw [run_tryCatch, ran, Option.bind_some]

theorem run_tryCatch_of_error (ran : first.run sizes place = some (.error cause, left)) :
    (tryCatch first handle).run sizes place = (handle cause).run sizes left := by
  rw [run_tryCatch, ran, Option.bind_some]

theorem run_caught {outcome : Except ReadError α}
    (ran : first.run sizes place = some (outcome, left)) :
    first.caught.run sizes place = some (.ok outcome, left) :=
  congrArg (Option.map _) ran

theorem run_atomically_of_error (ran : first.run sizes place = some (.error cause, left)) :
    first.atomically.run sizes place = some (.error cause, place) := by
  rw [atomically, run_bind_of_ok run_get, run_tryCatch_of_error ran, run_bind_of_ok run_set,
    run_throw]

end Run

section Taking

variable {sizes : Nat} {place : Place} {count : Nat}

theorem run_remaining (sound : place.Sound sizes) :
    remaining.run sizes place = some (.ok place.unread.length, place) := by
  have total := sound.length_unread
  have left : difference? place.octets.length place.position = some place.unread.length := by
    rw [difference?, if_pos sound.within, ← total, Nat.add_sub_cancel_left]
  rw [remaining, run_bind_of_ok run_get, run_given left]

theorem run_rest (sound : place.Sound sizes) :
    rest.run sizes place = some (.ok place.unread, place) := by
  have slice : slice? place.octets place.position place.octets.length = some place.unread := by
    rw [slice?, if_pos ⟨sound.within, Nat.le_refl _⟩, ← List.length_drop, List.take_length]
    rfl
  rw [rest, run_bind_of_ok run_get, run_given slice]

theorem run_takeRest (sound : place.Sound sizes) :
    takeRest.run sizes place = some (.ok place.unread, place.finish) := by
  rw [takeRest, run_bind_of_ok (run_rest sound)]
  rfl

theorem run_take_of_enough (sound : place.Sound sizes) (enough : count ≤ place.unread.length) :
    (take count).run sizes place =
      some (.ok (place.unread.take count), place.advance count) := by
  have total := sound.length_unread
  have addressable := sound.addressable
  have last : number? sizes (place.position + count) = some (place.position + count) :=
    number?_of_lt (by omega)
  have slice : slice? place.octets place.position (place.position + count) =
      some (place.unread.take count) := by
    rw [slice?, if_pos (by omega), Nat.add_sub_cancel_left]
    rfl
  rw [take, run_bind_of_ok (run_remaining sound), if_neg (Nat.not_lt.mpr enough),
    run_bind_of_ok run_get, run_bind_of_ok run_read, run_bind_of_ok (run_given last),
    run_bind_of_ok (run_given slice), run_bind_of_ok run_set, run_pure, Place.advance]

theorem run_take_of_short (sound : place.Sound sizes) (short : place.unread.length < count) :
    (take count).run sizes place = some (.error .truncated, place) := by
  rw [take, run_bind_of_ok (run_remaining sound), if_pos short, run_throw]

end Taking

end Attempt

end ProgrammeGuide.Machine
