import ProgrammeGuide.Octets

/-!
Readers of big-endian fields. A reader either fails or takes octets off the front of its input,
so what it leaves is always a suffix of what it was given.
-/

namespace ProgrammeGuide

inductive ReadError
  | truncated
  | malformedLength
  deriving DecidableEq, Repr

def ReadError.message : ReadError → String
  | .truncated => "truncated data"
  | .malformedLength => "malformed length"

structure Reader (α : Type) where
  run : Octets → Except ReadError (α × Octets)
  leaves_suffix : ∀ {input value rest}, run input = .ok (value, rest) → rest <:+ input

namespace Reader

variable {α β : Type}

def done (value : α) : Reader α where
  run input := .ok (value, input)
  leaves_suffix found := by cases found; exact List.suffix_refl _

def chain (first : Reader α) (next : α → Reader β) : Reader β where
  run input :=
    match first.run input with
    | .error cause => .error cause
    | .ok (value, rest) => (next value).run rest
  leaves_suffix found := by
    split at found
    · cases found
    · rename_i ran
      exact ((next _).leaves_suffix found).trans (first.leaves_suffix ran)

instance : Monad Reader where
  pure := done
  bind := chain

def fail (cause : ReadError) : Reader α where
  run _ := .error cause
  leaves_suffix found := by cases found

def octet : Reader UInt8 where
  run
    | [] => .error .truncated
    | first :: rest => .ok (first, rest)
  leaves_suffix := by
    intro input value rest found
    cases input <;> cases found
    exact List.suffix_cons _ _

/-- Exactly `count` octets. -/
def take (count : Nat) : Reader Octets where
  run input :=
    let taken := input.take count
    if taken.length = count then .ok (taken, input.drop count) else .error .truncated
  leaves_suffix found := by
    simp only at found
    split at found
    · cases found
      exact List.drop_suffix _ _
    · cases found

/-- `count` octets, or all that are left when there are fewer. -/
def takeUpTo (count : Nat) : Reader Octets where
  run input := .ok (input.take count, input.drop count)
  leaves_suffix found := by cases found; exact List.drop_suffix _ _

def takeRest : Reader Octets where
  run input := .ok (input, [])
  leaves_suffix found := by cases found; exact List.nil_suffix

/-- The same reader with every failure blamed on a length field. -/
def declared (reader : Reader α) : Reader α where
  run input := (reader.run input).mapError fun _ => .malformedLength
  leaves_suffix := by
    intro input value rest found
    cases ran : reader.run input with
    | error cause => rw [ran] at found; cases found
    | ok result =>
        rw [ran] at found
        cases found
        exact reader.leaves_suffix ran

def skip (count : Nat) : Reader Unit := do
  let _ ← take count
  pure ()

def word16 : Reader UInt16 := do
  let high ← octet
  let low ← octet
  pure (ProgrammeGuide.word16 high low)

def word32 : Reader UInt32 := do
  let first ← octet
  let second ← octet
  let third ← octet
  let fourth ← octet
  pure (ProgrammeGuide.word32 first second third fourth)

/-- An octet with a length, then that many octets. -/
def counted : Reader Octets := do
  let count ← octet
  take count.toNat

def onlyIf (present : Bool) (reader : Reader α) : Reader (Option α) :=
  if present then some <$> reader else pure none

/-- What the reader makes of the front of a body; octets after that are padding. -/
def parse (reader : Reader α) (body : Octets) : Except ReadError α :=
  (reader.run body).map Prod.fst

@[simp] theorem run_pure (value : α) (input : Octets) :
    (pure value : Reader α).run input = .ok (value, input) := rfl

theorem run_bind (first : Reader α) (next : α → Reader β) (input : Octets) :
    (first >>= next).run input =
      match first.run input with
      | .error cause => .error cause
      | .ok (value, rest) => (next value).run rest := rfl

/-- A sequence succeeds exactly when its parts do, one after the other. -/
theorem run_bind_eq_ok {first : Reader α} {next : α → Reader β} {input rest : Octets} {value : β} :
    (first >>= next).run input = .ok (value, rest) ↔
      ∃ middle left, first.run input = .ok (middle, left) ∧
        (next middle).run left = .ok (value, rest) := by
  rw [run_bind]
  cases ran : first.run input with
  | error cause => simp
  | ok result => simp [Prod.ext_iff, and_assoc]

@[simp] theorem run_octet_cons (first : UInt8) (rest : Octets) :
    octet.run (first :: rest) = .ok (first, rest) := rfl

@[simp] theorem run_octet_nil : octet.run [] = .error .truncated := rfl

theorem run_take_append (taken rest : Octets) :
    (take taken.length).run (taken ++ rest) = .ok (taken, rest) := by
  simp [take]

theorem run_take_eq_ok {count : Nat} {input taken rest : Octets} :
    (take count).run input = .ok (taken, rest) ↔ taken.length = count ∧ input = taken ++ rest := by
  constructor
  · intro found
    simp only [take] at found
    split at found
    · rename_i enough
      cases found
      exact ⟨enough, (List.take_append_drop count input).symm⟩
    · cases found
  · rintro ⟨rfl, rfl⟩
    exact run_take_append taken rest

theorem run_take_eq_error {count : Nat} {input : Octets} (short : input.length < count) :
    (take count).run input = .error .truncated := by
  simp only [take, List.length_take]
  rw [if_neg (by omega)]

end Reader

end ProgrammeGuide
