import ProgrammeGuide.Reader

/-!
Repeating a reader until it fails. Every loop of the broadcast formats is one: descriptors in a
block, events in a section, sections in a buffer, items, link records and language entries.
-/

namespace ProgrammeGuide.Reader

variable {α β : Type}

/-- Every success takes at least one octet. -/
def Progresses (reader : Reader α) : Prop :=
  ∀ input value rest, reader.run input = .ok (value, rest) → rest.length < input.length

theorem octet_progresses : octet.Progresses := by
  intro input value rest found
  cases input with
  | nil => cases found
  | cons head tail =>
      cases found
      exact Nat.lt_succ_self _

theorem Progresses.bind {first : Reader α} (progresses : first.Progresses)
    (next : α → Reader β) : (first >>= next).Progresses := by
  intro input value rest found
  obtain ⟨middle, left, ran, continued⟩ := run_bind_eq_ok.mp found
  have shorter := progresses input middle left ran
  have suffix := ((next middle).leaves_suffix continued).length_le
  omega

theorem word16_progresses : word16.Progresses := octet_progresses.bind _

theorem counted_progresses : counted.Progresses := octet_progresses.bind _

/-- The values read one after the other until the reader fails, and what it failed on. -/
def repeated (reader : Reader α) (progresses : reader.Progresses) (input : Octets) :
    List α × Octets :=
  match ran : reader.run input with
  | .error _ => ([], input)
  | .ok (value, rest) =>
      have _shorter := progresses input value rest ran
      let (values, left) := repeated reader progresses rest
      (value :: values, left)
termination_by input.length
decreasing_by exact _shorter

/-- Repeats a reader to the end of its input; anything it cannot read there is a truncation. -/
def untilEnd (reader : Reader α) (progresses : reader.Progresses) : Reader (List α) where
  run input :=
    match repeated reader progresses input with
    | (values, []) => .ok (values, [])
    | (_, _ :: _) => .error .truncated
  leaves_suffix found := by
    split at found <;> cases found
    exact List.nil_suffix

variable {reader : Reader α} {progresses : reader.Progresses}

theorem repeated_of_error {input : Octets} {cause : ReadError}
    (ran : reader.run input = .error cause) : repeated reader progresses input = ([], input) := by
  rw [repeated]
  split
  · rfl
  · rename_i found
    rw [ran] at found
    cases found

theorem repeated_of_ok {input rest : Octets} {value : α}
    (ran : reader.run input = .ok (value, rest)) :
    repeated reader progresses input =
      (value :: (repeated reader progresses rest).1, (repeated reader progresses rest).2) := by
  rw [repeated]
  split
  · rename_i found
    rw [ran] at found
    cases found
  · rename_i found
    rw [ran] at found
    cases found
    rfl

end ProgrammeGuide.Reader
