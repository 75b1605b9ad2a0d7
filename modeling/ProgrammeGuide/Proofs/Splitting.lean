import ProgrammeGuide.Proofs.FixedWidth
import ProgrammeGuide.Proofs.ReadBack

/-!
Buffers that hold one section after another. Such a buffer falls in just one way into whole
sections, each as long as its own length field says, and a tail that holds no further section.
Splitting finds that way, a walk from section to section finds the same, and where a section is
long enough to be read, its length field and the place of its checksum agree.
-/

namespace ProgrammeGuide

theorem SectionHeader.length_of_run {tableId lengthHigh lengthLow : UInt8} {rest left : Octets}
    {header : SectionHeader}
    (ran : SectionHeader.reader.run (tableId :: lengthHigh :: lengthLow :: rest) =
      .ok (header, left)) : header.length = length12 lengthHigh lengthLow := by
  obtain ⟨_, _, first, ran⟩ := Reader.run_bind_eq_ok.mp ran
  obtain ⟨high, _, second, ran⟩ := Reader.run_bind_eq_ok.mp ran
  obtain ⟨low, _, third, ran⟩ := Reader.run_bind_eq_ok.mp ran
  cases first
  cases second
  cases third
  obtain ⟨_, _, _, ran⟩ := Reader.run_bind_eq_ok.mp ran
  obtain ⟨_, _, _, ran⟩ := Reader.run_bind_eq_ok.mp ran
  obtain ⟨_, _, _, ran⟩ := Reader.run_bind_eq_ok.mp ran
  obtain ⟨_, _, _, ran⟩ := Reader.run_bind_eq_ok.mp ran
  cases ran
  rfl

namespace Section

/-- Not stuffing, and as long as the own length field says. -/
def Whole : Octets → Prop
  | tableId :: lengthHigh :: lengthLow :: rest =>
      tableId ≠ stuffing ∧ rest.length = (length12 lengthHigh lengthLow).toNat
  | _ => False

/-- The length field is cut off, or stuffing has begun, or the section goes beyond the end. -/
def Exhausted : Octets → Prop
  | tableId :: lengthHigh :: lengthLow :: rest =>
      tableId = stuffing ∨ rest.length < (length12 lengthHigh lengthLow).toNat
  | _ => True

theorem spanned_run {tableId lengthHigh lengthLow : UInt8} (rest : Octets) :
    spanned.run (tableId :: lengthHigh :: lengthLow :: rest) =
      if tableId = stuffing then .error .truncated
      else ((Reader.take (length12 lengthHigh lengthLow).toNat).run rest).map fun (taken, left) =>
        (tableId :: lengthHigh :: lengthLow :: taken, left) := by
  unfold spanned
  rw [Reader.run_bind]
  simp only [Reader.run_octet_cons]
  by_cases stuffed : tableId = stuffing
  · rw [if_pos stuffed, if_pos stuffed]
    rfl
  · rw [if_neg stuffed, if_neg stuffed]
    simp only [Reader.run_bind, Reader.run_octet_cons]
    cases (Reader.take (length12 lengthHigh lengthLow).toNat).run rest <;> rfl

theorem spanned_run_cases (pending : Octets) :
    (∃ piece rest, Whole piece ∧ pending = piece ++ rest ∧
      spanned.run pending = .ok (piece, rest)) ∨
    (Exhausted pending ∧ spanned.run pending = .error .truncated) := by
  match pending with
  | [] => exact Or.inr ⟨trivial, rfl⟩
  | [tableId] | [tableId, lengthHigh] =>
      refine Or.inr ⟨trivial, ?_⟩
      by_cases stuffed : tableId = stuffing <;>
        simp [spanned, Reader.run_bind, Reader.fail, stuffed]
  | tableId :: lengthHigh :: lengthLow :: rest =>
      rw [spanned_run]
      by_cases stuffed : tableId = stuffing
      · exact Or.inr ⟨Or.inl stuffed, if_pos stuffed⟩
      · rw [if_neg stuffed]
        by_cases short : rest.length < (length12 lengthHigh lengthLow).toNat
        · refine Or.inr ⟨Or.inr short, ?_⟩
          rw [Reader.run_take_eq_error short]
          rfl
        · have size : (rest.take (length12 lengthHigh lengthLow).toNat).length =
              (length12 lengthHigh lengthLow).toNat := by
            rw [List.length_take]
            omega
          have split := (List.take_append_drop (length12 lengthHigh lengthLow).toNat rest).symm
          refine Or.inl ⟨tableId :: lengthHigh :: lengthLow :: _, _, ⟨stuffed, size⟩,
            congrArg (tableId :: lengthHigh :: lengthLow :: ·) split, ?_⟩
          rw [Reader.run_take_eq_ok.mpr ⟨size, split⟩]
          rfl

theorem spanned_run_append {piece : Octets} (whole : Whole piece) (rest : Octets) :
    spanned.run (piece ++ rest) = .ok (piece, rest) := by
  match piece, whole with
  | tableId :: lengthHigh :: lengthLow :: others, ⟨genuine, size⟩ =>
      rw [List.cons_append, List.cons_append, List.cons_append, spanned_run, if_neg genuine,
        Reader.run_take_eq_ok.mpr ⟨size, rfl⟩]
      rfl

theorem not_exhausted_append {piece : Octets} (whole : Whole piece) (rest : Octets) :
    ¬Exhausted (piece ++ rest) := by
  match piece, whole with
  | tableId :: lengthHigh :: lengthLow :: others, ⟨genuine, size⟩ =>
      rintro (stuffed | short)
      · exact genuine stuffed
      · rw [List.append_eq, List.length_append] at short
        omega

theorem spanned_run_of_exhausted {tail : Octets} (exhausted : Exhausted tail) :
    spanned.run tail = .error .truncated := by
  rcases spanned_run_cases tail with ⟨piece, rest, whole, rfl, _⟩ | ⟨_, stopped⟩
  · exact absurd exhausted (not_exhausted_append whole rest)
  · exact stopped

/-- Induction along a buffer: from its tail, and from behind a whole section to before it. -/
theorem pieces_induction {motive : Octets → Prop}
    (exhausted : ∀ tail, Exhausted tail → motive tail)
    (whole : ∀ piece rest, Whole piece → motive rest → motive (piece ++ rest))
    (buffer : Octets) : motive buffer := by
  induction buffer using spanned_progresses.induction with
  | stuck pending cause ran =>
      rcases spanned_run_cases pending with ⟨_, _, _, _, found⟩ | ⟨stopped, _⟩
      · cases ran.symm.trans found
      · exact exhausted pending stopped
  | step pending value rest ran ih =>
      rcases spanned_run_cases pending with ⟨piece, left, sound, split, found⟩ | ⟨_, failed⟩
      · cases ran.symm.trans found
        rw [split]
        exact whole value rest sound ih
      · cases ran.symm.trans failed

theorem split_of_exhausted {tail : Octets} (exhausted : Exhausted tail) : split tail = [] := by
  rw [split, Reader.repeated_of_error (spanned_run_of_exhausted exhausted)]

theorem split_append {piece : Octets} (whole : Whole piece) (rest : Octets) :
    split (piece ++ rest) = piece :: split rest := by
  rw [split, Reader.repeated_of_ok (spanned_run_append whole rest), split]

theorem split_flatten_append {pieces : List Octets} (whole : ∀ piece ∈ pieces, Whole piece)
    {tail : Octets} (exhausted : Exhausted tail) : split (pieces.flatten ++ tail) = pieces := by
  induction pieces with
  | nil => exact split_of_exhausted exhausted
  | cons piece others ih =>
      obtain ⟨own, rest⟩ := List.forall_mem_cons.mp whole
      rw [List.flatten_cons, List.append_assoc, split_append own, ih rest]

theorem exists_tail (buffer : Octets) :
    ∃ tail, buffer = (split buffer).flatten ++ tail ∧ (∀ piece ∈ split buffer, Whole piece) ∧
      Exhausted tail := by
  induction buffer using pieces_induction with
  | exhausted tail stopped =>
      rw [split_of_exhausted stopped]
      exact ⟨tail, rfl, by simp, stopped⟩
  | whole piece rest sound ih =>
      obtain ⟨tail, tiles, others, stopped⟩ := ih
      rw [split_append sound]
      refine ⟨tail, ?_, List.forall_mem_cons.mpr ⟨sound, others⟩, stopped⟩
      rw [List.flatten_cons, List.append_assoc, ← tiles]

/-- One step of a walk through a buffer: the next section and what is left after it. Where there is
none, whatever is left from a length field on is given up. -/
def next (pending : Octets) : Option Octets × Octets :=
  match spanned.run pending with
  | .ok (piece, rest) => (some piece, rest)
  | .error _ => (none, if pending.length < 3 then pending else [])

/-- What so many steps of a walk find. -/
def found : Nat → Octets → List (Option Octets)
  | 0, _ => []
  | steps + 1, pending => (next pending).1 :: found steps (next pending).2

theorem next_append {piece : Octets} (whole : Whole piece) (rest : Octets) :
    next (piece ++ rest) = (some piece, rest) := by
  rw [next, spanned_run_append whole]

theorem next_of_exhausted {tail : Octets} (exhausted : Exhausted tail) :
    (next tail).1 = none ∧ Exhausted (next tail).2 := by
  rw [next, spanned_run_of_exhausted exhausted]
  refine ⟨rfl, ?_⟩
  by_cases short : tail.length < 3
  · simpa [short] using exhausted
  · simp [short, Exhausted]

/-- A walk finds the sections of the buffer in order, and nothing ever after. -/
theorem found_eq (steps : Nat) (buffer : Octets) :
    found steps buffer = (List.range steps).map fun step => (split buffer)[step]? := by
  induction steps generalizing buffer with
  | zero => rfl
  | succ steps ih =>
      rw [found, ih, List.range_succ_eq_map, List.map_cons, List.map_map]
      rcases spanned_run_cases buffer with ⟨piece, rest, whole, rfl, _⟩ | ⟨exhausted, _⟩
      · rw [next_append whole, split_append whole]
        rfl
      · obtain ⟨none, still⟩ := next_of_exhausted exhausted
        rw [none, split_of_exhausted exhausted, split_of_exhausted still]
        rfl

/-- The checksum is found by the end of the buffer and not by the length field, but here the two
agree. -/
theorem read_of_whole {piece : Octets} (whole : Whole piece) (long : 12 ≤ piece.length) :
    ∃ found, Section.read piece = .ok found ∧
      found.body.length + 9 = found.header.length.toNat := by
  obtain ⟨header, checksum, headed, ran⟩ := read_of_long long
  refine ⟨_, ran, ?_⟩
  match piece, whole with
  | tableId :: lengthHigh :: lengthLow :: rest, ⟨_, size⟩ =>
      have front : (tableId :: lengthHigh :: lengthLow :: rest).length - 4 =
          rest.length - 4 + 3 := by
        simp only [List.length_cons] at long ⊢
        omega
      rw [front, List.take_succ_cons, List.take_succ_cons, List.take_succ_cons] at headed
      rw [SectionHeader.length_of_run headed, ← size]
      simp only [List.length_cons] at long
      simp only [List.length_drop, List.length_take, List.length_cons]
      omega

/-- A buffer is split into whole sections and a tail without one, which can be done in one way only.
A walk through it finds the same sections and then nothing, however often it is asked. In a section
of twelve octets or more, the body is what its length field leaves for it. -/
theorem split_eq_iff (buffer : Octets) :
    (∀ pieces, split buffer = pieces ↔
      ∃ tail, buffer = pieces.flatten ++ tail ∧ (∀ piece ∈ pieces, Whole piece) ∧
        Exhausted tail) ∧
    (∀ steps, found steps buffer =
      (List.range steps).map fun step => (split buffer)[step]?) ∧
    ∀ piece ∈ split buffer, 12 ≤ piece.length →
      ∃ found, Section.read piece = .ok found ∧
        found.body.length + 9 = found.header.length.toNat := by
  refine ⟨?_, fun steps => found_eq steps buffer, ?_⟩
  · intro pieces
    constructor
    · rintro rfl
      exact exists_tail buffer
    · rintro ⟨tail, rfl, whole, exhausted⟩
      exact split_flatten_append whole exhausted
  · intro piece member long
    obtain ⟨_, _, whole, _⟩ := exists_tail buffer
    exact read_of_whole (whole piece member) long

/-- A section without a header, one with two octets of body, and stuffing. -/
theorem split_eq_iff_stuffed :
    let bare : Octets := [0x50, 0xF0, 0x00]
    let full : Octets := [0x50, 0xF0, 0x0B, 0x00, 0x01, 0xC1, 0x00, 0x00, 0xAA, 0xBB, 0x12, 0x34,
      0x56, 0x78]
    let buffer : Octets := bare ++ full ++ [0xFF, 0xFF, 0xFF, 0xFF]
    split buffer = [bare, full] ∧ found 4 buffer = [some bare, some full, none, none] ∧
      ∃ found, Section.read full = .ok found ∧
        found.body.length + 9 = found.header.length.toNat := by
  intro bare full buffer
  obtain ⟨exactly, walked, read⟩ := split_eq_iff buffer
  have whole : ∀ piece ∈ [bare, full], Whole piece := by
    intro piece member
    simp only [List.mem_cons, List.not_mem_nil, or_false] at member
    rcases member with rfl | rfl
    · exact ⟨by decide, rfl⟩
    · exact ⟨by decide, rfl⟩
  have pieces : split buffer = [bare, full] :=
    (exactly _).mpr ⟨[0xFF, 0xFF, 0xFF, 0xFF], rfl, whole, Or.inl rfl⟩
  refine ⟨pieces, ?_, ?_⟩
  · rw [walked, pieces]
    rfl
  · refine read full ?_ (by decide)
    rw [pieces]
    simp

end Section

end ProgrammeGuide
