import ProgrammeGuide.Descriptor
import ProgrammeGuide.Proofs.ReadBack

/-!
Blocks of descriptors and their octets. A block falls into whole descriptors, each a tag, a length
and a body, and a remnant in which no descriptor can be read any more.
-/

namespace ProgrammeGuide

namespace RawDescriptor

def octets (raw : RawDescriptor) : Octets := raw.tag :: counted raw.body

theorem length_octets (raw : RawDescriptor) : raw.octets.length = 2 + raw.body.length := by
  simp only [octets, counted, List.length_cons]
  omega

theorem reads_octets {raw : RawDescriptor} (short : raw.body.length < 256) :
    RawDescriptor.reader.Reads raw.octets raw :=
  (Reader.reads_octet raw.tag).bind ((Reader.reads_counted short).bind_pure _)

theorem run_eq_ok_iff {input rest : Octets} {raw : RawDescriptor} :
    RawDescriptor.reader.run input = .ok (raw, rest) ↔
      raw.body.length < 256 ∧ input = raw.octets ++ rest := by
  constructor
  · intro ran
    obtain ⟨tag, behind, tagged, ran⟩ := Reader.run_bind_eq_ok.mp ran
    obtain ⟨body, left, found, done⟩ := Reader.run_bind_eq_ok.mp ran
    obtain ⟨short, rfl⟩ := Reader.run_counted_eq_ok.mp found
    rw [Reader.run_octet_eq_ok] at tagged
    cases done
    exact ⟨short, tagged⟩
  · rintro ⟨short, rfl⟩
    exact (reads_octets short).run rest

/-- Whether the octets hold no whole descriptor: there is no length, or it goes beyond the end. -/
def Incomplete : Octets → Prop
  | [] | [_] => True
  | _ :: length :: rest => rest.length < length.toNat

theorem run_of_incomplete {octets : Octets} (incomplete : Incomplete octets) :
    RawDescriptor.reader.run octets = .error .truncated := by
  match octets, incomplete with
  | [], _ => rfl
  | [_], _ => rfl
  | tag :: length :: rest, short =>
      have cut := Reader.run_take_eq_error short
      unfold RawDescriptor.reader
      rw [Reader.run_bind]
      simp only [Reader.run_octet_cons, Reader.counted, Reader.run_bind, cut]

theorem incomplete_of_error {octets : Octets} {cause : ReadError}
    (failed : RawDescriptor.reader.run octets = .error cause) : Incomplete octets := by
  match octets with
  | [] | [_] => exact trivial
  | tag :: length :: rest =>
      refine Nat.lt_of_not_le fun enough => ?_
      have size : (rest.take length.toNat).length = length.toNat := List.length_take_of_le enough
      have layout : tag :: length :: rest =
          (RawDescriptor.mk tag (rest.take length.toNat)).octets ++ rest.drop length.toNat := by
        simp only [RawDescriptor.octets, counted, size, UInt8.ofNat_toNat, List.cons_append,
          List.take_append_drop]
      have short : (rest.take length.toNat).length < 256 := by
        rw [size]
        exact length.toNat_lt
      cases failed.symm.trans (run_eq_ok_iff.mpr ⟨short, layout⟩)

end RawDescriptor

namespace DescriptorBlock

theorem raw_of_error {octets : Octets} {cause : ReadError}
    (ran : RawDescriptor.reader.run octets = .error cause) :
    (DescriptorBlock.mk octets).raw = [] := by
  rw [raw, Reader.repeated_of_error ran]

theorem raw_of_ok {octets rest : Octets} {first : RawDescriptor}
    (ran : RawDescriptor.reader.run octets = .ok (first, rest)) :
    (DescriptorBlock.mk octets).raw = first :: (DescriptorBlock.mk rest).raw := by
  rw [raw, Reader.repeated_of_ok ran, raw]

theorem repeated_octets {descriptors : List RawDescriptor}
    (short : ∀ raw ∈ descriptors, raw.body.length < 256) {remnant : Octets}
    (incomplete : RawDescriptor.Incomplete remnant) :
    Reader.repeated RawDescriptor.reader RawDescriptor.reader_progresses
      (descriptors.flatMap RawDescriptor.octets ++ remnant) = (descriptors, remnant) := by
  have stuck := RawDescriptor.run_of_incomplete incomplete
  have found := Reader.repeated_layouts RawDescriptor.reader_progresses
    (fun raw member => RawDescriptor.reads_octets (short raw member)) stuck
  rw [found, List.map_id']

theorem raw_octets {descriptors : List RawDescriptor}
    (short : ∀ raw ∈ descriptors, raw.body.length < 256) {remnant : Octets}
    (incomplete : RawDescriptor.Incomplete remnant) :
    (DescriptorBlock.mk (descriptors.flatMap RawDescriptor.octets ++ remnant)).raw =
      descriptors := by
  rw [raw, repeated_octets short incomplete]

theorem rest_octets {descriptors : List RawDescriptor}
    (short : ∀ raw ∈ descriptors, raw.body.length < 256) {remnant : Octets}
    (incomplete : RawDescriptor.Incomplete remnant) :
    (DescriptorBlock.mk (descriptors.flatMap RawDescriptor.octets ++ remnant)).rest =
      remnant := by
  rw [rest, repeated_octets short incomplete]

theorem raw_flatMap {α : Type} {entries : List α} {layout : α → RawDescriptor}
    (short : ∀ entry ∈ entries, (layout entry).body.length < 256) :
    (DescriptorBlock.mk (entries.flatMap fun entry => (layout entry).octets)).raw =
      entries.map layout := by
  have bounded : ∀ raw ∈ entries.map layout, raw.body.length < 256 := by
    intro raw member
    obtain ⟨entry, listed, rfl⟩ := List.mem_map.mp member
    exact short entry listed
  have nothing : RawDescriptor.Incomplete [] := trivial
  have found := raw_octets bounded nothing
  rw [List.append_nil, List.flatMap_map] at found
  exact found

theorem rest_of_error {octets : Octets} {cause : ReadError}
    (failed : RawDescriptor.reader.run octets = .error cause) :
    (DescriptorBlock.mk octets).rest = octets := by
  rw [rest, Reader.repeated_of_error failed]

theorem rest_of_ok {octets remaining : Octets} {first : RawDescriptor}
    (ran : RawDescriptor.reader.run octets = .ok (first, remaining)) :
    (DescriptorBlock.mk octets).rest = (DescriptorBlock.mk remaining).rest := by
  rw [rest, Reader.repeated_of_ok ran, rest]

theorem octets_eq (block : DescriptorBlock) :
    block.octets = block.raw.flatMap RawDescriptor.octets ++ block.rest ∧
      (∀ raw ∈ block.raw, raw.body.length ≤ 255) ∧ RawDescriptor.Incomplete block.rest := by
  obtain ⟨octets⟩ := block
  induction octets using RawDescriptor.reader_progresses.induction with
  | stuck octets cause failed =>
      rw [raw_of_error failed, rest_of_error failed]
      exact ⟨rfl, by simp, RawDescriptor.incomplete_of_error failed⟩
  | step octets first remaining ran ih =>
      obtain ⟨tiles, others, stopped⟩ := ih
      obtain ⟨short, rfl⟩ := RawDescriptor.run_eq_ok_iff.mp ran
      rw [raw_of_ok ran, rest_of_ok ran]
      refine ⟨?_, List.forall_mem_cons.mpr ⟨Nat.le_of_lt_succ short, others⟩, stopped⟩
      rw [List.flatMap_cons, List.append_assoc, ← tiles]

/-- One call of a walk through a block: the next descriptor, and the block behind it. Where there is
none, the walk stays where it is. -/
def call (block : DescriptorBlock) : Option RawDescriptor × DescriptorBlock :=
  match block.next? with
  | some (raw, behind) => (some raw, behind)
  | none => (none, block)

/-- What so many calls find one after the other, and where they lead. -/
def walk : Nat → DescriptorBlock → List (Option RawDescriptor) × DescriptorBlock
  | 0, block => ([], block)
  | calls + 1, block =>
      let later := walk calls block.call.2
      (block.call.1 :: later.1, later.2)

theorem call_of_error {octets : Octets} {cause : ReadError}
    (failed : RawDescriptor.reader.run octets = .error cause) :
    call ⟨octets⟩ = (none, ⟨octets⟩) := by
  simp only [call, next?, failed]

theorem call_of_ok {octets remaining : Octets} {first : RawDescriptor}
    (ran : RawDescriptor.reader.run octets = .ok (first, remaining)) :
    call ⟨octets⟩ = (some first, ⟨remaining⟩) := by
  simp only [call, next?, ran]

theorem walk_of_error {octets : Octets} {cause : ReadError}
    (failed : RawDescriptor.reader.run octets = .error cause) (calls : Nat) :
    walk calls ⟨octets⟩ = (List.replicate calls none, ⟨octets⟩) := by
  induction calls with
  | zero => rfl
  | succ calls ih => rw [walk, call_of_error failed, ih, List.replicate_succ]

/-- A walk finds the descriptors in order, and after the last one it stays before the rest, however
often it is called. -/
theorem walk_eq (block : DescriptorBlock) (more : Nat) :
    walk (block.raw.length + more) block =
      (block.raw.map some ++ List.replicate more none, ⟨block.rest⟩) := by
  obtain ⟨octets⟩ := block
  induction octets using RawDescriptor.reader_progresses.induction with
  | stuck octets cause failed =>
      rw [raw_of_error failed, rest_of_error failed, List.length_nil, Nat.zero_add,
        walk_of_error failed]
      rfl
  | step octets first remaining ran ih =>
      rw [raw_of_ok ran, rest_of_ok ran, List.length_cons, Nat.succ_add, walk, call_of_ok ran, ih]
      rfl

/-- A block falls in just one way into whole descriptors and a remnant that holds none. A walk finds
these descriptors and then, however often it is called, nothing, and it stays before the remnant. -/
theorem raw_eq_iff (block : DescriptorBlock) :
    (∀ descriptors remnant, block.raw = descriptors ∧ block.rest = remnant ↔
      block.octets = descriptors.flatMap RawDescriptor.octets ++ remnant ∧
        (∀ raw ∈ descriptors, raw.body.length ≤ 255) ∧ RawDescriptor.Incomplete remnant) ∧
    ∀ more, walk (block.raw.length + more) block =
      (block.raw.map some ++ List.replicate more none, ⟨block.rest⟩) := by
  refine ⟨fun descriptors remnant => ?_, block.walk_eq⟩
  constructor
  · rintro ⟨rfl, rfl⟩
    exact block.octets_eq
  · obtain ⟨octets⟩ := block
    rintro ⟨rfl, short, incomplete⟩
    have fits : ∀ raw ∈ descriptors, raw.body.length < 256 :=
      fun raw member => Nat.lt_succ_of_le (short raw member)
    exact ⟨raw_octets fits incomplete, rest_octets fits incomplete⟩

/-- Stuffing, a private data specifier, and the header of a descriptor that is cut off. -/
theorem raw_eq_iff_cut :
    let block : DescriptorBlock :=
      ⟨[0x42, 0x02, 0xFF, 0xFF, 0x5F, 0x04, 0x00, 0x00, 0x00, 0x28, 0x4D, 0x10, 0x00]⟩
    let stuffing : RawDescriptor := ⟨0x42, [0xFF, 0xFF]⟩
    let specifier : RawDescriptor := ⟨0x5F, [0x00, 0x00, 0x00, 0x28]⟩
    block.raw = [stuffing, specifier] ∧ block.rest = [0x4D, 0x10, 0x00] ∧
      walk 4 block = ([some stuffing, some specifier, none, none], ⟨[0x4D, 0x10, 0x00]⟩) := by
  intro block stuffing specifier
  obtain ⟨exactly, walked⟩ := raw_eq_iff block
  have short : ∀ raw ∈ [stuffing, specifier], raw.body.length ≤ 255 := by decide
  have incomplete : RawDescriptor.Incomplete [0x4D, 0x10, 0x00] :=
    (by decide : 1 < (0x10 : UInt8).toNat)
  obtain ⟨raw, rest⟩ := (exactly [stuffing, specifier] _).mpr ⟨rfl, short, incomplete⟩
  have called := walked 2
  rw [raw, rest] at called
  exact ⟨raw, rest, called⟩

end DescriptorBlock

end ProgrammeGuide
