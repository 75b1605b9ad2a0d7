import Mathlib.Data.List.Forall2
import ProgrammeGuide.Descriptor

/-!
What can be said of a descriptor that has been read.
-/

namespace ProgrammeGuide

theorem map_eq_ok_iff {α β : Type} {result : Except ReadError α} {change : α → β} {value : β} :
    result.map change = .ok value ↔ ∃ before, result = .ok before ∧ change before = value := by
  cases result <;> simp [Except.map]

theorem toOption_eq_some_iff {α : Type} {result : Except ReadError α} {value : α} :
    result.toOption = some value ↔ result = .ok value := by
  cases result <;> simp [Except.toOption]

/-- In two tables whose entries are related one by one, each to one with the same key, a key is in
both or in none, and what it stands for is related. -/
theorem lookup_of_related {α β : Type} {related : UInt8 × α → UInt8 × β → Prop}
    (sameKey : ∀ {entry other}, related entry other → entry.1 = other.1)
    {entries : List (UInt8 × α)} {others : List (UInt8 × β)}
    (tables : List.Forall₂ related entries others) (key : UInt8) :
    (entries.lookup key = none ∧ others.lookup key = none) ∨
      ∃ value another, entries.lookup key = some value ∧ others.lookup key = some another ∧
        related (key, value) (key, another) := by
  induction tables with
  | nil => exact .inl ⟨rfl, rfl⟩
  | @cons entry other entries others own rest ih =>
      obtain ⟨named, value⟩ := entry
      obtain ⟨named', another⟩ := other
      obtain rfl : named = named' := sameKey own
      by_cases same : key = named
      · subst same
        exact .inr ⟨value, another, List.lookup_cons_self, List.lookup_cons_self, own⟩
      · have differs : (key == named) = false := beq_eq_false_iff_ne.mpr same
        simp only [List.lookup_cons, differs]
        exact ih

namespace Descriptor

theorem mem_registry_of_bodyReader? {tag : UInt8} {readBody : BodyReader}
    (found : bodyReader? tag = some readBody) : (tag, readBody) ∈ registry := by
  obtain ⟨before, after, split, _⟩ := List.lookup_eq_some_iff.mp found
  rw [split]
  simp

theorem tag_of_read {raw : RawDescriptor} {descriptor : Descriptor}
    (ran : read raw = .ok descriptor) : descriptor.tag = raw.tag := by
  unfold read at ran
  split at ran
  next readBody listed =>
    have member := mem_registry_of_bodyReader? listed
    simp only [registry, entry, List.mem_cons, List.not_mem_nil, or_false, Prod.mk.injEq] at member
    rcases member with ⟨named, rfl⟩ | ⟨named, rfl⟩ | ⟨named, rfl⟩ | ⟨named, rfl⟩ | ⟨named, rfl⟩ |
      ⟨named, rfl⟩ | ⟨named, rfl⟩ | ⟨named, rfl⟩ | ⟨named, rfl⟩ | ⟨named, rfl⟩ | ⟨named, rfl⟩ |
      ⟨named, rfl⟩ | ⟨named, rfl⟩ | ⟨named, rfl⟩ | ⟨named, rfl⟩ | ⟨named, rfl⟩
    all_goals
      obtain ⟨body, _, rfl⟩ := map_eq_ok_iff.mp ran
      exact named.symm
  next =>
    cases ran
    rfl

end Descriptor

theorem ExtendedEvent.number_le {octets : Octets} {body : ExtendedEvent}
    (found : DescriptorBody.read octets = .ok body) : body.number.toNat ≤ 15 := by
  obtain ⟨⟨value, rest⟩, ran, rfl⟩ := map_eq_ok_iff.mp found
  obtain ⟨numbers, _, _, ran⟩ := Reader.run_bind_eq_ok.mp ran
  obtain ⟨_, _, _, ran⟩ := Reader.run_bind_eq_ok.mp ran
  obtain ⟨_, _, _, ran⟩ := Reader.run_bind_eq_ok.mp ran
  obtain ⟨_, _, _, ran⟩ := Reader.run_bind_eq_ok.mp ran
  obtain ⟨_, _, _, ran⟩ := Reader.run_bind_eq_ok.mp ran
  rw [Reader.run_pure] at ran
  cases ran
  exact Nat.le_of_lt_succ (bits_lt 4 4 numbers)

theorem DescriptorBlock.mem_readable_iff {block : DescriptorBlock} {descriptor : Descriptor} :
    descriptor ∈ block.readable ↔ ∃ raw ∈ block.raw, Descriptor.read raw = .ok descriptor := by
  rw [readable, parsed, List.filterMap_map, List.mem_filterMap]
  simp only [Function.comp_apply, toOption_eq_some_iff]

end ProgrammeGuide
