import ProgrammeGuide.EventTable.Section

/-!
Readers of a fixed width. They look at the front of their input alone and fail only where it is
too short. The headers of a section are such readers, and so a buffer is a section of an event
table as soon as it is long enough.
-/

namespace ProgrammeGuide

namespace Reader

variable {α β : Type}

structure HasWidth (reader : Reader α) (width : Nat) : Prop where
  reads : ∀ taken : Octets, taken.length = width →
    ∃ value, ∀ rest, reader.run (taken ++ rest) = .ok (value, rest)
  truncates : ∀ input : Octets, input.length < width → reader.run input = .error .truncated

theorem hasWidth_pure (value : α) : (pure value : Reader α).HasWidth 0 := by
  constructor
  · intro taken none
    rw [List.eq_nil_of_length_eq_zero none]
    exact ⟨value, fun rest => rfl⟩
  · intro input short
    omega

theorem hasWidth_octet : octet.HasWidth 1 := by
  constructor
  · intro taken one
    obtain ⟨first, rfl⟩ := List.length_eq_one_iff.mp one
    exact ⟨first, fun rest => rfl⟩
  · intro input short
    obtain rfl : input = [] := List.eq_nil_of_length_eq_zero (by omega)
    rfl

theorem HasWidth.run_eq {reader : Reader α} {width : Nat} (fixed : reader.HasWidth width)
    {input : Octets} (enough : width ≤ input.length) :
    ∃ value, reader.run input = .ok (value, input.drop width) := by
  obtain ⟨value, found⟩ := fixed.reads (input.take width) (List.length_take_of_le enough)
  have ran := found (input.drop width)
  rw [List.take_append_drop] at ran
  exact ⟨value, ran⟩

theorem HasWidth.bind {first : Reader α} {next : α → Reader β} {width more : Nat}
    (start : first.HasWidth width) (continued : ∀ value, (next value).HasWidth more) :
    (first >>= next).HasWidth (width + more) := by
  constructor
  · intro taken both
    obtain ⟨middle, ran⟩ := start.reads (taken.take width) (by simp [both])
    obtain ⟨value, ended⟩ := (continued middle).reads (taken.drop width) (by simp [both])
    refine ⟨value, fun rest => ?_⟩
    refine run_bind_eq_ok.mpr ⟨middle, taken.drop width ++ rest, ?_, ended rest⟩
    rw [← ran, ← List.append_assoc, List.take_append_drop]
  · intro input short
    rw [run_bind]
    by_cases enough : width ≤ input.length
    · obtain ⟨middle, ran⟩ := start.run_eq enough
      have cut : (input.drop width).length < more := by
        rw [List.length_drop]
        omega
      simp only [ran, (continued middle).truncates _ cut]
    · simp only [start.truncates input (by omega)]

theorem hasWidth_word16 : word16.HasWidth 2 :=
  hasWidth_octet.bind fun _ => hasWidth_octet.bind fun _ => hasWidth_pure _

theorem hasWidth_word32 : word32.HasWidth 4 :=
  hasWidth_octet.bind fun _ => hasWidth_octet.bind fun _ => hasWidth_octet.bind fun _ =>
    hasWidth_octet.bind fun _ => hasWidth_pure _

end Reader

theorem DescriptorHeader.hasWidth_reader : DescriptorHeader.reader.HasWidth 2 :=
  Reader.hasWidth_octet.bind fun _ => Reader.hasWidth_octet.bind fun _ => Reader.hasWidth_pure _

theorem SectionHeader.hasWidth_reader : SectionHeader.reader.HasWidth 8 :=
  Reader.hasWidth_octet.bind fun _ => Reader.hasWidth_octet.bind fun _ =>
    Reader.hasWidth_octet.bind fun _ => Reader.hasWidth_word16.bind fun _ =>
    Reader.hasWidth_octet.bind fun _ => Reader.hasWidth_octet.bind fun _ =>
    Reader.hasWidth_octet.bind fun _ => Reader.hasWidth_pure _

theorem EventTableHeader.hasWidth_reader : EventTableHeader.reader.HasWidth 6 :=
  Reader.hasWidth_word16.bind fun _ => Reader.hasWidth_word16.bind fun _ =>
    Reader.hasWidth_octet.bind fun _ => Reader.hasWidth_octet.bind fun _ => Reader.hasWidth_pure _

theorem Section.read_of_short {buffer : Octets} (short : buffer.length < 12) :
    Section.read buffer = .error .truncated := by
  unfold Section.read
  simp only [short, if_true]
  rfl

/-- The body lies between the eight octets of the header and the four of the checksum. -/
theorem Section.read_of_long {buffer : Octets} (long : 12 ≤ buffer.length) :
    ∃ header checksum,
      SectionHeader.reader.run (buffer.take (buffer.length - 4)) =
        .ok (header, (buffer.take (buffer.length - 4)).drop 8) ∧
      Section.read buffer =
        .ok ⟨header, (buffer.take (buffer.length - 4)).drop 8, checksum⟩ := by
  have front : 8 ≤ (buffer.take (buffer.length - 4)).length := by
    rw [List.length_take]
    omega
  have back : 4 ≤ (buffer.drop (buffer.length - 4)).length := by
    rw [List.length_drop]
    omega
  obtain ⟨header, headed⟩ := SectionHeader.hasWidth_reader.run_eq front
  obtain ⟨checksum, ended⟩ := Reader.hasWidth_word32.run_eq back
  refine ⟨header, checksum, headed, ?_⟩
  unfold Section.read
  simp only [Nat.not_lt.mpr long, if_false, headed, Reader.parse, ended]
  rfl

theorem EventSection.read_of_short {buffer : Octets} (short : buffer.length < 18) :
    EventSection.read buffer = .error .truncated := by
  unfold EventSection.read
  by_cases long : 12 ≤ buffer.length
  · obtain ⟨header, checksum, _, plain⟩ := Section.read_of_long long
    have cut : ((buffer.take (buffer.length - 4)).drop 8).length < 6 := by
      rw [List.length_drop, List.length_take]
      omega
    have failed := EventTableHeader.hasWidth_reader.truncates _ cut
    simp only [plain, bind, Except.bind, failed]
  · rw [Section.read_of_short (by omega)]
    rfl

theorem EventSection.read_of_long {buffer : Octets} (long : 18 ≤ buffer.length) :
    ∃ received, EventSection.read buffer = .ok received := by
  obtain ⟨header, checksum, _, plain⟩ := Section.read_of_long (Nat.le_trans (by omega) long)
  have enough : 6 ≤ ((buffer.take (buffer.length - 4)).drop 8).length := by
    rw [List.length_drop, List.length_take]
    omega
  obtain ⟨table, ran⟩ := EventTableHeader.hasWidth_reader.run_eq enough
  unfold EventSection.read
  simp only [plain, bind, Except.bind, ran]
  exact ⟨_, rfl⟩

end ProgrammeGuide
