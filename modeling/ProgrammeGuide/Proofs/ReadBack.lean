import Mathlib.Algebra.Group.Nat.Defs
import ProgrammeGuide.Text
import ProgrammeGuide.Time.Duration
import ProgrammeGuide.Time.StartTime

/-!
Octets that a reader takes for a certain value, whatever follows them. Readers in sequence take
what their parts take, one after the other, and so a layout is read back part by part. Where each
value has its words, a repetition finds the longest tiling of an area with them, from its start and
word by whole word; every other tiling is the beginning of it, and what remains may be anything.
-/

namespace ProgrammeGuide

def octets32 (word : UInt32) : Octets :=
  [UInt8.ofNat (word.toNat / 16777216), UInt8.ofNat (word.toNat / 65536),
    UInt8.ofNat (word.toNat / 256), UInt8.ofNat word.toNat]

/-- An octet with the length, then the octets themselves. -/
def counted (octets : Octets) : Octets := UInt8.ofNat octets.length :: octets

theorem length_counted (octets : Octets) : (counted octets).length = octets.length + 1 := rfl

theorem length_eq_toNat {octets : Octets} (short : octets.length < 256) :
    octets.length = (UInt8.ofNat octets.length).toNat := by
  rw [UInt8.toNat_ofNat']
  omega

section Layouts

variable {α : Type} {sent : List α} {layout : α → Octets}

theorem length_le_flatMap {entry : α} (member : entry ∈ sent) :
    (layout entry).length ≤ (sent.flatMap layout).length := by
  obtain ⟨before, after, rfl⟩ := List.append_of_mem member
  simp only [List.flatMap_append, List.flatMap_cons, List.length_append]
  omega

theorem length_flatMap_of_width {width : Nat} (fixed : ∀ entry, (layout entry).length = width) :
    (sent.flatMap layout).length = sent.length * width := by
  induction sent with
  | nil => exact (Nat.zero_mul width).symm
  | cons entry others ih =>
      rw [List.flatMap_cons, List.length_append, fixed entry, ih, List.length_cons, Nat.succ_mul,
        Nat.add_comm]

end Layouts

theorem word16_octets16 (word : UInt16) :
    word16 (UInt8.ofNat (word.toNat / 256)) (UInt8.ofNat word.toNat) = word := by
  have bound := word.toNat_lt
  rw [← UInt16.toNat_inj, word16_toNat, UInt8.toNat_ofNat', UInt8.toNat_ofNat']
  omega

theorem word32_octets32 (word : UInt32) :
    word32 (UInt8.ofNat (word.toNat / 16777216)) (UInt8.ofNat (word.toNat / 65536))
      (UInt8.ofNat (word.toNat / 256)) (UInt8.ofNat word.toNat) = word := by
  have bound := word.toNat_lt
  rw [← UInt32.toNat_inj, word32_toNat]
  simp only [UInt8.toNat_ofNat']
  omega

theorem bits_eq {low width : Nat} {octet value : UInt8}
    (field : octet.toNat / 2 ^ low % 2 ^ width = value.toNat) : bits low width octet = value := by
  rw [← UInt8.toNat_inj, bits_toNat, Nat.shiftRight_eq_div_pow, Nat.one_shiftLeft, field]

theorem flag_eq {position : Nat} {octet : UInt8} {value : Bool}
    (field : octet.toNat / 2 ^ position % 2 = value.toNat) : flag position octet = value := by
  rw [flag, Nat.shiftRight_eq_div_pow, field]
  cases value <;> rfl

theorem flag_toNat (position : Nat) (octet : UInt8) :
    (flag position octet).toNat = octet.toNat / 2 ^ position % 2 := by
  rw [flag, Nat.shiftRight_eq_div_pow]
  have bit : octet.toNat / 2 ^ position % 2 = 0 ∨ octet.toNat / 2 ^ position % 2 = 1 := by omega
  rcases bit with zero | one
  · simp [zero]
  · simp [one]

theorem bits_toNat_pow (low width : Nat) (octet : UInt8) :
    (bits low width octet).toNat = octet.toNat / 2 ^ low % 2 ^ width := by
  rw [bits_toNat, Nat.shiftRight_eq_div_pow, Nat.one_shiftLeft]

namespace Reader

variable {α β : Type}

theorem ext_run {first second : Reader α} (same : ∀ input, first.run input = second.run input) :
    first = second := by
  cases first
  cases second
  congr
  exact funext same

instance : LawfulMonad Reader :=
  LawfulMonad.mk' Reader
    (by
      intro α reader
      refine ext_run fun input => ?_
      change (reader >>= pure).run input = _
      rw [run_bind]
      cases reader.run input <;> rfl)
    (fun _ _ => rfl)
    (by
      intro α β γ first next last
      refine ext_run fun input => ?_
      simp only [run_bind]
      cases first.run input <;> rfl)

def Reads (reader : Reader α) (taken : Octets) (value : α) : Prop :=
  ∀ rest, reader.run (taken ++ rest) = .ok (value, rest)

section Reads

variable {first : Reader α} {next : α → Reader β} {taken more : Octets} {middle : α} {value : β}

theorem Reads.run (reads : first.Reads taken middle) (rest : Octets) :
    first.run (taken ++ rest) = .ok (middle, rest) := reads rest

theorem Reads.run_bind (reads : first.Reads taken middle) (next : α → Reader β) (rest : Octets) :
    (first >>= next).run (taken ++ rest) = (next middle).run rest := by
  rw [Reader.run_bind, reads rest]

theorem Reads.bind (reads : first.Reads taken middle) (continued : (next middle).Reads more value) :
    (first >>= next).Reads (taken ++ more) value := by
  intro rest
  rw [List.append_assoc, reads.run_bind]
  exact continued rest

theorem Reads.bind_pure (reads : first.Reads taken middle) (change : α → β) :
    (first >>= fun value => pure (change value)).Reads taken (change middle) := by
  intro rest
  rw [reads.run_bind, run_pure]

theorem Reads.map (reads : first.Reads taken middle) (change : α → β) :
    (change <$> first).Reads taken (change middle) := by
  rw [map_eq_pure_bind]
  exact reads.bind_pure change

theorem Reads.parse (reads : first.Reads taken middle) (padding : Octets) :
    first.parse (taken ++ padding) = .ok middle := by
  rw [Reader.parse, reads.run]
  rfl

/-- The reader takes the octets for a certain value when nothing follows them. -/
def Fills (reader : Reader α) (taken : Octets) (value : α) : Prop :=
  reader.run taken = .ok (value, [])

theorem Reads.bind_fills (reads : first.Reads taken middle)
    (continued : (next middle).Fills more value) :
    (first >>= next).Fills (taken ++ more) value := by
  rw [Fills, reads.run_bind]
  exact continued

theorem Fills.bind_pure (fills : first.Fills taken middle) (change : α → β) :
    (first >>= fun value => pure (change value)).Fills taken (change middle) := by
  rw [Fills, Reader.run_bind, fills]
  rfl

theorem Fills.parse (fills : first.Fills taken middle) : first.parse taken = .ok middle := by
  rw [Reader.parse, fills]
  rfl

end Reads

theorem reads_octet (octet : UInt8) : Reader.octet.Reads [octet] octet := fun _ => rfl

theorem reads_word16 (word : UInt16) : word16.Reads (octets16 word) word := by
  intro rest
  change Except.ok (ProgrammeGuide.word16 _ _, rest) = _
  rw [word16_octets16]

theorem reads_word32 (word : UInt32) : word32.Reads (octets32 word) word := by
  intro rest
  change Except.ok (ProgrammeGuide.word32 _ _ _ _, rest) = _
  rw [word32_octets32]

theorem reads_take {count : Nat} {taken : Octets} (size : taken.length = count) :
    (take count).Reads taken taken := by
  intro rest
  rw [← size, run_take_append]

theorem reads_takeUpTo {count : Nat} {taken : Octets} (size : taken.length = count) :
    (takeUpTo count).Reads taken taken := by
  intro rest
  simp only [takeUpTo, ← size, List.take_left, List.drop_left]

theorem reads_counted {octets : Octets} (short : octets.length < 256) :
    Reader.counted.Reads (ProgrammeGuide.counted octets) octets :=
  (reads_octet _).bind (reads_take (length_eq_toNat short))

theorem run_octet_eq_ok {input rest : Octets} {first : UInt8} :
    octet.run input = .ok (first, rest) ↔ input = first :: rest := by
  cases input <;> simp

theorem run_word16_eq_ok {input rest : Octets} {word : UInt16} :
    word16.run input = .ok (word, rest) ↔ input = octets16 word ++ rest := by
  constructor
  · intro ran
    obtain ⟨high, behind, first, ran⟩ := run_bind_eq_ok.mp ran
    obtain ⟨low, left, second, ended⟩ := run_bind_eq_ok.mp ran
    cases ended
    rw [run_octet_eq_ok.mp first, run_octet_eq_ok.mp second, octets16_word16]
    rfl
  · rintro rfl
    exact reads_word16 word rest

theorem run_counted_eq_ok {input octets rest : Octets} :
    Reader.counted.run input = .ok (octets, rest) ↔
      octets.length < 256 ∧ input = ProgrammeGuide.counted octets ++ rest := by
  constructor
  · intro ran
    obtain ⟨count, behind, measured, taken⟩ := run_bind_eq_ok.mp ran
    obtain ⟨size, rfl⟩ := run_take_eq_ok.mp taken
    have bound := count.toNat_lt
    rw [← size] at bound
    refine ⟨bound, ?_⟩
    rw [run_octet_eq_ok.mp measured, ProgrammeGuide.counted, size, UInt8.ofNat_toNat]
    rfl
  · rintro ⟨short, rfl⟩
    exact (reads_counted short).run rest

variable {reader : Reader α}

/-- Induction along a repetition: where the reader fails, and from behind a value to before it. -/
theorem Progresses.induction (progresses : reader.Progresses) {motive : Octets → Prop}
    (stuck : ∀ input cause, reader.run input = .error cause → motive input)
    (step : ∀ input value rest, reader.run input = .ok (value, rest) → motive rest → motive input)
    (input : Octets) : motive input := by
  induction length : input.length using Nat.strongRecOn generalizing input with
  | ind size ih =>
      cases ran : reader.run input with
      | error cause => exact stuck input cause ran
      | ok result =>
          have shorter := progresses input result.1 result.2 ran
          exact step input result.1 result.2 ran (ih result.2.length (length ▸ shorter) _ rfl)

theorem repeated_append (progresses : reader.Progresses) {sent : List β} {layout : β → Octets}
    {value : β → α} (reads : ∀ entry ∈ sent, reader.Reads (layout entry) (value entry))
    (rest : Octets) :
    repeated reader progresses (sent.flatMap layout ++ rest) =
      (sent.map value ++ (repeated reader progresses rest).1,
        (repeated reader progresses rest).2) := by
  induction sent with
  | nil => rfl
  | cons entry others ih =>
      have found := (List.forall_mem_cons.mp reads).1.run (others.flatMap layout ++ rest)
      rw [List.flatMap_cons, List.append_assoc, repeated_of_ok found,
        ih (List.forall_mem_cons.mp reads).2]
      rfl

theorem repeated_layouts (progresses : reader.Progresses) {sent : List β} {layout : β → Octets}
    {value : β → α} (reads : ∀ entry ∈ sent, reader.Reads (layout entry) (value entry))
    {rest : Octets} {cause : ReadError} (stuck : reader.run rest = .error cause) :
    repeated reader progresses (sent.flatMap layout ++ rest) = (sent.map value, rest) := by
  rw [repeated_append progresses reads, repeated_of_error stuck, List.append_nil]

theorem fills_takeRest (taken : Octets) : takeRest.Fills taken taken := rfl

theorem fills_untilEnd {progresses : reader.Progresses} {sent : List α} {layout : α → Octets}
    (reads : ∀ entry ∈ sent, reader.Reads (layout entry) entry) {cause : ReadError}
    (stuck : reader.run [] = .error cause) :
    (untilEnd reader progresses).Fills (sent.flatMap layout) sent := by
  have found := repeated_layouts progresses reads stuck
  rw [List.append_nil, List.map_id'] at found
  simp only [Fills, untilEnd, found]

section Tilings

variable {word : α → Octets → Prop}

/-- The reader takes exactly the words of its values off the front of an input. -/
def Spells (reader : Reader α) (word : α → Octets → Prop) : Prop :=
  ∀ input value rest, reader.run input = .ok (value, rest) ↔
    ∃ taken, word value taken ∧ input = taken ++ rest

/-- The area begins with words of the values, one after the other. -/
inductive Tiles (word : α → Octets → Prop) : List α → Octets → Prop
  | done (rest : Octets) : Tiles word [] rest
  | next {value : α} {taken : Octets} {values : List α} {rest : Octets} (own : word value taken)
      (others : Tiles word values rest) : Tiles word (value :: values) (taken ++ rest)

theorem tiles_repeated (spells : reader.Spells word) (progresses : reader.Progresses)
    (area : Octets) : Tiles word (repeated reader progresses area).1 area := by
  induction area using progresses.induction with
  | stuck area cause ran =>
      rw [repeated_of_error ran]
      exact .done area
  | step area value rest ran ih =>
      rw [repeated_of_ok ran]
      obtain ⟨taken, own, rfl⟩ := (spells area value rest).mp ran
      exact .next own ih

theorem Tiles.prefix_repeated (spells : reader.Spells word) (progresses : reader.Progresses)
    {values : List α} {area : Octets} (tiles : Tiles word values area) :
    values <+: (repeated reader progresses area).1 := by
  induction tiles with
  | done rest => exact List.nil_prefix
  | @next value taken values rest own others ih =>
      have ran := (spells (taken ++ rest) value rest).mpr ⟨taken, own, rfl⟩
      rw [repeated_of_ok ran]
      exact List.prefix_cons_inj value |>.mpr ih

end Tilings

end Reader

theorem LetterCode.reads_octets (code : LetterCode) : LetterCode.reader.Reads code.octets code :=
  fun _ => rfl

theorem StartTime.reads_octets (start : StartTime) : StartTime.reader.Reads start.octets start :=
  (Reader.reads_word16 start.dayNumber).bind fun _ => rfl

theorem Duration.reads_octets (duration : Duration) :
    Duration.reader.Reads duration.octets duration := fun _ => rfl

end ProgrammeGuide
