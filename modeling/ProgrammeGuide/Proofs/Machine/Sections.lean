import ProgrammeGuide.Proofs.EventLoop
import ProgrammeGuide.Proofs.Machine.Bodies

/-!
Sections of an event table, read by position from the whole buffer down to the bodies of the
descriptors. Everything in a buffer of fewer octets than the bound of sizes is itself of fewer, so
there is an outcome at every level, and it is the one that the readers give.
-/

namespace ProgrammeGuide.Machine

/-- An attempt at the body of a descriptor, under the bound of all sizes. -/
abbrev BodyAttempt (α : Type) := Nat → Octets → Option (Except ReadError α)

section Registry

variable {α β : Type}

/-- Patterns that match the whole of a body, which is never a partial operation. -/
def matched (α : Type) [DescriptorBody α] : BodyAttempt α :=
  fun _ body => some (DescriptorBody.read body)

def tabled (size : Nat) (entryOf? : Octets → Option β) (wrap : List β → α) : BodyAttempt α :=
  fun _ body => (table? size entryOf? body).map (Except.map wrap)

def attempted (tag : UInt8) (attempt : BodyAttempt α) (wrap : α → Descriptor) :
    UInt8 × BodyAttempt Descriptor :=
  (tag, fun sizes body => (attempt sizes body).map (Except.map wrap))

def registry : List (UInt8 × BodyAttempt Descriptor) :=
  [attempted 0x42 (matched Stuffing) .stuffing,
    attempted 0x48 Attempt.service.parse .service,
    attempted 0x4A Attempt.linkage.parse .linkage,
    attempted 0x4D Attempt.shortEvent.parse .shortEvent,
    attempted 0x4E Attempt.extendedEvent.parse .extendedEvent,
    attempted 0x4F Attempt.timeShiftedEvent.parse .timeShiftedEvent,
    attempted 0x50 Attempt.component.parse .component,
    attempted 0x53 (tabled 2 Attempt.accessSystem? .mk) .conditionalAccess,
    attempted 0x54 (tabled 2 Attempt.genre? .mk) .content,
    attempted 0x55 (tabled 4 Attempt.rating? .mk) .parentalRating,
    attempted 0x57 Attempt.telephone.parse .telephone,
    attempted 0x5E Attempt.multilingualComponent.parse .multilingualComponent,
    attempted 0x5F Attempt.privateDataSpecifier.parse .privateDataSpecifier,
    attempted 0x61 (matched ShortSmoothingBuffer) .shortSmoothingBuffer,
    attempted 0x64 Attempt.dataBroadcast.parse .dataBroadcast,
    attempted 0x69 (matched DeliveryControl) .deliveryControl]

def descriptor? (sizes : Nat) (raw : RawDescriptor) : Option (Except ReadError Descriptor) :=
  match registry.lookup raw.tag with
  | some attempt => attempt sizes raw.body
  | none => some (.ok (.unsupported raw.tag))

/-- The same tag, and the outcome of the reader for every body that is not too long. -/
structure Agrees (attempt : UInt8 × BodyAttempt Descriptor)
    (entry : UInt8 × Descriptor.BodyReader) : Prop where
  tag : attempt.1 = entry.1
  outcome : ∀ {sizes : Nat} {body : Octets}, body.length < sizes →
    attempt.2 sizes body = some (entry.2 body)

theorem agrees_attempted [DescriptorBody α] {tag : UInt8} {attempt : BodyAttempt α}
    (wrap : α → Descriptor)
    (outcome : ∀ {sizes : Nat} {body : Octets}, body.length < sizes →
      attempt sizes body = some (DescriptorBody.read body)) :
    Agrees (attempted tag attempt wrap) (Descriptor.entry tag wrap) := by
  refine ⟨rfl, fun addressable => ?_⟩
  exact congrArg (Option.map (Except.map wrap)) (outcome addressable)

theorem tabled_eq {size : Nat} {entryOf? : Octets → Option β} {entries : Octets → List β}
    (positive : 0 < size) (short : ∀ body, body.length < size → entries body = [])
    (next : ∀ taken rest, taken.length = size →
      ∃ value, entryOf? taken = some value ∧ entries (taken ++ rest) = value :: entries rest)
    (wrap : List β → α) (sizes : Nat) (body : Octets) :
    tabled size entryOf? wrap sizes body =
      some (if body.length % size = 0 then .ok (wrap (entries body))
        else .error .malformedLength) := by
  rw [tabled, table?, mapM_chunks positive short next]
  split_ifs <;> rfl

theorem tabled_conditionalAccess (sizes : Nat) (body : Octets) :
    tabled 2 Attempt.accessSystem? ConditionalAccess.mk sizes body =
      some (DescriptorBody.read body) := by
  refine tabled_eq (by decide) ?_ ?_ ConditionalAccess.mk sizes body
  · rintro (_ | ⟨first, _ | ⟨second, rest⟩⟩) short
    · rfl
    · rfl
    · exact absurd short (Nat.not_lt.mpr (Nat.le_add_left 2 _))
  · intro taken rest whole
    obtain ⟨high, low, rfl⟩ := List.length_eq_two.mp whole
    exact ⟨_, rfl, rfl⟩

theorem tabled_content (sizes : Nat) (body : Octets) :
    tabled 2 Attempt.genre? Content.mk sizes body = some (DescriptorBody.read body) := by
  refine tabled_eq (by decide) ?_ ?_ Content.mk sizes body
  · rintro (_ | ⟨first, _ | ⟨second, rest⟩⟩) short
    · rfl
    · rfl
    · exact absurd short (Nat.not_lt.mpr (Nat.le_add_left 2 _))
  · intro taken rest whole
    obtain ⟨nibbles, user, rfl⟩ := List.length_eq_two.mp whole
    exact ⟨_, rfl, rfl⟩

theorem tabled_parentalRating (sizes : Nat) (body : Octets) :
    tabled 4 Attempt.rating? ParentalRating.mk sizes body = some (DescriptorBody.read body) := by
  refine tabled_eq (by decide) ?_ ?_ ParentalRating.mk sizes body
  · rintro (_ | ⟨first, _ | ⟨second, _ | ⟨third, _ | ⟨rating, rest⟩⟩⟩⟩) short
    · rfl
    · rfl
    · rfl
    · rfl
    · exact absurd short (Nat.not_lt.mpr (Nat.le_add_left 4 _))
  · rintro (_ | ⟨first, _ | ⟨second, _ | ⟨third, _ | ⟨rating, _ | ⟨more, others⟩⟩⟩⟩⟩) rest whole <;>
      cases whole
    exact ⟨_, rfl, rfl⟩

theorem registry_agrees : List.Forall₂ Agrees registry Descriptor.registry :=
  .cons (agrees_attempted _ fun _ => rfl) <|
  .cons (agrees_attempted _ Attempt.follows_service.parse) <|
  .cons (agrees_attempted _ Attempt.follows_linkage.parse) <|
  .cons (agrees_attempted _ Attempt.follows_shortEvent.parse) <|
  .cons (agrees_attempted _ Attempt.follows_extendedEvent.parse) <|
  .cons (agrees_attempted _ Attempt.follows_timeShiftedEvent.parse) <|
  .cons (agrees_attempted _ Attempt.follows_component.parse) <|
  .cons (agrees_attempted _ fun _ => tabled_conditionalAccess _ _) <|
  .cons (agrees_attempted _ fun _ => tabled_content _ _) <|
  .cons (agrees_attempted _ fun _ => tabled_parentalRating _ _) <|
  .cons (agrees_attempted _ Attempt.follows_telephone.parse) <|
  .cons (agrees_attempted _ Attempt.follows_multilingualComponent.parse) <|
  .cons (agrees_attempted _ Attempt.follows_privateDataSpecifier.parse) <|
  .cons (agrees_attempted _ fun _ => rfl) <|
  .cons (agrees_attempted _ Attempt.follows_dataBroadcast.parse) <|
  .cons (agrees_attempted _ fun _ => rfl) .nil

theorem descriptor?_eq {sizes : Nat} {raw : RawDescriptor} (addressable : raw.body.length < sizes) :
    descriptor? sizes raw = some (Descriptor.read raw) := by
  rw [descriptor?, Descriptor.read, Descriptor.bodyReader?]
  obtain ⟨missing, absent⟩ | ⟨attempt, readBody, found, present, agrees⟩ :=
    lookup_of_related Agrees.tag registry_agrees raw.tag
  · rw [missing, absent]
  · rw [found, present]
    exact agrees.outcome addressable

end Registry

namespace Attempt

/-- The tag and the length as one array, and the body as declared; all of it or nothing. -/
def rawDescriptor : Attempt RawDescriptor := atomically do
  let header ← array 2 DescriptorHeader.reader
  let body ← declared header.length.toNat
  pure { tag := header.tag, body }

/-- A failure leaves nothing unread. -/
def draining {α : Type} (attempt : Attempt α) : Attempt α :=
  tryCatch attempt fun cause => do
    let _ ← takeRest
    throw cause

def eventRecord : Attempt EventRecord := do
  let head ← draining (array 12 EventHead.reader)
  let descriptors ← declaredOrRest head.length.toNat
  pure (head.record descriptors)

variable {sizes : Nat}

/-- A descriptor that blames its length if the body is cut off. -/
def declaredDescriptor : Reader RawDescriptor := do
  let header ← DescriptorHeader.reader
  let body ← (Reader.take header.length.toNat).declared
  pure { tag := header.tag, body }

theorem follows_rawDescriptor : Follows sizes rawDescriptor declaredDescriptor :=
  Follows.atomically ((follows_array DescriptorHeader.hasWidth_reader).bind fun header =>
    (follows_take header.length.toNat).declared.bind fun _ => follows_pure _)

theorem run_declaredDescriptor_iff (input : Octets) (raw : RawDescriptor) (rest : Octets) :
    declaredDescriptor.run input = .ok (raw, rest) ↔
      RawDescriptor.reader.run input = .ok (raw, rest) := by
  simp only [declaredDescriptor, DescriptorHeader.reader, RawDescriptor.reader, Reader.counted,
    bind_assoc, pure_bind, Reader.run_bind_eq_ok, Reader.run_declared_eq_ok]

theorem declaredDescriptor_progresses : declaredDescriptor.Progresses :=
  fun input raw rest ran =>
    RawDescriptor.reader_progresses input raw rest ((run_declaredDescriptor_iff _ _ _).mp ran)

theorem Follows.draining {α : Type} {attempt : Attempt α} {reader : Reader α}
    (follows : Follows sizes attempt reader) : Follows sizes (draining attempt) reader := by
  constructor
  · intro place value rest sound ran
    obtain ⟨left, leftSound, behind, ranAttempt⟩ := follows.accepts sound ran
    exact ⟨left, leftSound, behind, run_tryCatch_of_ok ranAttempt⟩
  · intro place cause sound ran
    obtain ⟨left, leftSound, ranAttempt⟩ := follows.rejects sound ran
    refine ⟨left.finish, Place.sound_finish leftSound, ?_⟩
    rw [Attempt.draining, run_tryCatch_of_error ranAttempt,
      run_bind_of_ok (run_takeRest leftSound), run_throw]

theorem follows_eventRecord : Follows sizes eventRecord EventRecord.reader := by
  rw [EventRecord.reader_eq]
  exact (follows_array EventHead.hasWidth_reader).draining.bind fun head =>
    (follows_declaredOrRest _).map head.record

end Attempt

section Levels

variable {sizes : Nat}

/-- The descriptors of a block, or why their bodies cannot be read. -/
def descriptors? (sizes : Nat) (block : DescriptorBlock) :
    Option (List (Except ReadError Descriptor)) := do
  let raws ← Attempt.rawDescriptor.valuesIn sizes block.octets
  raws.mapM (descriptor? sizes)

def plainSection? (sizes : Nat) (buffer : Octets) : ExceptT ReadError Option Section := do
  if buffer.length < 12 then throw .truncated else do
    let size ← difference? buffer.length 4
    let front ← slice? buffer 0 size
    let back ← slice? buffer size buffer.length
    let (header, body) ← ExceptT.mk <| Attempt.parse (do
      let header ← Attempt.array 8 SectionHeader.reader
      let body ← Attempt.rest
      pure (header, body)) sizes front
    let checksum ← ExceptT.mk (Attempt.word32.parse sizes back)
    pure { header, body, checksum }

def eventSection? (sizes : Nat) (buffer : Octets) : ExceptT ReadError Option EventSection := do
  let plain ← plainSection? sizes buffer
  let (table, events) ← ExceptT.mk <| Attempt.parse (do
    let table ← Attempt.array 6 EventTableHeader.reader
    let (events, _) ← Attempt.eventRecord.repeated
    pure (table, events)) sizes plain.body
  pure { table, events, header := plain.header, checksum := plain.checksum }

theorem mapM_of_forall {α β : Type} {read : α → Option β} {value : α → β} {entries : List α}
    (reads : ∀ entry ∈ entries, read entry = some (value entry)) :
    entries.mapM read = some (entries.map value) := by
  induction entries with
  | nil => rfl
  | cons entry others ih =>
      obtain ⟨own, rest⟩ := List.forall_mem_cons.mp reads
      rw [List.mapM_cons, own, ih rest]
      rfl

theorem length_body_lt {block : DescriptorBlock} (addressable : block.octets.length < sizes) :
    ∀ raw ∈ block.raw, raw.body.length < sizes := by
  refine Reader.forall_repeated ?_ addressable
  intro input raw rest short ran
  obtain ⟨tag, left, first, ran⟩ := Reader.run_bind_eq_ok.mp ran
  obtain ⟨body, last, second, ended⟩ := Reader.run_bind_eq_ok.mp ran
  cases ended
  obtain rfl := Reader.run_octet_eq_ok.mp first
  obtain ⟨_, rfl⟩ := Reader.run_counted_eq_ok.mp second
  change body.length < sizes
  simp only [counted, List.length_cons, List.length_append] at short
  omega

theorem descriptors?_eq {block : DescriptorBlock} (addressable : block.octets.length < sizes) :
    descriptors? sizes block = some block.parsed := by
  have raws : Attempt.rawDescriptor.valuesIn sizes block.octets = some block.raw := by
    rw [Attempt.follows_rawDescriptor.valuesIn Attempt.declaredDescriptor_progresses addressable]
    exact congrArg (fun found => some found.1)
      (Reader.repeated_congr Attempt.run_declaredDescriptor_iff block.octets)
  have bodies := length_body_lt addressable
  rw [descriptors?, raws]
  exact mapM_of_forall fun raw member => descriptor?_eq (bodies raw member)

theorem given_bind {α β : Type} (value : α) (next : α → ExceptT ReadError Option β) :
    (liftM (some value) : ExceptT ReadError Option α) >>= next = next value := rfl

theorem ok_bind {α β : Type} (value : α) (next : α → ExceptT ReadError Option β) :
    (ExceptT.mk (some (.ok value)) : ExceptT ReadError Option α) >>= next = next value := rfl

theorem length_body_le {buffer : Octets} {plain : Section}
    (found : Section.read buffer = .ok plain) : plain.body.length ≤ buffer.length := by
  rcases Nat.lt_or_ge buffer.length 12 with short | long
  · rw [Section.read_of_short short] at found
    cases found
  · obtain ⟨header, checksum, _, plainly⟩ := Section.read_of_long long
    rw [plainly] at found
    cases found
    simp only [List.length_drop, List.length_take]
    omega

theorem plainSection?_eq {buffer : Octets} (addressable : buffer.length < sizes) :
    plainSection? sizes buffer = some (Section.read buffer) := by
  unfold plainSection? Section.read
  by_cases short : buffer.length < 12
  · simp only [short, if_true]
    rfl
  · have size : difference? buffer.length 4 = some (buffer.length - 4) := if_pos (by omega)
    have front : slice? buffer 0 (buffer.length - 4) =
        some (buffer.take (buffer.length - 4)) := by
      rw [slice?, if_pos (by omega)]
      rfl
    have back : slice? buffer (buffer.length - 4) buffer.length =
        some (buffer.drop (buffer.length - 4)) := by
      rw [slice?, if_pos (by omega), ← List.length_drop, List.take_length]
    have headed := (Attempt.follows_array SectionHeader.hasWidth_reader).parse_rest
      (Nat.lt_of_le_of_lt (List.length_take_le' (buffer.length - 4) buffer) addressable)
    have checked := Attempt.follows_word32.parse
      (Nat.lt_of_le_of_lt (List.drop_sublist (buffer.length - 4) buffer).length_le addressable)
    simp only [short, if_false, size, front, back, headed, checked, given_bind]
    cases SectionHeader.reader.run (buffer.take (buffer.length - 4)) with
    | error cause => rfl
    | ok result =>
        cases Reader.word32.parse (buffer.drop (buffer.length - 4)) <;> rfl

theorem eventSection?_eq {buffer : Octets} (addressable : buffer.length < sizes) :
    eventSection? sizes buffer = some (EventSection.read buffer) := by
  unfold eventSection? EventSection.read
  have opened : plainSection? sizes buffer = ExceptT.mk (some (Section.read buffer)) :=
    plainSection?_eq addressable
  rw [opened]
  cases plainly : Section.read buffer with
  | error cause => rfl
  | ok plain =>
      have within := Nat.lt_of_le_of_lt (length_body_le plainly) addressable
      have parsed := (Attempt.follows_array EventTableHeader.hasWidth_reader).parse_repeated
        Attempt.follows_eventRecord EventRecord.reader_progresses within
      rw [ok_bind, parsed]
      change _ = some (EventTableHeader.reader.run plain.body >>= _)
      cases EventTableHeader.reader.run plain.body <;> rfl

end Levels

end ProgrammeGuide.Machine
