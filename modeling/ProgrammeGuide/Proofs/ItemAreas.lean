import ProgrammeGuide.Proofs.Faults
import ProgrammeGuide.Proofs.Grammar

/-!
The area of the items in a fragment of a long description. Its length alone says where the items
end and the text begins: the items have no say in the text, nor the text in the items. An area that
is said to be longer than the body takes the octets of the text as well, and then the fragment is
lost with all its items.
-/

namespace ProgrammeGuide

/-- An item is spelt as its two texts, each with its length. -/
def EventItem.Spelt (item : EventItem) (taken : Octets) : Prop :=
  item.description.length < 256 ∧ item.content.length < 256 ∧ taken = item.layout

theorem EventItem.spells_reader : EventItem.reader.Spells EventItem.Spelt := by
  intro input item rest
  constructor
  · intro ran
    obtain ⟨description, behind, first, ran⟩ := Reader.run_bind_eq_ok.mp ran
    obtain ⟨content, left, second, ended⟩ := Reader.run_bind_eq_ok.mp ran
    obtain ⟨descriptionShort, rfl⟩ := Reader.run_counted_eq_ok.mp first
    obtain ⟨contentShort, rfl⟩ := Reader.run_counted_eq_ok.mp second
    cases ended
    refine ⟨_, ⟨descriptionShort, contentShort, rfl⟩, ?_⟩
    exact (List.append_assoc _ _ _).symm
  · rintro ⟨taken, ⟨descriptionShort, contentShort, rfl⟩, rfl⟩
    exact (Reader.reads_counted descriptionShort).bind
      ((Reader.reads_counted contentShort).bind_pure _) rest

theorem Reader.parse_counted_eq_ok_iff {behind text : Octets} :
    Reader.counted.parse behind = .ok text ↔
      text.length < 256 ∧ ∃ rest, behind = ProgrammeGuide.counted text ++ rest := by
  rw [Reader.parse, map_eq_ok_iff]
  constructor
  · rintro ⟨⟨found, rest⟩, ran, rfl⟩
    obtain ⟨short, split⟩ := Reader.run_counted_eq_ok.mp ran
    exact ⟨short, rest, split⟩
  · rintro ⟨short, rest, split⟩
    exact ⟨(text, rest), Reader.run_counted_eq_ok.mpr ⟨short, split⟩, rfl⟩

namespace ExtendedEvent

/-- The octets of the items, or those that are left for them. -/
def itemArea (areaLength : UInt8) (body : Octets) : Octets := (body.drop 5).take areaLength.toNat

def behindItems (areaLength : UInt8) (body : Octets) : Octets := body.drop (5 + areaLength.toNat)

/-- All that a fragment says apart from its items. -/
def outline (fragment : ExtendedEvent) : ExtendedEvent := { fragment with items := [] }

variable {body other : Octets} {areaLength : UInt8}

theorem read_of_announced (announced : body[4]? = some areaLength) :
    ∃ numbers language,
      body.take 5 = numbers :: (LetterCode.octets language ++ [areaLength]) ∧
      DescriptorBody.read body =
        (Reader.counted.parse (behindItems areaLength body)).map fun text =>
          ({ number := bits 4 4 numbers, lastNumber := bits 0 4 numbers, language,
             items := EventItem.ofArea (itemArea areaLength body), text := ⟨text⟩ } :
            ExtendedEvent) := by
  match body, announced with
  | numbers :: first :: second :: third :: length :: rest, announced =>
      obtain rfl : length = areaLength := Option.some.inj announced
      refine ⟨numbers, ⟨first, second, third⟩, rfl, ?_⟩
      have behind : behindItems length (numbers :: first :: second :: third :: length :: rest) =
          rest.drop length.toNat := by
        rw [behindItems, ← List.drop_drop]
        rfl
      rw [behind]
      -- The header is of a fixed width and the area takes what there is: only the text can fail.
      change ((Reader.counted >>= fun text => pure
        ({ language := ⟨first, second, third⟩
           number := bits 4 4 numbers
           lastNumber := bits 0 4 numbers
           items := EventItem.ofArea (rest.take length.toNat)
           text := ⟨text⟩ } : ExtendedEvent)).run (rest.drop length.toNat)).map Prod.fst = _
      rw [Reader.run_bind, Reader.parse]
      cases Reader.counted.run (rest.drop length.toNat) <;> rfl

theorem items_of_read (announced : body[4]? = some areaLength) {fragment : ExtendedEvent}
    (ran : DescriptorBody.read body = .ok fragment) :
    fragment.items = EventItem.ofArea (itemArea areaLength body) := by
  obtain ⟨numbers, language, _, found⟩ := read_of_announced announced
  rw [found] at ran
  obtain ⟨text, _, rfl⟩ := map_eq_ok_iff.mp ran
  rfl

theorem text_of_read (announced : body[4]? = some areaLength) {fragment : ExtendedEvent}
    (ran : DescriptorBody.read body = .ok fragment) :
    Reader.counted.parse (behindItems areaLength body) = .ok fragment.text.octets := by
  obtain ⟨numbers, language, _, found⟩ := read_of_announced announced
  rw [found] at ran
  obtain ⟨text, parsed, rfl⟩ := map_eq_ok_iff.mp ran
  exact parsed

theorem outline_of_agreement (announced : body[4]? = some areaLength)
    (otherAnnounced : other[4]? = some areaLength) (header : other.take 5 = body.take 5)
    (behind : behindItems areaLength other = behindItems areaLength body) :
    (DescriptorBody.read (α := ExtendedEvent) other).map outline =
      (DescriptorBody.read (α := ExtendedEvent) body).map outline := by
  obtain ⟨numbers, language, front, found⟩ := read_of_announced announced
  obtain ⟨otherNumbers, otherLanguage, otherFront, otherFound⟩ := read_of_announced otherAnnounced
  obtain ⟨rfl, rfl⟩ : otherNumbers = numbers ∧ otherLanguage = language := by
    rw [front, otherFront] at header
    obtain ⟨same, letters⟩ := List.cons.inj header
    refine ⟨same, ?_⟩
    cases language
    cases otherLanguage
    simpa [LetterCode.octets] using letters
  rw [found, otherFound, behind]
  cases Reader.counted.parse (behindItems areaLength body) <;> rfl

/-- A fragment is read exactly if a text with its length follows the area of the items, which goes
as far as its own length says, and this is its text. Its items are the longest that tile the area
from its start. Bodies that agree outside their areas are read alike but for the items, and bodies
that agree inside them have the same items, if they are read. -/
theorem read_announced (announced : body[4]? = some areaLength) :
    ((∃ fragment : ExtendedEvent, DescriptorBody.read body = .ok fragment) ↔
      ∃ text rest, text.length < 256 ∧ behindItems areaLength body = counted text ++ rest) ∧
    (∀ fragment : ExtendedEvent, DescriptorBody.read body = .ok fragment →
      (∃ rest, fragment.text.octets.length < 256 ∧
        behindItems areaLength body = counted fragment.text.octets ++ rest) ∧
      Reader.Tiles EventItem.Spelt fragment.items (itemArea areaLength body) ∧
      ∀ items, Reader.Tiles EventItem.Spelt items (itemArea areaLength body) →
        items <+: fragment.items) ∧
    (∀ other : Octets, other[4]? = some areaLength → other.take 5 = body.take 5 →
      behindItems areaLength other = behindItems areaLength body →
      (DescriptorBody.read (α := ExtendedEvent) other).map outline =
        (DescriptorBody.read (α := ExtendedEvent) body).map outline) ∧
    (∀ (other : Octets) (otherLength : UInt8), other[4]? = some otherLength →
      itemArea otherLength other = itemArea areaLength body →
      ∀ fragment otherFragment : ExtendedEvent, DescriptorBody.read body = .ok fragment →
        DescriptorBody.read other = .ok otherFragment → otherFragment.items = fragment.items) := by
  refine ⟨⟨?_, ?_⟩, ?_, ?_, ?_⟩
  · rintro ⟨fragment, ran⟩
    obtain ⟨short, rest, split⟩ := Reader.parse_counted_eq_ok_iff.mp (text_of_read announced ran)
    exact ⟨fragment.text.octets, rest, short, split⟩
  · rintro ⟨text, rest, short, split⟩
    obtain ⟨numbers, language, _, found⟩ := read_of_announced announced
    have parsed := Reader.parse_counted_eq_ok_iff.mpr ⟨short, rest, split⟩
    exact ⟨_, found.trans (congrArg (Except.map _) parsed)⟩
  · intro fragment ran
    obtain ⟨short, rest, split⟩ := Reader.parse_counted_eq_ok_iff.mp (text_of_read announced ran)
    rw [items_of_read announced ran]
    refine ⟨⟨rest, short, split⟩, ?_, ?_⟩
    · exact Reader.tiles_repeated EventItem.spells_reader EventItem.reader_progresses _
    · intro items tiles
      exact tiles.prefix_repeated EventItem.spells_reader EventItem.reader_progresses
  · intro other otherAnnounced header behind
    exact outline_of_agreement announced otherAnnounced header behind
  · intro other otherLength otherAnnounced area fragment otherFragment ran otherRan
    rw [items_of_read announced ran, items_of_read otherAnnounced otherRan, area]

/-- An area with one item and the beginning of another, then a text of two octets and padding. -/
def raggedArea : Octets :=
  [0x12, 0x65, 0x6E, 0x67, 0x07, 0x01, 0x41, 0x01, 0x42, 0x05, 0x43, 0x44, 0x02, 0x58, 0x59, 0xFF]

/-- The same with an area in which not even one item is whole. -/
def brokenArea : Octets :=
  [0x12, 0x65, 0x6E, 0x67, 0x07, 0x09, 0x41, 0x01, 0x42, 0x05, 0x43, 0x44, 0x02, 0x58, 0x59, 0xFF]

theorem read_announced_raggedArea :
    raggedArea[4]? = some 7 ∧ brokenArea[4]? = some 7 ∧
    (DescriptorBody.read (α := ExtendedEvent) brokenArea).map outline =
      (DescriptorBody.read (α := ExtendedEvent) raggedArea).map outline ∧
    ∃ fragment : ExtendedEvent, DescriptorBody.read raggedArea = .ok fragment ∧
      [⟨⟨[0x41]⟩, ⟨[0x42]⟩⟩] <+: fragment.items ∧
      ∃ rest, fragment.text.octets.length < 256 ∧
        [0x02, 0x58, 0x59, 0xFF] = counted fragment.text.octets ++ rest := by
  have announced : raggedArea[4]? = some 7 := rfl
  have otherAnnounced : brokenArea[4]? = some 7 := rfl
  obtain ⟨accepted, parts, alike, _⟩ := read_announced announced
  obtain ⟨fragment, ran⟩ := accepted.mpr ⟨[0x58, 0x59], [0xFF], by decide, rfl⟩
  obtain ⟨text, _, longest⟩ := parts fragment ran
  have item : EventItem.Spelt ⟨⟨[0x41]⟩, ⟨[0x42]⟩⟩ [0x01, 0x41, 0x01, 0x42] :=
    ⟨by decide, by decide, rfl⟩
  have tiles : Reader.Tiles EventItem.Spelt [⟨⟨[0x41]⟩, ⟨[0x42]⟩⟩] (itemArea 7 raggedArea) :=
    .next item (.done [0x05, 0x43, 0x44])
  exact ⟨announced, otherAnnounced, alike brokenArea otherAnnounced rfl rfl, fragment, ran,
    longest _ tiles, text⟩

theorem behindItems_of_overruns (overruns : Overruns body) :
    ∃ areaLength, body[4]? = some areaLength ∧ behindItems areaLength body = [] := by
  obtain ⟨areaLength, announced, beyond⟩ := overruns
  exact ⟨areaLength, announced, List.drop_of_length_le (Nat.le_of_lt beyond)⟩

/-- An area that goes beyond the body leaves no octet for the text, and that is a truncation: no
item of it reaches an event, however many of them lie within the body. -/
theorem read_overruns (overruns : Overruns body) :
    DescriptorBody.read body = (.error .truncated : Except ReadError ExtendedEvent) ∧
    ∀ (limits : Limits) (event : GuideEvent),
      event.mergeRaw limits ⟨DescriptorBody.tag ExtendedEvent, body⟩ = event := by
  obtain ⟨areaLength, announced, nothing⟩ := behindItems_of_overruns overruns
  have failed :
      DescriptorBody.read body = (.error .truncated : Except ReadError ExtendedEvent) := by
    obtain ⟨numbers, language, _, found⟩ := read_of_announced announced
    rw [found, nothing]
    rfl
  refine ⟨failed, ?_⟩
  intro limits event
  apply GuideEvent.mergeRaw_of_dispensable
  have registered : Descriptor.read ⟨DescriptorBody.tag ExtendedEvent, body⟩ =
      (DescriptorBody.read body).map Descriptor.extendedEvent := rfl
  exact Or.inl ⟨.truncated, registered.trans (congrArg (Except.map _) failed)⟩

/-- One item, in an area that is said to be of ten octets. -/
def overlongArea : Octets := [0x00, 0x65, 0x6E, 0x67, 0x0A, 0x01, 0x41, 0x01, 0x42]

theorem read_overruns_overlongArea :
    Overruns overlongArea ∧ EventItem.ofArea (overlongArea.drop 5) = [⟨⟨[0x41]⟩, ⟨[0x42]⟩⟩] ∧
      DescriptorBody.read overlongArea = (.error .truncated : Except ReadError ExtendedEvent) := by
  have overruns : Overruns overlongArea := ⟨0x0A, rfl, by decide⟩
  exact ⟨overruns, by decide +kernel, (read_overruns overruns).1⟩

/-- The items of an area that goes beyond the body are not kept, although they are there. -/
theorem items_not_always_kept :
    ¬∀ (body : Octets) (areaLength : UInt8), body[4]? = some areaLength →
      body.length < 5 + areaLength.toNat →
      ∃ (numbers : UInt8) (language : LetterCode),
        body.take 5 = numbers :: (language.octets ++ [areaLength]) ∧
        DescriptorBody.read body = .ok
          ({ number := bits 4 4 numbers, lastNumber := bits 0 4 numbers, language,
             items := EventItem.ofArea (body.drop 5), text := .empty } : ExtendedEvent) := by
  intro kept
  obtain ⟨numbers, language, _, ran⟩ := kept overlongArea 0x0A rfl (by decide)
  have failed : DescriptorBody.read overlongArea =
      (.error .truncated : Except ReadError ExtendedEvent) := rfl
  cases failed.symm.trans ran

end ExtendedEvent

end ProgrammeGuide
