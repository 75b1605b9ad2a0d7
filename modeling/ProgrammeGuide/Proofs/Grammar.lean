import ProgrammeGuide.Proofs.Descriptors
import ProgrammeGuide.Proofs.Recognition
import ProgrammeGuide.Proofs.RoundTrip

/-!
The forms that the bodies of descriptors must have, kind by kind. A descriptor is read exactly when
its tag is not registered or its body has the form that goes with the tag, and a body without that
form is called truncated, or of a malformed length where its entries are all of one width.
-/

open scoped Computability

namespace ProgrammeGuide

open Form

/-- The sum of the five lengths that a telephone number announces. -/
def Telephone.announcedLength (outer inner : UInt8) : Nat :=
  outer.toNat / 32 % 4 + outer.toNat / 4 % 8 + outer.toNat % 4 + inner.toNat / 16 % 8 +
    inner.toNat % 16

/-- A network goes with three of the types of hand-over, an initial service with one origin. -/
def MobileHandOver.announcedLength (codes : UInt8) : Nat :=
  (if 1 ≤ codes.toNat / 16 ∧ codes.toNat / 16 ≤ 3 then 2 else 0) +
    if codes.toNat % 2 = 0 then 2 else 0

/-- What comes between the type of a link and its private data. A loop of links may be cut short by
the end of the body, so only its length must be there. -/
def Linkage.detailForm (linkageType : UInt8) : Form :=
  if linkageType = 0x08 then led fun codes => exactly (MobileHandOver.announcedLength codes)
  else if linkageType = 0x0D then exactly 3
  else if 0x0E ≤ linkageType ∧ linkageType ≤ 0x1F then exactly 1
  else exactly 0

def ExtendedEvent.Overruns (body : Octets) : Prop :=
  ∃ areaLength, body[4]? = some areaLength ∧ body.length < 5 + areaLength.toNat

namespace Descriptor

/-- The forms of the bodies by their tags. -/
def grammar : List (UInt8 × Form) := [
  (0x42, anything),
  (0x48, exactly 1 * measured * measured * anything),
  (0x4A, exactly 6 * led fun linkageType => Linkage.detailForm linkageType * anything),
  (0x4D, exactly 3 * measured * measured * anything),
  (0x4E, exactly 4 * led fun areaLength => exactly areaLength.toNat * measured * anything),
  (0x4F, atLeast 4),
  (0x50, atLeast 6),
  (0x53, multipleOf 2),
  (0x54, multipleOf 2),
  (0x55, multipleOf 4),
  (0x57, exactly 1 * led fun outer => led fun inner =>
    exactly (Telephone.announcedLength outer inner) * anything),
  (0x5E, exactly 1 * (exactly 3 * measured)∗),
  (0x5F, atLeast 4),
  (0x61, atLeast 1),
  (0x64, exactly 3 * measured * exactly 3 * measured * anything),
  (0x69, atLeast 3)]

/-- What a body is blamed on that has not the form of its tag. -/
def blame (tag : UInt8) : ReadError :=
  if tag ∈ [0x53, 0x54, 0x55] then .malformedLength else .truncated

end Descriptor

theorem LetterCode.hasWidth_reader : LetterCode.reader.HasWidth 3 :=
  Reader.hasWidth_octet.bind fun _ => Reader.hasWidth_octet.bind fun _ =>
    Reader.hasWidth_octet.bind fun _ => Reader.hasWidth_pure _

variable (body : Octets)

theorem Stuffing.judges :
    Judges (DescriptorBody.read (α := Stuffing)) anything .truncated body :=
  ⟨fun _ => ⟨_, rfl⟩, fun outside => absurd trivial outside⟩

/-- A front of fixed width, then two texts with their lengths. -/
theorem Reader.judges_twoTexts {α β : Type} {front : Reader α} {width : Nat}
    (fixed : front.HasWidth width) (make : α → Octets → Octets → β) :
    Judges (front >>= fun value => Reader.counted >>= fun name => Reader.counted >>= fun text =>
        pure (make value name text)).parse
      (exactly width * measured * measured * anything) .truncated body := by
  have recognises := fixed.recognises.bind fun value => Reader.recognises_counted.bind fun name =>
    Reader.recognises_counted.bind_pure (make value name)
  rw [mul_assoc (exactly width)]
  exact recognises.parse body

theorem Service.judges :
    Judges Service.reader.parse (exactly 1 * measured * measured * anything) .truncated body :=
  Reader.judges_twoTexts body Reader.hasWidth_octet fun serviceType provider name =>
    Service.mk serviceType ⟨provider⟩ ⟨name⟩

theorem ShortEvent.judges :
    Judges ShortEvent.reader.parse (exactly 3 * measured * measured * anything) .truncated body :=
  Reader.judges_twoTexts body LetterCode.hasWidth_reader fun language name text =>
    ShortEvent.mk language ⟨name⟩ ⟨text⟩

theorem DataBroadcast.judges :
    Judges DataBroadcast.reader.parse (exactly 3 * measured * exactly 3 * measured * anything)
      .truncated body := by
  have recognises : DataBroadcast.reader.Recognises
      (exactly 2 * (exactly 1 * (measured * (exactly 3 * measured)))) :=
    Reader.hasWidth_word16.recognises.bind fun _ => Reader.hasWidth_octet.recognises.bind fun _ =>
      Reader.recognises_counted.bind fun _ => LetterCode.hasWidth_reader.recognises.bind fun _ =>
      Reader.recognises_counted.bind_pure _
  have judges := recognises.parse body
  simp only [← mul_assoc, exactly_mul] at judges
  exact judges

theorem TimeShiftedEvent.judges :
    Judges TimeShiftedEvent.reader.parse (atLeast 4) .truncated body := by
  have fixed : TimeShiftedEvent.reader.HasWidth 4 :=
    Reader.hasWidth_word16.bind fun _ => Reader.hasWidth_word16.bind fun _ => Reader.hasWidth_pure _
  exact fixed.parse body

theorem PrivateDataSpecifier.judges :
    Judges PrivateDataSpecifier.reader.parse (atLeast 4) .truncated body := by
  have fixed : PrivateDataSpecifier.reader.HasWidth 4 :=
    Reader.hasWidth_word32.bind fun _ => Reader.hasWidth_pure _
  exact fixed.parse body

theorem DeliveryControl.judges :
    Judges DeliveryControl.reader.parse (atLeast 3) .truncated body := by
  have fixed : DeliveryControl.reader.HasWidth 3 :=
    Reader.hasWidth_octet.bind fun _ => Reader.hasWidth_octet.bind fun _ =>
      Reader.hasWidth_octet.bind fun _ => Reader.hasWidth_pure _
  exact fixed.parse body

theorem Component.judges : Judges Component.reader.parse (atLeast 6) .truncated body := by
  have decides : Component.reader.Decides
      (exactly 1 * (exactly 1 * (exactly 1 * (exactly 3 * anything)))) :=
    Reader.hasWidth_octet.recognises.decides fun _ =>
      Reader.hasWidth_octet.recognises.decides fun _ =>
      Reader.hasWidth_octet.recognises.decides fun _ =>
      LetterCode.hasWidth_reader.recognises.decides fun _ => Reader.decides_takeRest.bind_pure _
  simp only [← mul_assoc, exactly_mul] at decides
  rw [exactly_mul_anything] at decides
  exact decides.parse body

theorem ShortSmoothingBuffer.judges :
    Judges ShortSmoothingBuffer.reader.parse (atLeast 1) .truncated body := by
  have decides : ShortSmoothingBuffer.reader.Decides (exactly 1 * anything) :=
    Reader.hasWidth_octet.recognises.decides fun _ => Reader.decides_takeRest.bind_pure _
  rw [exactly_mul_anything] at decides
  exact decides.parse body

theorem MultilingualComponent.judges :
    Judges MultilingualComponent.reader.parse (exactly 1 * (exactly 3 * measured)∗) .truncated
      body := by
  have recognises : ComponentText.reader.Recognises (exactly 3 * measured) :=
    LetterCode.hasWidth_reader.recognises.bind fun _ => Reader.recognises_counted.bind_pure _
  have decides : MultilingualComponent.reader.Decides (exactly 1 * (exactly 3 * measured)∗) :=
    Reader.hasWidth_octet.recognises.decides fun _ =>
      (recognises.untilEnd ComponentText.reader_progresses).bind_pure _
  exact decides.parse body

/-- Entries all of one width, as many as fill the body. -/
theorem judges_multipleOf {α : Type} (width : Nat) (make : Octets → α) :
    Judges (fun octets => if octets.length % width = 0 then .ok (make octets)
        else .error .malformedLength) (multipleOf width) .malformedLength body :=
  ⟨fun whole => ⟨_, if_pos whole⟩, fun ragged => if_neg ragged⟩

theorem ConditionalAccess.judges :
    Judges ConditionalAccess.read (multipleOf 2) .malformedLength body :=
  judges_multipleOf body 2 fun octets => ConditionalAccess.mk (systems octets)

theorem Content.judges : Judges Content.read (multipleOf 2) .malformedLength body :=
  judges_multipleOf body 2 fun octets => Content.mk (genresOf octets)

theorem ParentalRating.judges : Judges ParentalRating.read (multipleOf 4) .malformedLength body :=
  judges_multipleOf body 4 fun octets => ParentalRating.mk (ratingsOf octets)

theorem Telephone.judges :
    Judges Telephone.reader.parse (exactly 1 * led fun outer => led fun inner =>
      exactly (announcedLength outer inner) * anything) .truncated body := by
  have decides : Telephone.reader.Decides (exactly 1 * led fun outer => led fun inner =>
      exactly (announcedLength outer inner) * anything) := by
    refine Reader.hasWidth_octet.recognises.decides fun connection =>
      Reader.decides_led fun outer => Reader.decides_led fun inner => ?_
    have length : announcedLength outer inner =
        (bits 5 2 outer).toNat + ((bits 2 3 outer).toNat + ((bits 0 2 outer).toNat +
          ((bits 4 3 inner).toNat + (bits 0 4 inner).toNat))) := by
      simp only [announcedLength, bits_toNat, Nat.shiftRight_eq_div_pow, Nat.one_shiftLeft]
      omega
    rw [length, ← exactly_mul, ← exactly_mul, ← exactly_mul, ← exactly_mul]
    simp only [mul_assoc]
    exact (Reader.hasWidth_take _).recognises.decides fun _ =>
      (Reader.hasWidth_take _).recognises.decides fun _ =>
      (Reader.hasWidth_take _).recognises.decides fun _ =>
      (Reader.hasWidth_take _).recognises.decides fun _ =>
      (Reader.hasWidth_take _).recognises.decides fun _ => Reader.decides_pure _
  exact decides.parse body

theorem HandOver.hasWidth_reader (code : UInt8) :
    (HandOver.reader code).HasWidth (if 1 ≤ code.toNat ∧ code.toNat ≤ 3 then 2 else 0) := by
  unfold HandOver.reader
  by_cases one : code = 1
  · subst one
    exact Reader.hasWidth_word16.map identical
  · by_cases two : code = 2
    · subst two
      exact Reader.hasWidth_word16.map localVariation
    · by_cases three : code = 3
      · subst three
        exact Reader.hasWidth_word16.map associated
      · have outside : ¬(1 ≤ code.toNat ∧ code.toNat ≤ 3) := by
          simp only [← UInt8.toNat_inj] at one two three
          change code.toNat ≠ 1 at one
          change code.toNat ≠ 2 at two
          change code.toNat ≠ 3 at three
          omega
        rw [if_neg one, if_neg two, if_neg three, if_neg outside]
        exact Reader.hasWidth_pure _

theorem Reader.hasWidth_onlyIf (present : Bool) {reader : Reader UInt16} {width : Nat}
    (fixed : reader.HasWidth width) :
    (Reader.onlyIf present reader).HasWidth (if present then width else 0) := by
  cases present with
  | false => exact Reader.hasWidth_pure none
  | true => exact fixed.map some

theorem MobileHandOver.recognises_reader :
    MobileHandOver.reader.Recognises (led fun codes => exactly (announcedLength codes)) := by
  refine Reader.recognises_led fun codes => ?_
  have code : (bits 4 4 codes).toNat = codes.toNat / 16 := by
    have bound := codes.toNat_lt
    rw [bits_toNat, Nat.shiftRight_eq_div_pow, Nat.one_shiftLeft]
    omega
  have origin : (!flag 0 codes) = decide (codes.toNat % 2 = 0) := by
    rw [flag, Nat.shiftRight_zero, ← decide_not]
    congr 1
    rw [eq_iff_iff]
    omega
  have fixed := (HandOver.hasWidth_reader (bits 4 4 codes)).bind fun handOver =>
    (Reader.hasWidth_onlyIf (!flag 0 codes) Reader.hasWidth_word16).bind fun initialServiceId =>
      Reader.hasWidth_pure (MobileHandOver.mk handOver initialServiceId)
  have width : (if 1 ≤ (bits 4 4 codes).toNat ∧ (bits 4 4 codes).toNat ≤ 3 then 2 else 0) +
      ((if !flag 0 codes then 2 else 0) + 0) = announcedLength codes := by
    rw [code, origin, announcedLength]
    simp only [decide_eq_true_eq, Nat.add_zero]
  rw [width] at fixed
  exact fixed.recognises

theorem Linkage.decides_detail (linkageType : UInt8) {β : Type} {next : LinkDetail → Reader β}
    (continues : ∀ detail, (next detail).Decides anything) :
    (detailReader linkageType >>= next).Decides (detailForm linkageType * anything) := by
  unfold detailReader detailForm
  by_cases handOver : linkageType = 0x08
  · rw [if_pos handOver, if_pos handOver]
    exact (MobileHandOver.recognises_reader.map _).decides continues
  · rw [if_neg handOver, if_neg handOver]
    by_cases event : linkageType = 0x0D
    · have fixed : EventLink.reader.HasWidth 3 :=
        Reader.hasWidth_word16.bind fun _ => Reader.hasWidth_octet.bind fun _ =>
          Reader.hasWidth_pure _
      rw [if_pos event, if_pos event]
      exact (fixed.map _).recognises.decides continues
    · rw [if_neg event, if_neg event]
      simp only [isExtendedEvent_iff]
      by_cases extended : 0x0E ≤ linkageType ∧ linkageType ≤ 0x1F
      · rw [if_pos extended, if_pos extended]
        simp only [bind_assoc, pure_bind]
        exact Reader.hasWidth_octet.recognises.decides fun areaLength =>
          Reader.decides_takeUpTo areaLength.toNat fun area => continues _
      · rw [if_neg extended, if_neg extended]
        exact (Reader.hasWidth_pure LinkDetail.other).recognises.decides continues

theorem Linkage.judges :
    Judges Linkage.reader.parse
      (exactly 6 * led fun linkageType => detailForm linkageType * anything) .truncated body := by
  have decides : Linkage.reader.Decides (exactly 2 * (exactly 2 * (exactly 2 *
      led fun linkageType => detailForm linkageType * anything))) :=
    Reader.hasWidth_word16.recognises.decides fun _ =>
      Reader.hasWidth_word16.recognises.decides fun _ =>
      Reader.hasWidth_word16.recognises.decides fun _ => Reader.decides_led fun linkageType =>
      decides_detail linkageType fun _ => Reader.decides_takeRest.bind_pure _
  simp only [← mul_assoc, exactly_mul] at decides
  exact decides.parse body

theorem ExtendedEvent.judges (within : ¬Overruns body) :
    Judges ExtendedEvent.reader.parse
      (exactly 4 * led fun areaLength => exactly areaLength.toNat * measured * anything) .truncated
      body := by
  have judges : Judges ExtendedEvent.reader.run (exactly 1 * (exactly 3 *
      led fun areaLength => exactly areaLength.toNat * (measured * anything))) .truncated body := by
    refine Reader.hasWidth_octet.recognises.judges fun numbers first _ one whole => ?_
    refine LetterCode.hasWidth_reader.recognises.judges fun language letters _ three left => ?_
    refine Reader.judges_led fun areaLength behind area => ?_
    have size : first.length = 1 ∧ letters.length = 3 := ⟨one, three⟩
    -- The fifth octet gives the length of the area, which is all there and so is taken in full.
    have enough : areaLength.toNat ≤ behind.length := by
      by_contra beyond
      apply within
      subst area left whole
      refine ⟨areaLength, ?_, ?_⟩
      · rw [List.getElem?_append_right (by omega), List.getElem?_append_right (by omega), size.1,
          size.2]
        rfl
      · simp only [List.length_append, List.length_cons, size]
        omega
    exact Reader.judges_takeUpTo enough fun _ => Reader.recognises_counted.decides fun _ =>
      Reader.decides_pure _
  simp only [← mul_assoc, exactly_mul] at judges
  exact judges.map Prod.fst

namespace Descriptor

/-- Whether a reader of the registry is right about all bodies of its tag, but for those of a long
description whose items overrun the body. -/
structure Listed (listed : UInt8 × BodyReader) (form : UInt8 × Form) : Prop where
  tag : listed.1 = form.1
  judges : ∀ body, ¬(listed.1 = 0x4E ∧ ExtendedEvent.Overruns body) →
    Judges listed.2 form.2 (blame listed.1) body

theorem listed_entry {α : Type} [DescriptorBody α] (wrap : α → Descriptor) {tag : UInt8}
    {form : Form}
    (judges : ∀ body, Judges (DescriptorBody.read (α := α)) form (blame tag) body) :
    Listed (entry tag wrap) (tag, form) :=
  ⟨rfl, fun body _ => (judges body).map wrap⟩

theorem listed_extendedEvent :
    Listed (entry 0x4E extendedEvent) (0x4E,
      exactly 4 * led fun areaLength => exactly areaLength.toNat * measured * anything) :=
  ⟨rfl, fun body within =>
    (ExtendedEvent.judges body fun beyond => within ⟨rfl, beyond⟩).map extendedEvent⟩

theorem registry_listed : List.Forall₂ Listed registry grammar :=
  .cons (listed_entry stuffing Stuffing.judges) <|
      .cons (listed_entry service Service.judges) <|
      .cons (listed_entry linkage Linkage.judges) <|
      .cons (listed_entry shortEvent ShortEvent.judges) <|
      .cons listed_extendedEvent <|
      .cons (listed_entry timeShiftedEvent TimeShiftedEvent.judges) <|
      .cons (listed_entry component Component.judges) <|
      .cons (listed_entry conditionalAccess ConditionalAccess.judges) <|
      .cons (listed_entry content Content.judges) <|
      .cons (listed_entry parentalRating ParentalRating.judges) <|
      .cons (listed_entry telephone Telephone.judges) <|
      .cons (listed_entry multilingualComponent MultilingualComponent.judges) <|
      .cons (listed_entry privateDataSpecifier PrivateDataSpecifier.judges) <|
      .cons (listed_entry shortSmoothingBuffer ShortSmoothingBuffer.judges) <|
      .cons (listed_entry dataBroadcast DataBroadcast.judges) <|
      .cons (listed_entry deliveryControl DeliveryControl.judges) .nil

theorem lookup_of_listed {entries : List (UInt8 × BodyReader)} {forms : List (UInt8 × Form)}
    (listed : List.Forall₂ Listed entries forms) {tag : UInt8} {readBody : BodyReader}
    (found : entries.lookup tag = some readBody) :
    ∃ form, forms.lookup tag = some form ∧ Listed (tag, readBody) (tag, form) := by
  obtain ⟨missing, _⟩ | ⟨value, form, present, formed, own⟩ :=
    lookup_of_related Listed.tag listed tag
  · rw [found] at missing
    cases missing
  · rw [found] at present
    cases present
    exact ⟨form, formed, own⟩

/-- A descriptor is read exactly if its tag is not registered or its body has the form of its tag,
and any failure is the one of the tag. Bodies whose items overrun them are left out. -/
theorem read_iff (raw : RawDescriptor)
    (within : raw.tag = 0x4E → ¬ExtendedEvent.Overruns raw.body) :
    ((∃ descriptor, read raw = .ok descriptor) ↔
      raw.tag ∉ registeredTags ∨
        ∃ form, grammar.lookup raw.tag = some form ∧ raw.body ∈ form) ∧
    ∀ cause, read raw = .error cause → cause = blame raw.tag := by
  cases found : bodyReader? raw.tag with
  | none =>
      have opened : read raw = .ok (unsupported raw.tag) := by rw [read, found]
      have unregistered := bodyReader?_eq_none_iff.mp found
      rw [opened]
      refine ⟨iff_of_true ⟨_, rfl⟩ (.inl unregistered), ?_⟩
      intro cause failed
      cases failed
  | some readBody =>
      obtain ⟨form, formed, listed⟩ := lookup_of_listed registry_listed found
      have judges : Judges readBody form (blame raw.tag) raw.body :=
        listed.judges raw.body fun overrun => within overrun.1 overrun.2
      have opened : read raw = readBody raw.body := by rw [read, found]
      rw [opened]
      refine ⟨⟨?_, ?_⟩, ?_⟩
      · rintro ⟨descriptor, ran⟩
        refine .inr ⟨form, formed, ?_⟩
        by_contra outside
        have failed := judges.rejects outside
        rw [ran] at failed
        cases failed
      · rintro (unregistered | ⟨other, also, member⟩)
        · rw [bodyReader?_eq_none_iff.mpr unregistered] at found
          cases found
        · rw [formed] at also
          cases also
          exact judges.accepts member
      · intro cause failed
        by_cases member : raw.body ∈ form
        · obtain ⟨descriptor, ran⟩ := judges.accepts member
          rw [ran] at failed
          cases failed
        · rw [judges.rejects member] at failed
          cases failed
          rfl

/-- An item with two empty texts, then a text of one octet. -/
def titled : Octets := [0x00, 0x65, 0x6E, 0x67, 0x02, 0x00, 0x00, 0x01, 0x41]

theorem read_iff_titled :
    ¬ExtendedEvent.Overruns titled ∧
    (∃ form, grammar.lookup 0x4E = some form ∧ titled ∈ form) ∧
    ¬ExtendedEvent.Overruns titled.dropLast ∧
    ¬∃ form, grammar.lookup 0x4E = some form ∧ titled.dropLast ∈ form := by
  have within : ¬ExtendedEvent.Overruns titled := by
    rintro ⟨areaLength, found, beyond⟩
    cases found
    exact absurd beyond (by decide)
  have cutWithin : ¬ExtendedEvent.Overruns titled.dropLast := by
    rintro ⟨areaLength, found, beyond⟩
    cases found
    exact absurd beyond (by decide)
  have registered : ¬(0x4E : UInt8) ∉ registeredTags := by decide
  obtain ⟨whole, _⟩ := read_iff ⟨0x4E, titled⟩ fun _ => within
  obtain ⟨cut, _⟩ := read_iff ⟨0x4E, titled.dropLast⟩ fun _ => cutWithin
  refine ⟨within, (whole.mp ⟨_, rfl⟩).resolve_left registered, cutWithin, ?_⟩
  intro formed
  obtain ⟨descriptor, ran⟩ := cut.mpr (.inr formed)
  cases ran

end Descriptor

end ProgrammeGuide
