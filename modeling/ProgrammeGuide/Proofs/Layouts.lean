import ProgrammeGuide.Descriptor
import ProgrammeGuide.Proofs.EventLoop

/-!
The octets of the bodies of descriptors, kind by kind, and that they are read back. Where a layout
has bits without a meaning, they are taken from the spare values. Links are laid out in a module of
their own.
-/

namespace ProgrammeGuide

/-- Two fields of four bits each. -/
def nibbles (high low : UInt8) : UInt8 := UInt8.ofNat (high.toNat * 16 + low.toNat)

theorem bits_nibbles {high low : UInt8} (highFits : high.toNat < 16) (lowFits : low.toNat < 16) :
    bits 4 4 (nibbles high low) = high ∧ bits 0 4 (nibbles high low) = low := by
  have packed : (nibbles high low).toNat = high.toNat * 16 + low.toNat := by
    rw [nibbles, UInt8.toNat_ofNat']
    omega
  constructor
  · apply bits_eq
    omega
  · apply bits_eq
    omega

theorem length_octets16 (word : UInt16) : (octets16 word).length = 2 := rfl

namespace Service

def layout (body : Service) : Octets :=
  body.serviceType :: (counted body.provider.octets ++ counted body.name.octets)

theorem reads_layout {body : Service} (short : body.layout.length < 256) :
    Service.reader.Reads body.layout body := by
  simp only [layout, List.length_cons, List.length_append, length_counted] at short
  exact (Reader.reads_octet body.serviceType).bind
    ((Reader.reads_counted (by omega)).bind ((Reader.reads_counted (by omega)).bind_pure _))

end Service

namespace ShortEvent

def layout (body : ShortEvent) : Octets :=
  body.language.octets ++ (counted body.name.octets ++ counted body.text.octets)

theorem reads_layout {body : ShortEvent} (short : body.layout.length < 256) :
    ShortEvent.reader.Reads body.layout body := by
  simp only [layout, List.length_append, length_counted] at short
  exact body.language.reads_octets.bind
    ((Reader.reads_counted (by omega)).bind ((Reader.reads_counted (by omega)).bind_pure _))

end ShortEvent

namespace EventItem

def layout (item : EventItem) : Octets :=
  counted item.description.octets ++ counted item.content.octets

theorem reads_layout {item : EventItem} (short : item.layout.length < 256) :
    EventItem.reader.Reads item.layout item := by
  simp only [layout, List.length_append, length_counted] at short
  exact (Reader.reads_counted (by omega)).bind ((Reader.reads_counted (by omega)).bind_pure _)

theorem ofArea_layout {items : List EventItem} (short : (items.flatMap layout).length < 256) :
    EventItem.ofArea (items.flatMap layout) = items := by
  have reads : ∀ item ∈ items, EventItem.reader.Reads item.layout item := by
    intro item member
    exact reads_layout (Nat.lt_of_le_of_lt (length_le_flatMap member) short)
  have stuck : EventItem.reader.run [] = .error .truncated := rfl
  have found := Reader.repeated_layouts EventItem.reader_progresses reads stuck
  rw [List.append_nil, List.map_id'] at found
  rw [EventItem.ofArea, found]

end EventItem

namespace ExtendedEvent

structure Fits (body : ExtendedEvent) : Prop where
  number : body.number.toNat < 16
  lastNumber : body.lastNumber.toNat < 16

def layout (body : ExtendedEvent) : Octets :=
  nibbles body.number body.lastNumber :: (body.language.octets ++
    (counted (body.items.flatMap EventItem.layout) ++ counted body.text.octets))

theorem reads_layout {body : ExtendedEvent} (fits : body.Fits)
    (short : body.layout.length < 256) : ExtendedEvent.reader.Reads body.layout body := by
  simp only [layout, List.length_cons, List.length_append, length_counted] at short
  obtain ⟨number, lastNumber⟩ := bits_nibbles fits.number fits.lastNumber
  have items : EventItem.ofArea (body.items.flatMap EventItem.layout) = body.items :=
    EventItem.ofArea_layout (by omega)
  have reads : ExtendedEvent.reader.Reads body.layout
      { language := body.language
        number := bits 4 4 (nibbles body.number body.lastNumber)
        lastNumber := bits 0 4 (nibbles body.number body.lastNumber)
        items := EventItem.ofArea (body.items.flatMap EventItem.layout)
        text := body.text } :=
    (Reader.reads_octet (nibbles body.number body.lastNumber)).bind
      (body.language.reads_octets.bind ((Reader.reads_octet _).bind
        ((Reader.reads_takeUpTo (length_eq_toNat (by omega))).bind
          ((Reader.reads_counted (by omega)).bind_pure _))))
  rw [number, lastNumber, items] at reads
  exact reads

end ExtendedEvent

namespace TimeShiftedEvent

def layout (body : TimeShiftedEvent) : Octets := octets16 body.serviceId ++ octets16 body.eventId

theorem reads_layout (body : TimeShiftedEvent) : TimeShiftedEvent.reader.Reads body.layout body :=
  (Reader.reads_word16 body.serviceId).bind ((Reader.reads_word16 body.eventId).bind_pure _)

end TimeShiftedEvent

namespace Component

structure Fits (body : Component) : Prop where
  contentExtension : body.contentExtension.toNat < 16
  content : body.content.toNat < 16

def layout (body : Component) : Octets :=
  nibbles body.contentExtension body.content :: body.kind :: body.tag ::
    (body.language.octets ++ body.text.octets)

theorem fills_layout {body : Component} (fits : body.Fits) :
    Component.reader.Fills body.layout body := by
  obtain ⟨contentExtension, content⟩ := bits_nibbles fits.contentExtension fits.content
  have fills : Component.reader.Fills body.layout
      { body with
        contentExtension := bits 4 4 (nibbles body.contentExtension body.content)
        content := bits 0 4 (nibbles body.contentExtension body.content) } :=
    (Reader.reads_octet (nibbles body.contentExtension body.content)).bind_fills
      ((Reader.reads_octet body.kind).bind_fills ((Reader.reads_octet body.tag).bind_fills
        (body.language.reads_octets.bind_fills
          ((Reader.fills_takeRest body.text.octets).bind_pure _))))
  rw [contentExtension, content] at fills
  exact fills

end Component

namespace ConditionalAccess

def layout (body : ConditionalAccess) : Octets := body.systemIds.flatMap octets16

theorem systems_layout (systemIds : List UInt16) :
    systems (systemIds.flatMap octets16) = systemIds := by
  induction systemIds with
  | nil => rfl
  | cons systemId others ih =>
      change word16 _ _ :: systems (others.flatMap octets16) = _
      rw [word16_octets16, ih]

theorem read_layout (body : ConditionalAccess) : read body.layout = .ok body := by
  have even : body.layout.length % 2 = 0 := by
    rw [layout, length_flatMap_of_width length_octets16, Nat.mul_mod_left]
  rw [read, if_pos even, layout, systems_layout]

end ConditionalAccess

namespace Genre

structure Fits (genre : Genre) : Prop where
  main : genre.main.toNat < 16
  sub : genre.sub.toNat < 16

def layout (genre : Genre) : Octets := [nibbles genre.main genre.sub, genre.user]

theorem length_layout (genre : Genre) : genre.layout.length = 2 := rfl

end Genre

namespace Content

def layout (body : Content) : Octets := body.genres.flatMap Genre.layout

theorem genresOf_layout {genres : List Genre} (fits : ∀ genre ∈ genres, genre.Fits) :
    genresOf (genres.flatMap Genre.layout) = genres := by
  induction genres with
  | nil => rfl
  | cons genre others ih =>
      obtain ⟨own, rest⟩ := List.forall_mem_cons.mp fits
      obtain ⟨main, sub⟩ := bits_nibbles own.main own.sub
      change Genre.mk (bits 4 4 (nibbles _ _)) (bits 0 4 (nibbles _ _)) _ ::
        genresOf (others.flatMap Genre.layout) = _
      rw [main, sub, ih rest]

theorem read_layout {body : Content} (fits : ∀ genre ∈ body.genres, genre.Fits) :
    read body.layout = .ok body := by
  have even : body.layout.length % 2 = 0 := by
    rw [layout, length_flatMap_of_width Genre.length_layout, Nat.mul_mod_left]
  rw [read, if_pos even, layout, genresOf_layout fits]

end Content

namespace Rating

def layout (rating : Rating) : Octets := rating.country.octets ++ [rating.rating]

theorem length_layout (rating : Rating) : rating.layout.length = 4 := rfl

end Rating

namespace ParentalRating

def layout (body : ParentalRating) : Octets := body.ratings.flatMap Rating.layout

theorem ratingsOf_layout (ratings : List Rating) :
    ratingsOf (ratings.flatMap Rating.layout) = ratings := by
  induction ratings with
  | nil => rfl
  | cons rating others ih =>
      change _ :: ratingsOf (others.flatMap Rating.layout) = _
      rw [ih]

theorem read_layout (body : ParentalRating) : read body.layout = .ok body := by
  have whole : body.layout.length % 4 = 0 := by
    rw [layout, length_flatMap_of_width Rating.length_layout, Nat.mul_mod_left]
  rw [read, if_pos whole, layout, ratingsOf_layout]

end ParentalRating

namespace Telephone

structure Fits (body : Telephone) : Prop where
  connectionType : body.connectionType.toNat < 32
  countryPrefix : body.countryPrefix.length < 4
  internationalAreaCode : body.internationalAreaCode.length < 8
  operatorCode : body.operatorCode.length < 4
  nationalAreaCode : body.nationalAreaCode.length < 8
  coreNumber : body.coreNumber.length < 16

def connection (spare : Spare) (body : Telephone) : UInt8 :=
  UInt8.ofNat (spare 0 % 4 * 64 + body.foreignAvailability.toNat * 32 +
    body.connectionType.toNat)

def outerLengths (spare : Spare) (body : Telephone) : UInt8 :=
  UInt8.ofNat (spare 1 % 2 * 128 + body.countryPrefix.length * 32 +
    body.internationalAreaCode.length * 4 + body.operatorCode.length)

def innerLengths (spare : Spare) (body : Telephone) : UInt8 :=
  UInt8.ofNat (spare 2 % 2 * 128 + body.nationalAreaCode.length * 16 + body.coreNumber.length)

def layout (spare : Spare) (body : Telephone) : Octets :=
  body.connection spare :: body.outerLengths spare :: body.innerLengths spare ::
    (body.countryPrefix.octets ++ (body.internationalAreaCode.octets ++
      (body.operatorCode.octets ++ (body.nationalAreaCode.octets ++ body.coreNumber.octets))))

theorem reads_layout (spare : Spare) {body : Telephone} (fits : body.Fits) :
    Telephone.reader.Reads (body.layout spare) body := by
  obtain ⟨connectionType, countryPrefix, internationalAreaCode, operatorCode, nationalAreaCode,
    coreNumber⟩ := fits
  have bit := Bool.toNat_le body.foreignAvailability
  have packed : (body.connection spare).toNat = spare 0 % 4 * 64 +
      body.foreignAvailability.toNat * 32 + body.connectionType.toNat := by
    rw [connection, UInt8.toNat_ofNat']
    omega
  have outer : (body.outerLengths spare).toNat = spare 1 % 2 * 128 +
      body.countryPrefix.length * 32 + body.internationalAreaCode.length * 4 +
      body.operatorCode.length := by
    rw [outerLengths, UInt8.toNat_ofNat']
    omega
  have inner : (body.innerLengths spare).toNat = spare 2 % 2 * 128 +
      body.nationalAreaCode.length * 16 + body.coreNumber.length := by
    rw [innerLengths, UInt8.toNat_ofNat']
    omega
  have available : flag 5 (body.connection spare) = body.foreignAvailability := by
    apply flag_eq
    omega
  have kind : bits 0 5 (body.connection spare) = body.connectionType := by
    apply bits_eq
    omega
  have sized (low width : Nat) (octet : UInt8) {part : Text}
      (field : octet.toNat / 2 ^ low % 2 ^ width = part.length) :
      part.octets.length = (bits low width octet).toNat := by
    rw [bits_toNat, Nat.shiftRight_eq_div_pow, Nat.one_shiftLeft, field]
    rfl
  have reads : Telephone.reader.Reads (body.layout spare)
      { body with
        foreignAvailability := flag 5 (body.connection spare)
        connectionType := bits 0 5 (body.connection spare) } :=
    (Reader.reads_octet (body.connection spare)).bind
      ((Reader.reads_octet (body.outerLengths spare)).bind
        ((Reader.reads_octet (body.innerLengths spare)).bind
          ((Reader.reads_take (sized 5 2 _ (by omega))).bind
            ((Reader.reads_take (sized 2 3 _ (by omega))).bind
              ((Reader.reads_take (sized 0 2 _ (by omega))).bind
                ((Reader.reads_take (sized 4 3 _ (by omega))).bind
                  ((Reader.reads_take (sized 0 4 _ (by omega))).bind_pure _)))))))
  rw [available, kind] at reads
  exact reads

end Telephone

namespace ComponentText

def layout (entry : ComponentText) : Octets := entry.language.octets ++ counted entry.text.octets

theorem reads_layout {entry : ComponentText} (short : entry.layout.length < 256) :
    ComponentText.reader.Reads entry.layout entry := by
  simp only [layout, List.length_append, length_counted] at short
  exact entry.language.reads_octets.bind ((Reader.reads_counted (by omega)).bind_pure _)

end ComponentText

namespace MultilingualComponent

def layout (body : MultilingualComponent) : Octets :=
  body.componentTag :: body.texts.flatMap ComponentText.layout

theorem fills_layout {body : MultilingualComponent} (short : body.layout.length < 256) :
    MultilingualComponent.reader.Fills body.layout body := by
  simp only [layout, List.length_cons] at short
  have reads : ∀ entry ∈ body.texts, ComponentText.reader.Reads entry.layout entry := by
    intro entry member
    have within : entry.layout.length ≤ (body.texts.flatMap ComponentText.layout).length :=
      length_le_flatMap member
    exact ComponentText.reads_layout (by omega)
  have stuck : ComponentText.reader.run [] = .error .truncated := rfl
  exact (Reader.reads_octet body.componentTag).bind_fills
    ((Reader.fills_untilEnd reads stuck).bind_pure _)

end MultilingualComponent

namespace PrivateDataSpecifier

def layout (body : PrivateDataSpecifier) : Octets := octets32 body.specifier

theorem reads_layout (body : PrivateDataSpecifier) :
    PrivateDataSpecifier.reader.Reads body.layout body :=
  (Reader.reads_word32 body.specifier).bind_pure _

end PrivateDataSpecifier

structure SmoothingBuffer.Fits (buffer : SmoothingBuffer) : Prop where
  sizeCode : buffer.sizeCode.toNat < 4
  leakRateCode : buffer.leakRateCode.toNat < 64

namespace ShortSmoothingBuffer

def codes (body : ShortSmoothingBuffer) : UInt8 :=
  UInt8.ofNat (body.buffer.sizeCode.toNat * 64 + body.buffer.leakRateCode.toNat)

def layout (body : ShortSmoothingBuffer) : Octets := body.codes :: body.reserved

theorem fills_layout {body : ShortSmoothingBuffer} (fits : body.buffer.Fits) :
    ShortSmoothingBuffer.reader.Fills body.layout body := by
  obtain ⟨sizeFits, rateFits⟩ := fits
  have packed : body.codes.toNat =
      body.buffer.sizeCode.toNat * 64 + body.buffer.leakRateCode.toNat := by
    rw [codes, UInt8.toNat_ofNat']
    omega
  have sizeCode : bits 6 2 body.codes = body.buffer.sizeCode := by
    apply bits_eq
    omega
  have leakRateCode : bits 0 6 body.codes = body.buffer.leakRateCode := by
    apply bits_eq
    omega
  have fills : ShortSmoothingBuffer.reader.Fills body.layout
      { body with buffer := ⟨bits 6 2 body.codes, bits 0 6 body.codes⟩ } :=
    (Reader.reads_octet body.codes).bind_fills ((Reader.fills_takeRest body.reserved).bind_pure _)
  rw [sizeCode, leakRateCode] at fills
  exact fills

end ShortSmoothingBuffer

namespace DataBroadcast

def layout (body : DataBroadcast) : Octets :=
  octets16 body.broadcastId ++ body.componentTag ::
    (counted body.selector ++ (body.language.octets ++ counted body.text.octets))

theorem reads_layout {body : DataBroadcast} (short : body.layout.length < 256) :
    DataBroadcast.reader.Reads body.layout body := by
  simp only [layout, List.length_cons, List.length_append, length_counted] at short
  exact (Reader.reads_word16 body.broadcastId).bind
    ((Reader.reads_octet body.componentTag).bind
      ((Reader.reads_counted (by omega)).bind
        (body.language.reads_octets.bind ((Reader.reads_counted (by omega)).bind_pure _))))

end DataBroadcast

namespace DeliveryControl

def Fits (body : DeliveryControl) : Prop := body.label.value.toNat < 2 ^ 20

def first (spare : Spare) (body : DeliveryControl) : UInt8 :=
  UInt8.ofNat (spare 0 % 16 * 16 + body.label.value.toNat / 65536)

def layout (spare : Spare) (body : DeliveryControl) : Octets :=
  [body.first spare, UInt8.ofNat (body.label.value.toNat / 256),
    UInt8.ofNat body.label.value.toNat]

theorem reads_layout (spare : Spare) {body : DeliveryControl} (fits : body.Fits) :
    DeliveryControl.reader.Reads (body.layout spare) body := by
  have narrow : body.label.value.toNat < 1048576 := fits
  have label : word32 0 (bits 0 4 (body.first spare))
      (UInt8.ofNat (body.label.value.toNat / 256)) (UInt8.ofNat body.label.value.toNat) =
      body.label.value := by
    rw [← UInt32.toNat_inj, word32_toNat, bits_toNat, first, Nat.shiftRight_zero,
      Nat.one_shiftLeft]
    simp only [UInt8.toNat_ofNat', UInt8.toNat_zero]
    omega
  intro rest
  have ran : DeliveryControl.reader.run (body.layout spare ++ rest) =
      .ok (⟨⟨word32 0 (bits 0 4 (body.first spare)) _ _⟩⟩, rest) := rfl
  rw [ran, label]

end DeliveryControl

end ProgrammeGuide
