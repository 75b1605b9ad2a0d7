import ProgrammeGuide.Proofs.Layouts

/-!
The octets of a linkage descriptor. What follows the type of the link depends on it, and in a link
to events of other services the fields that are present depend on the flags.
-/

namespace ProgrammeGuide

/-- A word that may be left out. -/
def optional16 : Option UInt16 → Octets
  | none => []
  | some word => octets16 word

theorem Reader.reads_onlyIf (word : Option UInt16) :
    (Reader.onlyIf word.isSome Reader.word16).Reads (optional16 word) word := by
  cases word with
  | none => exact fun _ => rfl
  | some word => exact (Reader.reads_word16 word).map some

namespace HandOver

/-- The codes with a meaning are not used as reserved ones. -/
def Fits : HandOver → Prop
  | identical _ | localVariation _ | associated _ => True
  | reserved code => code.toNat < 16 ∧ code ≠ 1 ∧ code ≠ 2 ∧ code ≠ 3

def code : HandOver → UInt8
  | identical _ => 1
  | localVariation _ => 2
  | associated _ => 3
  | reserved code => code

def layout : HandOver → Octets
  | identical networkId | localVariation networkId | associated networkId => octets16 networkId
  | reserved _ => []

theorem code_lt {handOver : HandOver} (fits : handOver.Fits) : handOver.code.toNat < 16 := by
  cases handOver with
  | reserved code => exact fits.1
  | identical | localVariation | associated =>
      simp only [code]
      decide

theorem reads_layout {handOver : HandOver} (fits : handOver.Fits) :
    (HandOver.reader handOver.code).Reads handOver.layout handOver := by
  cases handOver with
  | identical networkId => exact (Reader.reads_word16 networkId).map identical
  | localVariation networkId => exact (Reader.reads_word16 networkId).map localVariation
  | associated networkId => exact (Reader.reads_word16 networkId).map associated
  | reserved code =>
      obtain ⟨_, one, two, three⟩ := fits
      rw [HandOver.code, HandOver.reader, if_neg one, if_neg two, if_neg three]
      exact fun _ => rfl

end HandOver

namespace MobileHandOver

def codes (spare : Nat) (detail : MobileHandOver) : UInt8 :=
  UInt8.ofNat (detail.handOver.code.toNat * 16 + spare % 8 * 2 +
    detail.initialServiceId.isNone.toNat)

def layout (spare : Nat) (detail : MobileHandOver) : Octets :=
  detail.codes spare :: (detail.handOver.layout ++ optional16 detail.initialServiceId)

theorem reads_layout (spare : Nat) {detail : MobileHandOver} (fits : detail.handOver.Fits) :
    MobileHandOver.reader.Reads (detail.layout spare) detail := by
  have narrow := HandOver.code_lt fits
  have bit := Bool.toNat_le detail.initialServiceId.isNone
  have packed : (detail.codes spare).toNat = detail.handOver.code.toNat * 16 + spare % 8 * 2 +
      detail.initialServiceId.isNone.toNat := by
    rw [codes, UInt8.toNat_ofNat']
    omega
  have code : bits 4 4 (detail.codes spare) = detail.handOver.code := by
    apply bits_eq
    omega
  have origin : flag 0 (detail.codes spare) = detail.initialServiceId.isNone := by
    apply flag_eq
    omega
  have handOver := HandOver.reads_layout fits
  have initial := Reader.reads_onlyIf detail.initialServiceId
  rw [← Option.not_isNone, ← origin] at initial
  rw [← code] at handOver
  exact (Reader.reads_octet (detail.codes spare)).bind (handOver.bind (initial.bind_pure _))

end MobileHandOver

namespace EventLink

/-- The two flags of the link above six other bits. -/
def flags (low : Nat) (link : EventLink) : UInt8 :=
  UInt8.ofNat (link.listed.toNat * 128 + link.simulcast.toNat * 64 + low % 64)

def layout (spare : Nat) (link : EventLink) : Octets :=
  octets16 link.eventId ++ [link.flags spare]

theorem flags_toNat (low : Nat) (link : EventLink) :
    (link.flags low).toNat = link.listed.toNat * 128 + link.simulcast.toNat * 64 + low % 64 := by
  have listedBit := Bool.toNat_le link.listed
  have simulcastBit := Bool.toNat_le link.simulcast
  rw [flags, UInt8.toNat_ofNat']
  omega

theorem flag_flags (low : Nat) (link : EventLink) :
    flag 7 (link.flags low) = link.listed ∧ flag 6 (link.flags low) = link.simulcast := by
  have packed := flags_toNat low link
  have listedBit := Bool.toNat_le link.listed
  have simulcastBit := Bool.toNat_le link.simulcast
  constructor
  · apply flag_eq
    omega
  · apply flag_eq
    omega

theorem reads_layout (spare : Nat) (link : EventLink) :
    EventLink.reader.Reads (link.layout spare) link := by
  obtain ⟨listed, simulcast⟩ := link.flag_flags spare
  have reads : EventLink.reader.Reads (link.layout spare)
      { link with listed := flag 7 (link.flags spare), simulcast := flag 6 (link.flags spare) } :=
    (Reader.reads_word16 link.eventId).bind ((Reader.reads_octet (link.flags spare)).bind_pure _)
  rw [listed, simulcast] at reads
  exact reads

end EventLink

namespace LinkTarget

def Fits : LinkTarget → Prop
  | service idType _ _ _ => idType.toNat < 3
  | userDefined _ => True

/-- The type of the id and the two presence flags, which are free for the user's own id. -/
def code (spare : Nat) : LinkTarget → Nat
  | service idType _ networkId serviceId =>
      idType.toNat * 4 + networkId.isSome.toNat * 2 + serviceId.isSome.toNat
  | userDefined _ => 12 + spare % 4

def layout : LinkTarget → Octets
  | service _ id networkId serviceId =>
      octets16 id ++ (optional16 networkId ++ optional16 serviceId)
  | userDefined id => octets16 id

theorem code_lt (spare : Nat) {target : LinkTarget} (fits : target.Fits) :
    target.code spare < 16 := by
  cases target with
  | service idType id networkId serviceId =>
      have narrow : idType.toNat < 3 := fits
      have networkBit := Bool.toNat_le networkId.isSome
      have serviceBit := Bool.toNat_le serviceId.isSome
      simp only [code]
      omega
  | userDefined id =>
      simp only [code]
      omega

theorem reads_layout {spare : Nat} {target : LinkTarget} (fits : target.Fits) {flags : UInt8}
    (packed : flags.toNat % 16 = target.code spare) :
    (LinkTarget.reader flags).Reads target.layout target := by
  cases target with
  | service idType id networkId serviceId =>
      have narrow : idType.toNat < 3 := fits
      have networkBit := Bool.toNat_le networkId.isSome
      have serviceBit := Bool.toNat_le serviceId.isSome
      simp only [code] at packed
      have kind : bits 2 2 flags = idType := by
        apply bits_eq
        omega
      have networkFlag : flag 1 flags = networkId.isSome := by
        apply flag_eq
        omega
      have serviceFlag : flag 0 flags = serviceId.isSome := by
        apply flag_eq
        omega
      have known : idType ≠ 3 := by
        rintro rfl
        exact absurd narrow (by decide)
      refine (Reader.reads_word16 id).bind ?_
      rw [kind, if_neg known, networkFlag, serviceFlag]
      exact (Reader.reads_onlyIf networkId).bind ((Reader.reads_onlyIf serviceId).bind_pure _)
  | userDefined id =>
      simp only [code] at packed
      have kind : bits 2 2 flags = 3 := by
        apply bits_eq
        change _ = 3
        omega
      unfold LinkTarget.reader
      simp only [kind, if_true]
      exact (Reader.reads_word16 id).bind_pure _

end LinkTarget

namespace ExtendedEventLink

structure Fits (link : ExtendedEventLink) : Prop where
  linkType : link.linkType.toNat < 4
  target : link.target.Fits

def flags (spare : Nat) (link : ExtendedEventLink) : UInt8 :=
  link.event.flags (link.linkType.toNat * 16 + link.target.code spare)

def layout (spare : Nat) (link : ExtendedEventLink) : Octets :=
  octets16 link.event.eventId ++ link.flags spare :: link.target.layout

theorem reads_layout (spare : Nat) {link : ExtendedEventLink} (fits : link.Fits) :
    ExtendedEventLink.reader.Reads (link.layout spare) link := by
  have narrow := fits.linkType
  have targetBits := LinkTarget.code_lt spare fits.target
  have packed : (link.flags spare).toNat = _ := link.event.flags_toNat _
  obtain ⟨listed, simulcast⟩ : flag 7 (link.flags spare) = link.event.listed ∧
    flag 6 (link.flags spare) = link.event.simulcast := link.event.flag_flags _
  have linkType : bits 4 2 (link.flags spare) = link.linkType := by
    apply bits_eq
    omega
  have targetCode : (link.flags spare).toNat % 16 = link.target.code spare := by omega
  have target := LinkTarget.reads_layout fits.target targetCode
  have reads : ExtendedEventLink.reader.Reads (link.layout spare)
      { target := link.target
        event :=
          { eventId := link.event.eventId
            listed := flag 7 (link.flags spare)
            simulcast := flag 6 (link.flags spare) }
        linkType := bits 4 2 (link.flags spare) } :=
    (Reader.reads_word16 link.event.eventId).bind
      ((Reader.reads_octet (link.flags spare)).bind (target.bind_pure _))
  rw [listed, simulcast, linkType] at reads
  exact reads

/-- One link after the other, each with spare bits of its own. -/
def area (spare : Spare) (links : List ExtendedEventLink) : Octets :=
  links.zipIdx.flatMap fun entry => entry.1.layout (spare entry.2)

theorem ofArea_area_append (spare : Spare) {links : List ExtendedEventLink}
    (fits : ∀ link ∈ links, link.Fits) {rest : Octets} {cause : ReadError}
    (stuck : ExtendedEventLink.reader.run rest = .error cause) :
    ofArea (area spare links ++ rest) = links := by
  have reads : ∀ entry ∈ links.zipIdx,
      ExtendedEventLink.reader.Reads (entry.1.layout (spare entry.2)) entry.1 :=
    fun entry member => reads_layout _ (fits entry.1 (List.fst_mem_of_mem_zipIdx member))
  rw [ofArea, area, Reader.repeated_layouts reader_progresses reads stuck, List.zipIdx_map_fst]

theorem ofArea_area (spare : Spare) {links : List ExtendedEventLink}
    (fits : ∀ link ∈ links, link.Fits) : ofArea (area spare links) = links := by
  have stuck : ExtendedEventLink.reader.run [] = .error .truncated := rfl
  rw [← List.append_nil (area spare links)]
  exact ofArea_area_append spare fits stuck

end ExtendedEventLink

namespace LinkDetail

/-- Whether the detail is the one that goes with the type of the link. -/
def Fits (linkageType : UInt8) : LinkDetail → Prop
  | mobileHandOver detail => linkageType = 0x08 ∧ detail.handOver.Fits
  | event _ => linkageType = 0x0D
  | extendedEvents links =>
      (0x0E ≤ linkageType ∧ linkageType ≤ 0x1F) ∧ ∀ link ∈ links, link.Fits
  | other =>
      linkageType ≠ 0x08 ∧ linkageType ≠ 0x0D ∧ ¬(0x0E ≤ linkageType ∧ linkageType ≤ 0x1F)

def layout (spare : Spare) : LinkDetail → Octets
  | mobileHandOver detail => detail.layout (spare 0)
  | event link => link.layout (spare 0)
  | extendedEvents links => counted (ExtendedEventLink.area spare links)
  | other => []

theorem reads_layout (spare : Spare) {linkageType : UInt8} {detail : LinkDetail}
    (fits : detail.Fits linkageType) (short : (detail.layout spare).length < 256) :
    (Linkage.detailReader linkageType).Reads (detail.layout spare) detail := by
  cases detail with
  | mobileHandOver detail =>
      obtain ⟨rfl, fits⟩ := fits
      exact (MobileHandOver.reads_layout (spare 0) fits).map mobileHandOver
  | event link =>
      obtain rfl : linkageType = 0x0D := fits
      exact (EventLink.reads_layout (spare 0) link).map event
  | extendedEvents links =>
      obtain ⟨extended, fits⟩ := fits
      simp only [layout, length_counted] at short
      have area := (Reader.reads_takeUpTo (length_eq_toNat (Nat.lt_of_succ_lt short))).bind_pure
        fun area => LinkDetail.extendedEvents (ExtendedEventLink.ofArea area)
      rw [ExtendedEventLink.ofArea_area spare fits] at area
      rw [Linkage.detailReader_of_extended extended]
      exact (Reader.reads_octet _).bind area
  | other =>
      obtain ⟨notHandOver, notEvent, outside⟩ := fits
      rw [Linkage.detailReader_of_other notHandOver notEvent outside]
      exact fun _ => rfl

end LinkDetail

namespace Linkage

def Fits (body : Linkage) : Prop := body.detail.Fits body.linkageType

def layout (spare : Spare) (body : Linkage) : Octets :=
  octets16 body.transportStreamId ++ (octets16 body.networkId ++ (octets16 body.serviceId ++
    body.linkageType :: (body.detail.layout spare ++ body.privateData)))

theorem fills_layout (spare : Spare) {body : Linkage} (fits : body.Fits)
    (short : (body.layout spare).length < 256) :
    Linkage.reader.Fills (body.layout spare) body := by
  simp only [layout, List.length_append, List.length_cons] at short
  have detail := LinkDetail.reads_layout spare fits (by omega)
  exact (Reader.reads_word16 body.transportStreamId).bind_fills
    ((Reader.reads_word16 body.networkId).bind_fills
      ((Reader.reads_word16 body.serviceId).bind_fills
        ((Reader.reads_octet body.linkageType).bind_fills
          (detail.bind_fills ((Reader.fills_takeRest body.privateData).bind_pure _)))))

end Linkage

end ProgrammeGuide
