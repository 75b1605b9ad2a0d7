import ProgrammeGuide.Proofs.Descriptors

/-!
The sixteen kinds of descriptors that are registered. A descriptor is reached in two ways: in its
turn, through the registry of all kinds, or through the one kind that is asked for. Both ways find
the same bodies, and a descriptor is unsupported exactly when its tag belongs to none of the kinds.
-/

namespace ProgrammeGuide

inductive Kind
  | stuffing
  | service
  | linkage
  | shortEvent
  | extendedEvent
  | timeShiftedEvent
  | component
  | conditionalAccess
  | content
  | parentalRating
  | telephone
  | multilingualComponent
  | privateDataSpecifier
  | shortSmoothingBuffer
  | dataBroadcast
  | deliveryControl
  deriving DecidableEq, Repr

namespace Kind

abbrev Body : Kind → Type
  | stuffing => Stuffing
  | service => Service
  | linkage => Linkage
  | shortEvent => ShortEvent
  | extendedEvent => ExtendedEvent
  | timeShiftedEvent => TimeShiftedEvent
  | component => Component
  | conditionalAccess => ConditionalAccess
  | content => Content
  | parentalRating => ParentalRating
  | telephone => Telephone
  | multilingualComponent => MultilingualComponent
  | privateDataSpecifier => PrivateDataSpecifier
  | shortSmoothingBuffer => ShortSmoothingBuffer
  | dataBroadcast => DataBroadcast
  | deliveryControl => DeliveryControl

instance descriptorBody : (kind : Kind) → DescriptorBody kind.Body
  | stuffing => inferInstanceAs (DescriptorBody Stuffing)
  | service => inferInstanceAs (DescriptorBody Service)
  | linkage => inferInstanceAs (DescriptorBody Linkage)
  | shortEvent => inferInstanceAs (DescriptorBody ShortEvent)
  | extendedEvent => inferInstanceAs (DescriptorBody ExtendedEvent)
  | timeShiftedEvent => inferInstanceAs (DescriptorBody TimeShiftedEvent)
  | component => inferInstanceAs (DescriptorBody Component)
  | conditionalAccess => inferInstanceAs (DescriptorBody ConditionalAccess)
  | content => inferInstanceAs (DescriptorBody Content)
  | parentalRating => inferInstanceAs (DescriptorBody ParentalRating)
  | telephone => inferInstanceAs (DescriptorBody Telephone)
  | multilingualComponent => inferInstanceAs (DescriptorBody MultilingualComponent)
  | privateDataSpecifier => inferInstanceAs (DescriptorBody PrivateDataSpecifier)
  | shortSmoothingBuffer => inferInstanceAs (DescriptorBody ShortSmoothingBuffer)
  | dataBroadcast => inferInstanceAs (DescriptorBody DataBroadcast)
  | deliveryControl => inferInstanceAs (DescriptorBody DeliveryControl)

def tag : Kind → UInt8
  | stuffing => 0x42
  | service => 0x48
  | linkage => 0x4A
  | shortEvent => 0x4D
  | extendedEvent => 0x4E
  | timeShiftedEvent => 0x4F
  | component => 0x50
  | conditionalAccess => 0x53
  | content => 0x54
  | parentalRating => 0x55
  | telephone => 0x57
  | multilingualComponent => 0x5E
  | privateDataSpecifier => 0x5F
  | shortSmoothingBuffer => 0x61
  | dataBroadcast => 0x64
  | deliveryControl => 0x69

def wrap : (kind : Kind) → kind.Body → Descriptor
  | stuffing => .stuffing
  | service => .service
  | linkage => .linkage
  | shortEvent => .shortEvent
  | extendedEvent => .extendedEvent
  | timeShiftedEvent => .timeShiftedEvent
  | component => .component
  | conditionalAccess => .conditionalAccess
  | content => .content
  | parentalRating => .parentalRating
  | telephone => .telephone
  | multilingualComponent => .multilingualComponent
  | privateDataSpecifier => .privateDataSpecifier
  | shortSmoothingBuffer => .shortSmoothingBuffer
  | dataBroadcast => .dataBroadcast
  | deliveryControl => .deliveryControl

/-- The body of a descriptor of this kind; none if it is of another kind. -/
def body? : (kind : Kind) → Descriptor → Option kind.Body
  | stuffing, .stuffing body => some body
  | service, .service body => some body
  | linkage, .linkage body => some body
  | shortEvent, .shortEvent body => some body
  | extendedEvent, .extendedEvent body => some body
  | timeShiftedEvent, .timeShiftedEvent body => some body
  | component, .component body => some body
  | conditionalAccess, .conditionalAccess body => some body
  | content, .content body => some body
  | parentalRating, .parentalRating body => some body
  | telephone, .telephone body => some body
  | multilingualComponent, .multilingualComponent body => some body
  | privateDataSpecifier, .privateDataSpecifier body => some body
  | shortSmoothingBuffer, .shortSmoothingBuffer body => some body
  | dataBroadcast, .dataBroadcast body => some body
  | deliveryControl, .deliveryControl body => some body
  | _, _ => none

theorem body?_wrap (kind : Kind) (body : kind.Body) : kind.body? (kind.wrap body) = some body := by
  cases kind <;> rfl

theorem tag_wrap (kind : Kind) (body : kind.Body) : (kind.wrap body).tag = kind.tag := by
  cases kind <;> rfl

theorem tag_body (kind : Kind) : DescriptorBody.tag kind.Body = kind.tag := by
  cases kind <;> rfl

theorem body?_eq_some_iff {kind : Kind} {descriptor : Descriptor} {body : kind.Body} :
    kind.body? descriptor = some body ↔ descriptor = kind.wrap body := by
  constructor
  · intro found
    cases kind <;> cases descriptor <;> cases found <;> rfl
  · rintro rfl
    exact body?_wrap kind body

theorem bodyReader?_tag (kind : Kind) : Descriptor.bodyReader? kind.tag =
    some fun octets => (DescriptorBody.read octets).map kind.wrap := by
  cases kind <;> rfl

def all : List Kind := [
  stuffing, service, linkage, shortEvent, extendedEvent, timeShiftedEvent, component,
  conditionalAccess, content, parentalRating, telephone, multilingualComponent,
  privateDataSpecifier, shortSmoothingBuffer, dataBroadcast, deliveryControl]

theorem exists_of_bodyReader? {tag : UInt8} {readBody : Descriptor.BodyReader}
    (found : Descriptor.bodyReader? tag = some readBody) : ∃ kind : Kind, kind.tag = tag := by
  have tags : Descriptor.registry.map Prod.fst = all.map Kind.tag := rfl
  have listed : tag ∈ Descriptor.registry.map Prod.fst :=
    List.mem_map_of_mem (Descriptor.mem_registry_of_bodyReader? found)
  rw [tags] at listed
  obtain ⟨kind, _, same⟩ := List.mem_map.mp listed
  exact ⟨kind, same⟩

variable {kind : Kind} {raw : RawDescriptor}

theorem read_of_tag (tagged : raw.tag = kind.tag) :
    Descriptor.read raw = (DescriptorBody.read raw.body).map kind.wrap := by
  rw [Descriptor.read, tagged, bodyReader?_tag]

/-- What the registry makes of a descriptor is a body of a kind exactly when the descriptor has the
tag of the kind, and then it is the body that the kind itself reads. -/
theorem body?_read (kind : Kind) (raw : RawDescriptor) :
    (Descriptor.read raw).toOption.bind kind.body? =
      if raw.tag = kind.tag then (DescriptorBody.read raw.body).toOption else none := by
  by_cases tagged : raw.tag = kind.tag
  · rw [if_pos tagged, read_of_tag tagged]
    cases (DescriptorBody.read raw.body : Except ReadError kind.Body) with
    | error cause => rfl
    | ok body => exact kind.body?_wrap body
  · rw [if_neg tagged]
    cases ran : Descriptor.read raw with
    | error cause => rfl
    | ok descriptor =>
        refine Option.eq_none_iff_forall_ne_some.mpr fun body found => tagged ?_
        rw [← Descriptor.tag_of_read ran, body?_eq_some_iff.mp found, tag_wrap]

theorem read_body_of_read (kind : Kind) {body : kind.Body}
    (found : Descriptor.read raw = .ok (kind.wrap body)) :
    DescriptorBody.read raw.body = .ok body := by
  have tagged : raw.tag = kind.tag := by rw [← Descriptor.tag_of_read found, tag_wrap]
  have own := kind.body?_read raw
  rw [if_pos tagged, found] at own
  exact toOption_eq_some_iff.mp (own.symm.trans (kind.body?_wrap body))

end Kind

theorem Descriptor.read_eq_unsupported_iff {raw : RawDescriptor} :
    (∃ tag, read raw = .ok (.unsupported tag)) ↔ bodyReader? raw.tag = none := by
  constructor
  · rintro ⟨tag, ran⟩
    refine Option.eq_none_iff_forall_ne_some.mpr fun readBody found => ?_
    obtain ⟨kind, same⟩ := Kind.exists_of_bodyReader? found
    rw [Kind.read_of_tag same.symm] at ran
    obtain ⟨body, _, wrapped⟩ := map_eq_ok_iff.mp ran
    have unsupported := kind.body?_wrap body
    rw [wrapped] at unsupported
    cases kind <;> cases unsupported
  · intro unregistered
    exact ⟨raw.tag, by rw [read, unregistered]⟩

namespace DescriptorBlock

/-- The descriptor is the first one in the block with this tag. -/
def Leads (block : DescriptorBlock) (tag : UInt8) (raw : RawDescriptor) : Prop :=
  raw.tag = tag ∧ ∃ before after, block.raw = before ++ raw :: after ∧
    ∀ other ∈ before, other.tag ≠ tag

theorem Leads.mem {block : DescriptorBlock} {tag : UInt8} {raw : RawDescriptor}
    (leads : block.Leads tag raw) : raw ∈ block.raw := by
  obtain ⟨_, before, after, split, _⟩ := leads
  rw [split]
  simp

variable (block : DescriptorBlock) (kind : Kind)

theorem find?_tag_eq_some_iff {tag : UInt8} {raw : RawDescriptor} :
    (block.raw.find? fun raw => raw.tag = tag) = some raw ↔ block.Leads tag raw := by
  rw [List.find?_eq_some_iff_append]
  simp [Leads]

theorem ofKind_eq : block.ofKind kind.Body = block.readable.filterMap kind.body? := by
  rw [readable, parsed, List.filterMap_filterMap, List.filterMap_map, ofKind, kind.tag_body]
  exact List.filterMap_congr fun raw _ => (kind.body?_read raw).symm

theorem first?_cases :
    ((∀ raw ∈ block.raw, raw.tag ≠ kind.tag) ∧ block.first? kind.Body = none) ∨
      ∃ raw, block.Leads kind.tag raw ∧
        block.first? kind.Body = (DescriptorBody.read raw.body).toOption := by
  rw [first?, kind.tag_body]
  cases found : block.raw.find? fun raw => raw.tag = kind.tag with
  | none => exact Or.inl ⟨by simpa using found, rfl⟩
  | some raw => exact Or.inr ⟨raw, block.find?_tag_eq_some_iff.mp found, rfl⟩

theorem Leads.first?_eq {block : DescriptorBlock} {kind : Kind} {raw : RawDescriptor}
    (leads : block.Leads kind.tag raw) :
    block.first? kind.Body = (DescriptorBody.read raw.body).toOption := by
  rw [first?, kind.tag_body, block.find?_tag_eq_some_iff.mpr leads]
  rfl

theorem first?_eq_some_iff {kind : Kind} {body : kind.Body} :
    block.first? kind.Body = some body ↔
      ∃ raw, block.Leads kind.tag raw ∧ DescriptorBody.read raw.body = .ok body := by
  constructor
  · intro first
    rcases block.first?_cases kind with ⟨_, none⟩ | ⟨raw, leads, found⟩
    · rw [none] at first
      cases first
    · exact ⟨raw, leads, toOption_eq_some_iff.mp (found.symm.trans first)⟩
  · rintro ⟨raw, leads, ran⟩
    rw [leads.first?_eq, toOption_eq_some_iff.mpr ran]

theorem first?_eq_none_iff {kind : Kind} :
    block.first? kind.Body = none ↔ (∀ raw ∈ block.raw, raw.tag ≠ kind.tag) ∨
      ∃ raw cause, block.Leads kind.tag raw ∧
        DescriptorBody.read (α := kind.Body) raw.body = .error cause := by
  constructor
  · intro missing
    rcases block.first?_cases kind with ⟨untagged, _⟩ | ⟨raw, leads, found⟩
    · exact Or.inl untagged
    · cases ran : DescriptorBody.read (α := kind.Body) raw.body with
      | error cause => exact Or.inr ⟨raw, cause, leads, ran⟩
      | ok body =>
          rw [found, ran] at missing
          cases missing
  · rintro (untagged | ⟨raw, cause, leads, failed⟩)
    · rcases block.first?_cases kind with ⟨_, none⟩ | ⟨raw, leads, _⟩
      · exact none
      · exact absurd leads.1 (untagged raw leads.mem)
    · rw [leads.first?_eq, failed]
      rfl

theorem head?_ofKind {kind : Kind} {body : kind.Body}
    (first : block.first? kind.Body = some body) :
    (block.ofKind kind.Body).head? = some body := by
  obtain ⟨_, none⟩ | ⟨raw, leads, found⟩ := block.first?_cases kind
  · rw [none] at first
    cases first
  · obtain ⟨tagged, before, after, split, others⟩ := leads
    have passed : before.findSome? (fun raw => if raw.tag = kind.tag then
        (DescriptorBody.read (α := kind.Body) raw.body).toOption else none) = none :=
      List.findSome?_eq_none_iff.mpr fun other member => if_neg (others other member)
    rw [ofKind, List.head?_filterMap, kind.tag_body, split, List.findSome?_append, passed,
      List.findSome?_cons, if_pos tagged, ← found, first]
    rfl

/-- The descriptors of a kind are those that come out when all are read. The first one is read from
the first descriptor with the tag of the kind, and when this one fails there is none, whatever comes
later. Read in their turn, all descriptors give one result each, with the tag that they have, and
those are unsupported whose tag is not registered. -/
theorem ofKind_agrees :
    block.ofKind kind.Body = (block.parsed.filterMap Except.toOption).filterMap kind.body? ∧
    (∀ body, block.first? kind.Body = some body ↔
      ∃ raw, block.Leads kind.tag raw ∧ DescriptorBody.read raw.body = .ok body) ∧
    (block.first? kind.Body = none ↔ (∀ raw ∈ block.raw, raw.tag ≠ kind.tag) ∨
      ∃ raw cause, block.Leads kind.tag raw ∧
        DescriptorBody.read (α := kind.Body) raw.body = .error cause) ∧
    (∀ body, block.first? kind.Body = some body → (block.ofKind kind.Body).head? = some body) ∧
    List.Forall₂ (fun raw result => result = Descriptor.read raw ∧
      (∀ descriptor, result = .ok descriptor → descriptor.tag = raw.tag) ∧
      ((∃ tag, result = .ok (.unsupported tag)) ↔ Descriptor.bodyReader? raw.tag = none))
      block.raw block.parsed := by
  refine ⟨block.ofKind_eq kind, fun body => block.first?_eq_some_iff, block.first?_eq_none_iff,
    fun body first => block.head?_ofKind first, ?_⟩
  rw [parsed, List.forall₂_map_right_iff, List.forall₂_same]
  exact fun raw _ => ⟨rfl, fun _ => Descriptor.tag_of_read, Descriptor.read_eq_unsupported_iff⟩

/-- A rating that is cut short before a whole one, an unregistered tag, two components, and a last
descriptor that is cut off. -/
theorem ofKind_agrees_repeated :
    let block : DescriptorBlock :=
      ⟨[0x55, 0x01, 0x4A] ++ [0x55, 0x04, 0x4A, 0x50, 0x4E, 0x07] ++ [0x40, 0x01, 0x58] ++
        [0x50, 0x06, 0xF1, 0x01, 0x00, 0x65, 0x6E, 0x67] ++
        [0x50, 0x06, 0xF1, 0x02, 0x01, 0x65, 0x6E, 0x67] ++ [0x4D, 0x10, 0x00]⟩
    let component (kind tag : UInt8) : Component :=
      ⟨0x0F, 0x01, kind, tag, ⟨0x65, 0x6E, 0x67⟩, .empty⟩
    block.first? ParentalRating = none ∧
      block.ofKind ParentalRating = [⟨[⟨⟨0x4A, 0x50, 0x4E⟩, 0x07⟩]⟩] ∧
      block.first? Component = some (component 1 0) ∧
      (block.ofKind Component).head? = some (component 1 0) ∧
      block.parsed.length = 5 := by
  intro block component
  have raw : block.raw = [⟨0x55, [0x4A]⟩, ⟨0x55, [0x4A, 0x50, 0x4E, 0x07]⟩, ⟨0x40, [0x58]⟩,
      ⟨0x50, [0xF1, 0x01, 0x00, 0x65, 0x6E, 0x67]⟩,
      ⟨0x50, [0xF1, 0x02, 0x01, 0x65, 0x6E, 0x67]⟩] := by
    decide +kernel
  obtain ⟨typed, _, failing, _, results⟩ := block.ofKind_agrees .parentalRating
  obtain ⟨_, found, _, heads, _⟩ := block.ofKind_agrees .component
  have failed : block.first? ParentalRating = none :=
    failing.mpr (Or.inr ⟨_, .malformedLength, ⟨rfl, [], _, raw, by simp⟩, rfl⟩)
  have readable : block.ofKind ParentalRating = [⟨[⟨⟨0x4A, 0x50, 0x4E⟩, 0x07⟩]⟩] := by
    rw [parsed, raw] at typed
    exact typed
  have first : block.first? Component = some (component 1 0) := by
    refine (found _).mpr ⟨⟨0x50, [0xF1, 0x01, 0x00, 0x65, 0x6E, 0x67]⟩, ⟨rfl, block.raw.take 3,
      block.raw.drop 4, ?_, ?_⟩, rfl⟩
    · rw [raw]
      rfl
    · rw [raw]
      decide
  exact ⟨failed, readable, first, heads _ first, results.length_eq.symm.trans (congrArg _ raw)⟩

end DescriptorBlock

end ProgrammeGuide
