import ProgrammeGuide.Proofs.Records

/-!
What an event keeps of the descriptors that are merged into it. Each field has a kind of its own
and a rule: the latest value stands, or the latest that says anything, or the first one, or the
parts are joined. So an event is told by the bodies of each kind in their order, however the kinds
are mixed with each other.
-/

namespace ProgrammeGuide

attribute [ext] GuideEvent

namespace GuideEvent

/-- The event that the bodies of each kind make of a new one. -/
def toldBy (limits : Limits) (start : GuideEvent) (sent : (kind : Kind) → List kind.Body) :
    GuideEvent :=
  { start with
    language := (sent .shortEvent).getLast?.map ShortEvent.language
    name := (((sent .shortEvent).map ShortEvent.name).filter fun name =>
      !name.isEmpty).getLast?.getD .empty
    shortText := (((sent .shortEvent).map ShortEvent.text).filter fun text =>
      !text.isEmpty).getLast?.getD .empty
    longDescription :=
      LongDescription.joined limits start.source (ExtendedEvent.records (sent .extendedEvent))
    component := (sent .component).getLast?
    genre := ((sent .content).filterMap fun body => body.genres.head?).getLast?
    rating := ((sent .parentalRating).filterMap fun body => body.ratings.head?).head?
    smoothingBuffer := (sent .shortSmoothingBuffer).getLast?.map ShortSmoothingBuffer.buffer
    label := (sent .deliveryControl).getLast?.map DeliveryControl.label
    shiftedFrom := (sent .timeShiftedEvent).getLast?.map fun body =>
      ⟨body.serviceId, { start.key with eventId := body.eventId }⟩
    accessSystems := ((sent .conditionalAccess).map ConditionalAccess.systemIds).getLast?.getD [] }

/-- The fields that a kind speaks about are the same. -/
def AgreesOn (first second : GuideEvent) : Kind → Prop
  | .shortEvent => first.language = second.language ∧ first.name = second.name ∧
      first.shortText = second.shortText
  | .extendedEvent => first.longDescription = second.longDescription
  | .component => first.component = second.component
  | .content => first.genre = second.genre
  | .parentalRating => first.rating = second.rating
  | .shortSmoothingBuffer => first.smoothingBuffer = second.smoothingBuffer
  | .deliveryControl => first.label = second.label
  | .timeShiftedEvent => first.shiftedFrom = second.shiftedFrom
  | .conditionalAccess => first.accessSystems = second.accessSystems
  | _ => True

theorem toldBy_agreesOn (limits : Limits) (start : GuideEvent)
    {sent others : (kind : Kind) → List kind.Body} {kind : Kind}
    (same : sent kind = others kind) :
    AgreesOn (toldBy limits start sent) (toldBy limits start others) kind := by
  cases kind <;> simp only [AgreesOn, toldBy, same, and_self]

section Rules

variable {limits : Limits} {event : GuideEvent} (kind : Kind) {α : Type}

theorem offers_concat (offer : kind.Body → Option α) (earlier : List Descriptor)
    (descriptor : Descriptor) :
    ((earlier ++ [descriptor]).filterMap kind.body?).filterMap offer =
      (earlier.filterMap kind.body?).filterMap offer ++
        ((kind.body? descriptor).bind offer).toList := by
  rw [List.filterMap_append, List.filterMap_append]
  congr 1
  cases own : kind.body? descriptor with
  | none => simp [own]
  | some body => cases offered : offer body <;> simp [own, offered]

/-- The key never changes, so what is offered may depend on it. -/
theorem foldl_merge_latest (field : GuideEvent → Option α) (offer : kind.Body → Option α)
    (latest : ∀ other descriptor, other.key = event.key → field (merge limits other descriptor) =
      ((kind.body? descriptor).bind offer).or (field other))
    (descriptors : List Descriptor) :
    field (descriptors.foldl (merge limits) event) =
      ((descriptors.filterMap kind.body?).filterMap offer).getLast?.or (field event) := by
  induction descriptors using List.reverseRecOn with
  | nil => rfl
  | append_singleton earlier descriptor ih =>
      have key := foldl_merge_keeps (merge_key limits) event earlier
      rw [List.foldl_concat, latest _ descriptor key, ih, offers_concat, List.getLast?_append,
        Option.or_assoc]
      cases (kind.body? descriptor).bind offer <;> rfl

theorem foldl_merge_first (field : GuideEvent → Option α) (offer : kind.Body → Option α)
    (first : ∀ other descriptor, field (merge limits other descriptor) =
      (field other).or ((kind.body? descriptor).bind offer))
    (descriptors : List Descriptor) :
    field (descriptors.foldl (merge limits) event) =
      (field event).or ((descriptors.filterMap kind.body?).filterMap offer).head? := by
  induction descriptors using List.reverseRecOn with
  | nil => exact Option.or_none.symm
  | append_singleton earlier descriptor ih =>
      rw [List.foldl_concat, first, ih, offers_concat, List.head?_append, Option.or_assoc,
        Option.head?_toList]

/-- Of what every body of the kind says, the last stands. -/
theorem foldl_merge_last (field : GuideEvent → Option α) (value : kind.Body → α)
    (unset : field event = none)
    (last : ∀ other descriptor, other.key = event.key → field (merge limits other descriptor) =
      ((kind.body? descriptor).map value).or (field other))
    (descriptors : List Descriptor) :
    field (descriptors.foldl (merge limits) event) =
      (descriptors.filterMap kind.body?).getLast?.map value := by
  have latest := foldl_merge_latest kind field (some ∘ value) (fun other descriptor same => by
    rw [last other descriptor same, ← Option.map_eq_bind]) descriptors
  rw [latest, unset, Option.or_none, List.filterMap_eq_map, List.getLast?_map]

theorem foldl_merge_latest_getD (field : GuideEvent → α) (offer : kind.Body → Option α)
    (latest : ∀ other descriptor, some (field (merge limits other descriptor)) =
      ((kind.body? descriptor).bind offer).or (some (field other)))
    (descriptors : List Descriptor) :
    field (descriptors.foldl (merge limits) event) =
      ((descriptors.filterMap kind.body?).filterMap offer).getLast?.getD (field event) := by
  have folded := foldl_merge_latest kind (fun other => some (field other)) offer
    (fun other descriptor (_ : other.key = event.key) => latest other descriptor) descriptors
  rwa [Option.or_some, Option.some.injEq] at folded

theorem some_ite_isEmpty (said held : Text) :
    some (if said.isEmpty then held else said) =
      (Option.guard (fun text => !text.isEmpty) said).or (some held) := by
  cases empty : said.isEmpty <;> simp [Option.guard, empty]

/-- A text that is sent empty is passed over. -/
theorem foldl_merge_text (field : GuideEvent → Text) (value : ShortEvent → Text)
    (latest : ∀ other descriptor, some (field (merge limits other descriptor)) =
      ((Kind.shortEvent.body? descriptor).bind fun body =>
        Option.guard (fun text => !text.isEmpty) (value body)).or (some (field other)))
    (descriptors : List Descriptor) :
    field (descriptors.foldl (merge limits) event) =
      (((descriptors.filterMap Kind.shortEvent.body?).map value).filter fun text =>
        !text.isEmpty).getLast?.getD (field event) := by
  rw [foldl_merge_latest_getD .shortEvent field _ latest, ← List.filterMap_eq_filter,
    List.filterMap_map]
  rfl

end Rules

/-- An event of which nothing but the fixed part is known. -/
def untold (key : EventKey) (serviceId : UInt16) (airing : Airing) (source : Option TableVersion) :
    GuideEvent :=
  { blank key serviceId with airing, source }

variable (limits : Limits) (key : EventKey) (serviceId : UInt16) (airing : Airing)
  (source : Option TableVersion) (descriptors : List Descriptor)

theorem foldl_merge_eq_toldBy :
    descriptors.foldl (merge limits) (untold key serviceId airing source) =
      toldBy limits (untold key serviceId airing source) fun kind =>
        descriptors.filterMap kind.body? := by
  apply GuideEvent.ext
  case key => exact foldl_merge_keeps (merge_key limits) _ _
  case source => exact foldl_merge_keeps (merge_source limits) _ _
  case serviceId | airing =>
    refine foldl_merge_keeps (fun event descriptor => ?_) _ _
    cases descriptor <;> rfl
  case language =>
    refine foldl_merge_last .shortEvent GuideEvent.language _ rfl ?_ _
    intro event descriptor _
    cases descriptor <;> rfl
  case name =>
    refine foldl_merge_text GuideEvent.name _ (fun event descriptor => ?_) _
    cases descriptor with
    | shortEvent body => exact some_ite_isEmpty body.name event.name
    | _ => rfl
  case shortText =>
    refine foldl_merge_text GuideEvent.shortText _ (fun event descriptor => ?_) _
    cases descriptor with
    | shortEvent body => exact some_ite_isEmpty body.text event.shortText
    | _ => rfl
  case longDescription => exact foldl_merge_joined limits rfl descriptors
  case component =>
    refine (foldl_merge_last .component GuideEvent.component id rfl ?_ _).trans
      Option.map_id_apply
    intro event descriptor _
    cases descriptor <;> rfl
  case genre =>
    refine (foldl_merge_latest .content GuideEvent.genre _ ?_ _).trans Option.or_none
    intro event descriptor _
    cases descriptor <;> rfl
  case rating =>
    refine foldl_merge_first .parentalRating GuideEvent.rating _ (fun event descriptor => ?_) _
    cases descriptor with
    | parentalRating body => rfl
    | _ => exact Option.or_none.symm
  case smoothingBuffer =>
    refine foldl_merge_last .shortSmoothingBuffer GuideEvent.smoothingBuffer _ rfl ?_ _
    intro event descriptor _
    cases descriptor <;> rfl
  case label =>
    refine foldl_merge_last .deliveryControl GuideEvent.label _ rfl ?_ _
    intro event descriptor _
    cases descriptor <;> rfl
  case shiftedFrom =>
    refine foldl_merge_last .timeShiftedEvent GuideEvent.shiftedFrom _ rfl ?_ _
    intro event descriptor same
    cases descriptor with
    | timeShiftedEvent body =>
        rw [← same]
        rfl
    | _ => rfl
  case accessSystems =>
    refine (foldl_merge_latest_getD .conditionalAccess GuideEvent.accessSystems
      (some ∘ ConditionalAccess.systemIds) (fun event descriptor => ?_) _).trans ?_
    · cases descriptor <;> rfl
    · rw [List.filterMap_eq_map]
      rfl

/-- Every field is told by the descriptors of its own kind alone, so how the kinds are mixed with
each other makes no difference. -/
theorem foldl_merge_untold :
    let start := untold key serviceId airing source
    let sent (kind : Kind) : List kind.Body := descriptors.filterMap kind.body?
    let merged := descriptors.foldl (merge limits) start
    merged = toldBy limits start sent ∧
    (∀ (others : List Descriptor) (kind : Kind), others.filterMap kind.body? = sent kind →
      AgreesOn (others.foldl (merge limits) start) merged kind) ∧
    ∀ others : List Descriptor, (∀ kind : Kind, others.filterMap kind.body? = sent kind) →
      others.foldl (merge limits) start = merged := by
  intro start sent merged
  have told : merged = toldBy limits start sent :=
    foldl_merge_eq_toldBy limits key serviceId airing source descriptors
  have others_told (others : List Descriptor) : others.foldl (merge limits) start = _ :=
    foldl_merge_eq_toldBy limits key serviceId airing source others
  refine ⟨told, fun others kind same => ?_, fun others same => ?_⟩
  · rw [others_told, told]
    exact toldBy_agreesOn limits start same
  · rw [others_told, told]
    exact congrArg (toldBy limits start) (funext same)

/-- Descriptors of four kinds, mixed and then kind by kind. Empty names and texts and empty lists of
ratings and genres are passed over, an empty list of access systems is not. -/
theorem foldl_merge_untold_mixed :
    let start := untold ⟨1, 2, 3⟩ 0x10 ⟨.undefined, .zero, .running, false⟩
      (some ⟨.actualPresentFollowing, 7⟩)
    let named : Descriptor := .shortEvent ⟨⟨0x65, 0x6E, 0x67⟩, ⟨[0x41]⟩, ⟨[]⟩⟩
    let worded : Descriptor := .shortEvent ⟨⟨0x6A, 0x70, 0x6E⟩, ⟨[]⟩, ⟨[0x42]⟩⟩
    let rated (ages : List UInt8) : Descriptor :=
      .parentalRating ⟨ages.map fun age => ⟨⟨0x4A, 0x50, 0x4E⟩, age⟩⟩
    let sorted (mains : List UInt8) : Descriptor := .content ⟨mains.map fun main => ⟨main, 0, 0⟩⟩
    let access (systems : List UInt16) : Descriptor := .conditionalAccess ⟨systems⟩
    let merged := [rated [], access [5], named, sorted [1, 2], rated [4, 6], worded, sorted [],
      access [], rated [9]].foldl (merge .unlimited) start
    merged = { start with
        language := some ⟨0x6A, 0x70, 0x6E⟩
        name := ⟨[0x41]⟩
        shortText := ⟨[0x42]⟩
        genre := some ⟨1, 0, 0⟩
        rating := some ⟨⟨0x4A, 0x50, 0x4E⟩, 4⟩ } ∧
      [named, worded, access [5], access [], sorted [1, 2], sorted [], rated [], rated [4, 6],
        rated [9]].foldl (merge .unlimited) start = merged := by
  intro start named worded rated sorted access merged
  obtain ⟨told, _, same⟩ := foldl_merge_untold .unlimited ⟨1, 2, 3⟩ 0x10
    ⟨.undefined, .zero, .running, false⟩ (some ⟨.actualPresentFollowing, 7⟩)
    [rated [], access [5], named, sorted [1, 2], rated [4, 6], worded, sorted [], access [], rated [9]]
  refine ⟨told.trans rfl, same _ fun kind => ?_⟩
  cases kind <;> rfl

end GuideEvent

end ProgrammeGuide
