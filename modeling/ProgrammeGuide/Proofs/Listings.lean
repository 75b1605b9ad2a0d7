import Mathlib.Data.List.Nodup
import ProgrammeGuide.CommandLine
import ProgrammeGuide.Proofs.Store

/-!
The guide as it is printed. Under ascending headings stand all events of the guide, each of them
once and under its own service, by the octets of their starts; those that start together keep the
order in which they were first received. There is one such listing and no other.
-/

namespace ProgrammeGuide

section Sorting

variable {α : Type}

/-- A stable sort: values that are level keep an order that they had before. -/
theorem pairwise_mergeSort_stable {le : α → α → Bool} {earlier : α → α → Prop}
    (trans : ∀ first second third, le first second → le second third → le first third)
    (total : ∀ first second, le first second || le second first) {values : List α}
    (ordered : values.Pairwise earlier) :
    (values.mergeSort le).Pairwise fun first second =>
      le first second ∧ (le second first → earlier first second) := by
  induction values with
  | nil => simp
  | cons value others ih =>
      obtain ⟨behind, later⟩ := List.pairwise_cons.mp ordered
      obtain ⟨front, back, whole, rest, before⟩ := List.mergeSort_cons trans total value others
      have sorted := List.pairwise_mergeSort trans total (value :: others)
      have parts := ih later
      rw [whole] at sorted ⊢
      rw [rest] at parts
      simp only [List.pairwise_append, List.pairwise_cons, List.mem_cons, forall_eq_or_imp] at *
      obtain ⟨frontParts, backParts, across⟩ := parts
      obtain ⟨_, ⟨valueSorted, _⟩, frontSorted⟩ := sorted
      refine ⟨frontParts, ⟨?_, backParts⟩, ?_⟩
      · intro other member
        have received : other ∈ others :=
          (List.mergeSort_perm others le).mem_iff.mp (rest ▸ List.mem_append_right front member)
        exact ⟨valueSorted other member, fun _ => behind other received⟩
      · intro other member
        -- What the sort puts in front of the first value is below it and not level with it.
        have above : ¬le value other := by simpa using before other member
        exact ⟨⟨(frontSorted other member).1, fun level => absurd level above⟩, across other member⟩

theorem pairwise_idxOf_eraseDups [DecidableEq α] (values : List α) :
    values.eraseDups.Pairwise fun first second => values.idxOf first < values.idxOf second := by
  induction values using List.reverseRecOn with
  | nil => simp
  | append_singleton earlier value ih =>
      have kept : earlier.eraseDups.Pairwise fun first second =>
          (earlier ++ [value]).idxOf first < (earlier ++ [value]).idxOf second := by
        refine ih.imp_of_mem fun known other ordered => ?_
        rw [List.mem_eraseDups] at known other
        rwa [List.idxOf_append_of_mem known, List.idxOf_append_of_mem other]
      rw [eraseDups_concat]
      split
      · exact kept
      · rename_i unknown
        refine List.pairwise_append.mpr ⟨kept, List.pairwise_singleton _ _, ?_⟩
        intro first member last found
        rw [List.mem_eraseDups] at member
        rw [List.mem_singleton.mp found, List.idxOf_append_of_mem member,
          List.idxOf_append_of_notMem unknown]
        exact Nat.lt_of_lt_of_le (List.idxOf_lt_length_of_mem member) (Nat.le_add_right _ _)

end Sorting

namespace StartTime

theorem le_trans (first second third : StartTime) (lower : first.le second)
    (upper : second.le third) : first.le third := by
  simp only [StartTime.le, decide_eq_true_eq] at *
  exact List.le_trans lower upper

theorem le_total (first second : StartTime) : first.le second || second.le first := by
  simp only [StartTime.le, Bool.or_eq_true, decide_eq_true_eq]
  exact List.le_total first.octets second.octets

theorem lt_of_not_le {first second : StartTime} (above : ¬second.le first) :
    first.octets < second.octets := by
  simpa only [StartTime.le, decide_eq_true_eq, List.not_le] using above

end StartTime

/-- By the octets of the starts; events that start together by their first deliveries. -/
def GuideEvent.Precedes (taken : List Delivery) (first second : GuideEvent) : Prop :=
  first.airing.start.octets < second.airing.start.octets ∨
    first.airing.start.octets = second.airing.start.octets ∧
      (taken.map Delivery.key).idxOf first.key < (taken.map Delivery.key).idxOf second.key

theorem GuideEvent.Precedes.asymm {taken : List Delivery} {first second : GuideEvent}
    (precedes : Precedes taken first second) : ¬Precedes taken second first := by
  rintro (below | ⟨level, received⟩) <;> rcases precedes with above | ⟨same, earlier⟩
  · exact List.lt_asymm above below
  · exact List.lt_irrefl _ (same ▸ below)
  · exact List.lt_irrefl _ (level ▸ above)
  · exact Nat.lt_asymm earlier received

instance (taken : List Delivery) : Std.Irrefl (GuideEvent.Precedes taken) :=
  ⟨fun _ precedes => precedes.asymm precedes⟩

instance (taken : List Delivery) : DecidableRel (GuideEvent.Precedes taken) :=
  fun _ _ => inferInstanceAs (Decidable (_ ∨ _ ∧ _))

namespace Guide

/-- Every event with the service that it stands under, from top to bottom. -/
def entries (listing : List (UInt16 × List GuideEvent)) : List (UInt16 × GuideEvent) :=
  listing.flatMap fun heading => heading.2.map fun event => (heading.1, event)

/-- A listing of events that were made of the deliveries. -/
structure Arranges (taken : List Delivery) (events : List GuideEvent)
    (listing : List (UInt16 × List GuideEvent)) : Prop where
  whole : (entries listing).Perm (events.map fun event => (event.serviceId, event))
  once : ((entries listing).map fun entry => entry.2.key).Nodup
  ascending : (listing.map Prod.fst).Pairwise (· < ·)
  occupied : ∀ heading ∈ listing, heading.2 ≠ []
  own : ∀ heading ∈ listing, ∀ event ∈ heading.2, event.serviceId = heading.1
  ordered : ∀ heading ∈ listing, heading.2.Pairwise (GuideEvent.Precedes taken)

theorem mem_entries {listing : List (UInt16 × List GuideEvent)} {serviceId : UInt16}
    {event : GuideEvent} : (serviceId, event) ∈ entries listing ↔
      ∃ events, (serviceId, events) ∈ listing ∧ event ∈ events := by
  simp [entries]

section Programme

variable {guide : Guide} {serviceId : UInt16} {event : GuideEvent}

theorem mem_services : serviceId ∈ guide.services ↔
    ∃ event ∈ guide.events, event.serviceId = serviceId := by
  simp [services]

theorem pairwise_services (guide : Guide) : guide.services.Pairwise (· < ·) := by
  have sorted : guide.services.Pairwise (· ≤ ·) := by
    refine (List.pairwise_mergeSort ?_ ?_ _).imp of_decide_eq_true
    · intro first second third
      simp only [decide_eq_true_eq]
      exact UInt16.le_trans
    · intro first second
      simp only [Bool.or_eq_true, decide_eq_true_eq]
      exact UInt16.le_total first second
  have distinct : guide.services.Nodup :=
    (List.mergeSort_perm _ _).nodup_iff.mpr (nodup_eraseDups _)
  exact (sorted.and distinct).imp fun ⟨below, different⟩ => UInt16.lt_of_le_of_ne below different

theorem mem_eventsOf : event ∈ guide.eventsOf serviceId ↔
    event ∈ guide.events ∧ event.serviceId = serviceId := by
  simp [eventsOf]

theorem eventsOf_ne_nil (member : serviceId ∈ guide.services) :
    guide.eventsOf serviceId ≠ [] := by
  obtain ⟨event, stored, own⟩ := mem_services.mp member
  exact List.ne_nil_of_mem (mem_eventsOf.mpr ⟨stored, own⟩)

theorem mem_programme {heading : UInt16 × List GuideEvent} : heading ∈ guide.programme ↔
    heading.1 ∈ guide.services ∧ heading.2 = guide.eventsOf heading.1 := by
  simp only [programme, List.mem_map]
  constructor
  · rintro ⟨serviceId, member, rfl⟩
    exact ⟨member, rfl⟩
  · rintro ⟨member, listed⟩
    exact ⟨heading.1, member, Prod.ext rfl listed.symm⟩

theorem map_fst_programme (guide : Guide) : guide.programme.map Prod.fst = guide.services := by
  simp [programme, List.map_map, Function.comp_def]

theorem mem_entries_programme : (serviceId, event) ∈ entries guide.programme ↔
    event ∈ guide.events ∧ event.serviceId = serviceId := by
  simp only [mem_entries, mem_programme]
  constructor
  · rintro ⟨events, ⟨_, rfl⟩, member⟩
    exact mem_eventsOf.mp member
  · rintro ⟨stored, own⟩
    exact ⟨_, ⟨mem_services.mpr ⟨event, stored, own⟩, rfl⟩, mem_eventsOf.mpr ⟨stored, own⟩⟩

theorem nodup_eventsOf (distinct : guide.events.Nodup) (serviceId : UInt16) :
    (guide.eventsOf serviceId).Nodup :=
  (List.mergeSort_perm _ _).nodup_iff.mpr (distinct.filter _)

theorem entries_perm (distinct : guide.events.Nodup) :
    (entries guide.programme).Perm (guide.events.map fun event => (event.serviceId, event)) := by
  refine (List.perm_ext_iff_of_nodup ?_ ?_).mpr ?_
  · refine List.nodup_flatMap.mpr ⟨?_, ?_⟩
    · intro heading member
      rw [(mem_programme.mp member).2]
      exact (nodup_eventsOf distinct heading.1).map fun _ _ same => (Prod.mk.inj same).2
    · -- Two headings are of two services, and so no entry stands under both of them.
      have apart := List.pairwise_map.mp (guide.map_fst_programme ▸ guide.pairwise_services)
      refine apart.imp fun {first second} below entry here there => ?_
      obtain ⟨_, _, rfl⟩ := List.mem_map.mp here
      obtain ⟨_, _, same⟩ := List.mem_map.mp there
      rw [(Prod.mk.inj same).1] at below
      exact UInt16.lt_irrefl _ below
  · exact distinct.map fun _ _ same => (Prod.mk.inj same).2
  · rintro ⟨serviceId, event⟩
    rw [mem_entries_programme]
    simp [eq_comm]

theorem pairwise_eventsOf {taken : List Delivery}
    (received : guide.events.Pairwise fun first second =>
      (taken.map Delivery.key).idxOf first.key < (taken.map Delivery.key).idxOf second.key)
    (serviceId : UInt16) :
    (guide.eventsOf serviceId).Pairwise (GuideEvent.Precedes taken) := by
  have stable := pairwise_mergeSort_stable
    (fun first second third : GuideEvent =>
      first.airing.start.le_trans second.airing.start third.airing.start)
    (fun first second => first.airing.start.le_total second.airing.start)
    (received.filter fun event => event.serviceId = serviceId)
  refine stable.imp fun {first second} ⟨lower, level⟩ => ?_
  by_cases upper : second.airing.start.le first.airing.start
  · simp only [StartTime.le, decide_eq_true_eq] at lower upper
    exact Or.inr ⟨List.le_antisymm lower upper, level (decide_eq_true upper)⟩
  · exact Or.inl (StartTime.lt_of_not_le upper)

end Programme

section Arrangement

variable {taken : List Delivery} {guide : Guide} {listing : List (UInt16 × List GuideEvent)}

theorem programme_arranges
    (keys : guide.events.map GuideEvent.key = (taken.map Delivery.key).eraseDups) :
    Arranges taken guide.events guide.programme := by
  have unique : (guide.events.map GuideEvent.key).Nodup := keys ▸ nodup_eraseDups _
  have received := pairwise_idxOf_eraseDups (taken.map Delivery.key)
  rw [← keys, List.pairwise_map] at received
  have whole := entries_perm (List.Nodup.of_map _ unique)
  constructor
  case whole => exact whole
  case once =>
    refine (whole.map fun entry => entry.2.key).nodup_iff.mpr ?_
    rw [List.map_map]
    exact unique
  case ascending =>
    rw [map_fst_programme]
    exact guide.pairwise_services
  case occupied =>
    intro heading member
    obtain ⟨occupied, listed⟩ := mem_programme.mp member
    rw [listed]
    exact eventsOf_ne_nil occupied
  case own =>
    intro heading member event listed
    rw [(mem_programme.mp member).2] at listed
    exact (mem_eventsOf.mp listed).2
  case ordered =>
    intro heading member
    rw [(mem_programme.mp member).2]
    exact pairwise_eventsOf received heading.1

theorem Arranges.mem_iff (arranges : Arranges taken guide.events listing)
    {heading : UInt16 × List GuideEvent} (member : heading ∈ listing) {event : GuideEvent} :
    event ∈ heading.2 ↔ event ∈ guide.events ∧ event.serviceId = heading.1 := by
  constructor
  · intro listed
    have entered := arranges.whole.mem_iff.mp (mem_entries.mpr ⟨heading.2, member, listed⟩)
    obtain ⟨_, stored, same⟩ := List.mem_map.mp entered
    exact ⟨(Prod.mk.inj same).2 ▸ stored, arranges.own heading member event listed⟩
  · rintro ⟨stored, own⟩
    have entered : (heading.1, event) ∈ entries listing :=
      arranges.whole.mem_iff.mpr (List.mem_map.mpr ⟨event, stored, by rw [own]⟩)
    obtain ⟨events, other, listed⟩ := mem_entries.mp entered
    -- The services ascend, so that no second heading is for this one.
    have same := List.inj_on_of_nodup_map arranges.ascending.nodup other member rfl
    exact same ▸ listed

theorem Arranges.eventsOf_eq (arranges : Arranges taken guide.events listing)
    (programme : Arranges taken guide.events guide.programme)
    {heading : UInt16 × List GuideEvent} (member : heading ∈ listing) :
    heading.2 = guide.eventsOf heading.1 := by
  have here := arranges.ordered heading member
  obtain ⟨event, listed⟩ := List.exists_mem_of_ne_nil _ (arranges.occupied heading member)
  have there : (heading.1, guide.eventsOf heading.1) ∈ guide.programme :=
    mem_programme.mpr
      ⟨mem_services.mpr ⟨event, (arranges.mem_iff member).mp listed⟩, rfl⟩
  have ordered := programme.ordered _ there
  refine List.Perm.eq_of_pairwise ?_ here ordered ?_
  · exact fun _ _ _ _ before behind => absurd behind before.asymm
  · refine (List.perm_ext_iff_of_nodup here.nodup ordered.nodup).mpr fun event => ?_
    rw [arranges.mem_iff member, mem_eventsOf]

theorem Arranges.services_eq (arranges : Arranges taken guide.events listing) :
    listing.map Prod.fst = guide.services := by
  refine List.Perm.eq_of_pairwise ?_ arranges.ascending guide.pairwise_services ?_
  · exact fun _ _ _ _ below above => absurd above (UInt16.lt_asymm below)
  · refine (List.perm_ext_iff_of_nodup arranges.ascending.nodup
      guide.pairwise_services.nodup).mpr fun serviceId => ?_
    rw [mem_services, List.mem_map]
    constructor
    · rintro ⟨heading, member, rfl⟩
      obtain ⟨event, listed⟩ := List.exists_mem_of_ne_nil _ (arranges.occupied heading member)
      exact ⟨event, (arranges.mem_iff member).mp listed⟩
    · rintro ⟨event, stored, rfl⟩
      have entered := arranges.whole.mem_iff.mpr (List.mem_map_of_mem stored)
      obtain ⟨events, member, _⟩ := mem_entries.mp entered
      exact ⟨_, member, rfl⟩

/-- There is one way only to list the events like that. -/
theorem Arranges.eq_programme (arranges : Arranges taken guide.events listing)
    (programme : Arranges taken guide.events guide.programme) : listing = guide.programme := by
  have headings : listing.map (fun heading => (heading.1, guide.eventsOf heading.1)) = listing := by
    conv_rhs => rw [← List.map_id listing]
    refine List.map_congr_left fun heading member => Prod.ext rfl ?_
    exact (arranges.eventsOf_eq programme member).symm
  rw [← headings, Guide.programme, ← arranges.services_eq, List.map_map]
  rfl

end Arrangement

theorem run_map_receive (guide : Guide) (buffers : List Octets) :
    guide.run (buffers.map Call.receive) = (guide.receiveAll buffers).1 := by
  induction buffers generalizing guide with
  | nil => rfl
  | cons buffer others ih => exact ih (guide.receive buffer).1

end Guide

namespace CommandLine

/-- The command prints the events that the guide holds after all sections of the file, each event
once. The headings ascend, none is without an event, and below each stand the events of its service
by the octets of their starts, in the order of their first deliveries where these are the same. No
other listing of those events is like that. -/
theorem run_lists {arguments : List String} {contentAt? : String → Option Octets} {limits : Limits}
    {path : String} {content : Octets}
    (asked : Request.ofArguments? arguments = some (.listing limits path))
    (found : contentAt? path = some content) :
    let guide := guideOf limits content
    let taken := Guide.history limits ((Section.split content).map Call.receive)
    run arguments contentAt? = ⟨0, Listing.ofLines (guide.programme.flatMap
      fun (serviceId, events) => ("service 0x" ++ Numeral.upperHex 4 serviceId.toNat) ::
        events.flatMap fun event => (Listing.eventLines event).map ("\t" ++ ·))⟩ ∧
    Guide.Arranges taken guide.events guide.programme ∧
    ∀ listing, Guide.Arranges taken guide.events listing → listing = guide.programme := by
  intro guide taken
  have events : guide.events = taken.foldl (Delivery.enter limits) [] := by
    rw [← Guide.run_events, Guide.run_map_receive]
    rfl
  have arranges : Guide.Arranges taken guide.events guide.programme := by
    apply Guide.programme_arranges
    rw [events]
    exact Delivery.keys_foldl_enter limits taken
  refine ⟨?_, arranges, fun listing other => other.eq_programme arranges⟩
  simp only [run, asked, found, Listing.text, Listing.serviceLines, List.map_flatMap]
  rfl

/-- Two events that start together, the higher id first; an event of another service; and one more
of the first service that starts an hour before. Stuffing ends the file. -/
def threeSections : Octets :=
  [0x4E, 0xF0, 0x27, 0x00, 0x10, 0xC1, 0x00, 0x00, 0x00, 0x01, 0x00, 0x02, 0x00, 0x4E,
    0x00, 0x05, 0xC0, 0x79, 0x01, 0x45, 0x30, 0x00, 0x30, 0x00, 0x80, 0x00,
    0x00, 0x03, 0xC0, 0x79, 0x01, 0x45, 0x30, 0x00, 0x30, 0x00, 0x80, 0x00,
    0xDE, 0xAD, 0xBE, 0xEF,
    0x4F, 0xF0, 0x1B, 0x00, 0x07, 0xC1, 0x00, 0x00, 0x00, 0x01, 0x00, 0x02, 0x00, 0x4F,
    0x00, 0x09, 0xC0, 0x79, 0x02, 0x45, 0x30, 0x00, 0x30, 0x00, 0x80, 0x00,
    0xDE, 0xAD, 0xBE, 0xEF,
    0x4E, 0xF0, 0x1B, 0x00, 0x10, 0xC5, 0x00, 0x00, 0x00, 0x01, 0x00, 0x02, 0x00, 0x4E,
    0x00, 0x04, 0xC0, 0x79, 0x00, 0x45, 0x30, 0x00, 0x30, 0x00, 0x80, 0x00,
    0xDE, 0xAD, 0xBE, 0xEF,
    0xFF, 0xFF]

theorem run_lists_threeSections :
    let arguments := ["--max-items", "+2", "guide.bin"]
    let contentAt? := fun path => if path = "guide.bin" then some threeSections else none
    let guide := guideOf ⟨none, some 2⟩ threeSections
    let stored := fun eventId : UInt16 =>
      guide.events.filter fun event => event.key.eventId = eventId
    Request.ofArguments? arguments = some (.listing ⟨none, some 2⟩ "guide.bin") ∧
    contentAt? "guide.bin" = some threeSections ∧
    (run arguments contentAt?).exitCode = 0 ∧
    guide.events.map (fun event => event.key.eventId) = [5, 3, 9, 4] ∧
    guide.programme = [(0x07, stored 9), (0x10, stored 4 ++ stored 5 ++ stored 3)] := by
  intro arguments contentAt? guide stored
  have asked : Request.ofArguments? arguments =
      some (.listing ⟨none, some 2⟩ "guide.bin") := by decide +kernel
  have found : contentAt? "guide.bin" = some threeSections := rfl
  obtain ⟨printed, _, only⟩ := run_lists asked found
  refine ⟨asked, found, congrArg Outcome.exitCode printed, by decide +kernel, (only _ ?_).symm⟩
  constructor <;> decide +kernel

end CommandLine

end ProgrammeGuide
