import ProgrammeGuide.Proofs.LongDescriptions

/-!
The moment at which a fragment is merged, in the middle of a section. A fragment 0 of another
version replaces a long description, unless a fragment of that other version has been let in
before it: then it is taken for a repetition and dropped.
-/

namespace ProgrammeGuide

/-- A fragment in an accepted section, with what the section has brought before and after it. -/
structure Arrival (guide : Guide) (buffer : Octets) where
  before : List Delivery
  delivery : Delivery
  after : List Delivery
  earlier : List Descriptor
  body : ExtendedEvent
  later : List Descriptor
  delivered : guide.deliveries buffer = before ++ delivery :: after
  readable : delivery.record.descriptors.readable = earlier ++ .extendedEvent body :: later

namespace Arrival

variable {guide : Guide} {buffer : Octets}

def fragment (arrival : Arrival guide buffer) : Fragment :=
  ⟨arrival.delivery.source, arrival.body⟩

def known (arrival : Arrival guide buffer) : GuideEvent :=
  ((arrival.before.foldl (Delivery.enter guide.limits) guide.events).find? fun event =>
    event.key = arrival.delivery.key).getD (.blank arrival.delivery.key arrival.delivery.serviceId)

/-- The event just before the fragment is merged. -/
def event (arrival : Arrival guide buffer) : GuideEvent :=
  arrival.earlier.foldl (GuideEvent.merge guide.limits)
    (arrival.known.announce arrival.delivery.source arrival.delivery.record.airing)

def merged (arrival : Arrival guide buffer) : GuideEvent :=
  arrival.event.merge guide.limits (.extendedEvent arrival.body)

/-- The fragments that have been merged into the event before, in earlier sections and in this. -/
def past (arrival : Arrival guide buffer) (history : List Delivery) : List Fragment :=
  Delivery.fragmentsFor arrival.delivery.key (history ++ arrival.before) ++
    arrival.earlier.filterMap (Descriptor.fragment? arrival.delivery.source)

theorem event_source (arrival : Arrival guide buffer) :
    arrival.event.source = some arrival.delivery.source :=
  GuideEvent.foldl_merge_keeps (GuideEvent.merge_source guide.limits) ..

/-- The rest of the record is merged into what the fragment leaves, and that is stored. -/
theorem find?_merged (arrival : Arrival guide buffer) :
    ((arrival.before ++ [arrival.delivery]).foldl (Delivery.enter guide.limits) guide.events).find?
        (fun event => event.key = arrival.delivery.key) =
      some (arrival.later.foldl (GuideEvent.merge guide.limits) arrival.merged) := by
  rw [List.foldl_concat, Delivery.find?_enter_self, Delivery.applyTo, arrival.readable,
    List.foldl_append, List.foldl_cons]
  rfl

theorem known_longDescription {limits : Limits} {calls : List Call}
    (arrival : Arrival ((Guide.empty limits).run calls) buffer) :
    arrival.known.longDescription = Fragment.assemble limits
      (Fragment.parts (Delivery.fragmentsFor arrival.delivery.key
        (Guide.history limits calls ++ arrival.before))) := by
  rw [← Delivery.bind_find?_foldl_enter, List.foldl_append, ← Guide.run_events, known,
    Guide.run_limits]
  cases List.find? _ _ <;> rfl

theorem event_longDescription {limits : Limits} {calls : List Call}
    (arrival : Arrival ((Guide.empty limits).run calls) buffer) :
    arrival.event.longDescription = Fragment.assemble limits
      (Fragment.parts (arrival.past (Guide.history limits calls))) := by
  have announced := arrival.known_longDescription
  rw [event, GuideEvent.foldl_merge_longDescription _ rfl, Guide.run_limits, past,
    ← Fragment.foldl_join_assemble, ← announced]
  rfl

theorem merged_longDescription {limits : Limits} {calls : List Call}
    (arrival : Arrival ((Guide.empty limits).run calls) buffer) :
    arrival.merged.longDescription = Fragment.assemble limits
      (Fragment.gather (Fragment.parts (arrival.past (Guide.history limits calls)))
        arrival.fragment) := by
  unfold merged
  rw [GuideEvent.merge_longDescription _ arrival.event_source, event_longDescription,
    Guide.run_limits]
  exact Fragment.join_assemble limits _ arrival.fragment

/-- Where the text of an event was begun by a section of another version, a fragment 0 replaces
text and items exactly when the last part came from another version too. If the last part is
already of the version that is sent now, the fragment 0 changes nothing at all. -/
theorem merged_replaces_iff (limits : Limits) (calls : List Call) (buffer : Octets)
    (arrival : Arrival ((Guide.empty limits).run calls) buffer) (first : Fragment)
    (zero : arrival.body.number = 0)
    (begun : (Fragment.parts (arrival.past (Guide.history limits calls))).head? = some first)
    (elsewhere : first.source ≠ arrival.delivery.source) :
    ∃ last, (Fragment.parts (arrival.past (Guide.history limits calls))).getLast? = some last ∧
      ((arrival.merged.longText = limits.cutText arrival.body.text ∧
          arrival.merged.items = limits.cutItems arrival.body.items ∧
          arrival.merged.lastFragment? = some 0) ↔
        last.source ≠ arrival.delivery.source) ∧
      (last.source = arrival.delivery.source → arrival.merged = arrival.event) ∧
      ((arrival.before ++ [arrival.delivery]).foldl (Delivery.enter limits)
          ((Guide.empty limits).run calls).events).find?
          (fun event => event.key = arrival.delivery.key) =
        some (arrival.later.foldl (GuideEvent.merge limits) arrival.merged) := by
  have stored := arrival.find?_merged
  rw [Guide.run_limits] at stored
  have described := arrival.event_longDescription
  have extended := arrival.merged_longDescription
  have ascending := Fragment.ascending_parts (arrival.past (Guide.history limits calls))
  generalize Fragment.parts _ = parts at begun described extended ascending ⊢
  obtain ⟨last, ended⟩ : ∃ last, parts.getLast? = some last :=
    Option.ne_none_iff_exists'.mp fun none => by
      rw [List.getLast?_eq_none_iff.mp none] at begun
      cases begun
  have repeated (same : last.source = arrival.delivery.source) :
      Fragment.gather parts arrival.fragment = parts :=
    Fragment.gather_of_repeated ended zero same
  refine ⟨last, ended, ?_, ?_, stored⟩
  · by_cases same : last.source = arrival.delivery.source
    · -- First and last part differ, so a number other than 0 was the last one taken.
      have several : first ≠ last := fun alone => elsewhere (alone ▸ same)
      rw [repeated same] at extended
      refine iff_of_false ?_ (not_not.mpr same)
      rintro ⟨_, _, lastZero⟩
      rw [GuideEvent.lastFragment?_of_assemble extended, ended, Option.map_some,
        Option.some.injEq] at lastZero
      exact ascending.last_ne_zero begun ended several lastZero
    · have restarts : Fragment.Restarts parts arrival.fragment := ⟨zero, last, ended, same⟩
      rw [Fragment.gather_of_restarts restarts] at extended
      refine iff_of_true ⟨?_, ?_, ?_⟩ same
      · simpa [Arrival.fragment] using GuideEvent.longText_of_assemble extended
      · simpa [Arrival.fragment] using GuideEvent.items_of_assemble extended
      · rw [GuideEvent.lastFragment?_of_assemble extended]
        exact congrArg some zero
  · intro same
    have rest : arrival.merged =
        { arrival.event with longDescription := arrival.merged.longDescription } := rfl
    rw [rest, extended, repeated same, ← described]

def sentFirst : List Call := letterCalls [(0, [(0, 0x41)])]

def sentAgain : Octets := letterSection 2 [(1, 0x42), (0, 0x43)]

/-- A description is sent again in another version, its fragment 1 before its fragment 0. -/
def belated : Arrival ((Guide.empty .unlimited).run sentFirst) sentAgain where
  before := []
  delivery := (((Guide.empty .unlimited).run sentFirst).deliveries sentAgain).get
    ⟨0, by decide +kernel⟩
  after := []
  earlier := [.extendedEvent ⟨1, 2, ⟨0x65, 0x6E, 0x67⟩, [], ⟨[0x42]⟩⟩]
  body := ⟨0, 2, ⟨0x65, 0x6E, 0x67⟩, [], ⟨[0x43]⟩⟩
  later := []
  delivered := by decide +kernel
  readable := by decide +kernel

theorem belated_begun :
    ∃ first, (Fragment.parts (belated.past (Guide.history .unlimited sentFirst))).head? =
      some first ∧ first.source ≠ belated.delivery.source := by
  have found : ((Fragment.parts (belated.past (Guide.history .unlimited sentFirst))).head?.any
      fun first => first.source ≠ belated.delivery.source) = true := by
    decide +kernel
  obtain ⟨first, begun, elsewhere⟩ := (Option.any_eq_true _ _).mp found
  exact ⟨first, begun, of_decide_eq_true elsewhere⟩

theorem merged_replaces_iff_belated :
    ∃ first last,
      (Fragment.parts (belated.past (Guide.history .unlimited sentFirst))).head? = some first ∧
      (Fragment.parts (belated.past (Guide.history .unlimited sentFirst))).getLast? = some last ∧
      first.source ≠ belated.delivery.source ∧
      belated.merged.longText ≠ belated.body.text ∧
      last.source = belated.delivery.source ∧
      belated.merged = belated.event := by
  obtain ⟨first, begun, elsewhere⟩ := belated_begun
  obtain ⟨last, ended, replaced, kept, _⟩ :=
    merged_replaces_iff .unlimited sentFirst sentAgain belated first (by decide) begun elsewhere
  have mixed : belated.merged.longText ≠ belated.body.text := by decide +kernel
  have same : last.source = belated.delivery.source :=
    not_not.mp fun differs => mixed (replaced.mpr differs).1
  exact ⟨first, last, begun, ended, elsewhere, mixed, same, kept same⟩

/-- A fragment 0 of another version does not always replace the text that it finds. -/
theorem merged_not_always_replaces :
    ¬∀ (limits : Limits) (calls : List Call) (buffer : Octets)
      (arrival : Arrival ((Guide.empty limits).run calls) buffer) (first : Fragment),
      arrival.body.number = 0 →
      (Fragment.parts (arrival.past (Guide.history limits calls))).head? = some first →
      first.source ≠ arrival.delivery.source →
      arrival.merged.longText = limits.cutText arrival.body.text ∧
        arrival.merged.items = limits.cutItems arrival.body.items ∧
        arrival.merged.lastFragment? = some 0 := by
  intro always
  obtain ⟨first, begun, elsewhere⟩ := belated_begun
  have replaced := always .unlimited sentFirst sentAgain belated first (by decide) begun elsewhere
  revert replaced
  decide +kernel

end Arrival

end ProgrammeGuide
