import Mathlib.Data.List.TakeWhile
import ProgrammeGuide.Proofs.LongDescriptions

/-!
Fragments of one source, in any order and with any of them missing or repeated. Those are taken that
set a record: from the first fragment 0 on, the ones with a higher number than all before them.
-/

namespace ProgrammeGuide

namespace ExtendedEvent

/-- Whether the number is higher than that of each of the others. -/
def Exceeds (body : ExtendedEvent) (others : List ExtendedEvent) : Prop :=
  ∀ other ∈ others, other.number < body.number

instance (body : ExtendedEvent) (others : List ExtendedEvent) : Decidable (body.Exceeds others) :=
  inferInstanceAs (Decidable (∀ other ∈ others, other.number < body.number))

/-- The fragments from the first number 0 on. -/
def begun (sent : List ExtendedEvent) : List ExtendedEvent :=
  sent.dropWhile fun body => body.number ≠ 0

/-- The fragments that exceed all that stand before them. -/
def leaders (sent : List ExtendedEvent) : List ExtendedEvent :=
  (sent.zipIdx.filter fun entry => entry.1.Exceeds (sent.take entry.2)).map Prod.fst

def records (sent : List ExtendedEvent) : List ExtendedEvent := leaders (begun sent)

theorem leaders_concat (sent : List ExtendedEvent) (body : ExtendedEvent) :
    leaders (sent ++ [body]) = leaders sent ++ if body.Exceeds sent then [body] else [] := by
  have before : sent.zipIdx.filter (fun entry => entry.1.Exceeds ((sent ++ [body]).take entry.2)) =
      sent.zipIdx.filter fun entry => entry.1.Exceeds (sent.take entry.2) := by
    refine List.filter_congr fun entry member => ?_
    have place := (List.mem_zipIdx' member).1
    rw [List.take_append_of_le_length (Nat.le_of_lt place)]
  rw [leaders, List.zipIdx_append, List.filter_append, before, List.map_append, leaders]
  congr 1
  by_cases exceeds : body.Exceeds sent <;> simp [exceeds]

theorem leaders_cases (sent : List ExtendedEvent) :
    (sent = [] ∧ leaders sent = []) ∨
      ∃ earlier last, leaders sent = earlier ++ [last] ∧ last ∈ sent ∧
        ∀ other ∈ sent, other.number ≤ last.number := by
  induction sent using List.reverseRecOn with
  | nil => exact Or.inl ⟨rfl, rfl⟩
  | append_singleton others body ih =>
      rw [leaders_concat]
      by_cases exceeds : body.Exceeds others
      · rw [if_pos exceeds]
        refine Or.inr ⟨leaders others, body, rfl, by simp, ?_⟩
        intro other member
        rcases List.mem_append.mp member with before | own
        · exact UInt8.le_of_lt (exceeds other before)
        · rw [List.mem_singleton.mp own]
          exact UInt8.le_refl _
      · obtain ⟨higher, member, reached⟩ : ∃ higher ∈ others, ¬higher.number < body.number := by
          simpa [Exceeds] using exceeds
        rw [if_neg exceeds, List.append_nil]
        rcases ih with ⟨rfl, _⟩ | ⟨earlier, last, split, listed, greatest⟩
        · cases member
        · refine Or.inr ⟨earlier, last, split, List.mem_append_left _ listed, ?_⟩
          intro other known
          rcases List.mem_append.mp known with before | own
          · exact greatest other before
          · rw [List.mem_singleton.mp own]
            exact UInt8.le_trans (UInt8.not_lt.mp reached) (greatest higher member)

theorem records_cases (sent : List ExtendedEvent) :
    (begun sent = [] ∧ records sent = []) ∨
      ∃ earlier last, records sent = earlier ++ [last] ∧ last ∈ begun sent ∧
        ∀ other ∈ begun sent, other.number ≤ last.number :=
  leaders_cases (begun sent)

theorem begun_eq_nil_iff {sent : List ExtendedEvent} :
    begun sent = [] ↔ ∀ body ∈ sent, body.number ≠ 0 := by
  simp [begun, List.dropWhile_eq_nil_iff]

theorem begun_concat (sent : List ExtendedEvent) (body : ExtendedEvent) :
    begun (sent ++ [body]) =
      if begun sent = [] then (if body.number = 0 then [body] else []) else begun sent ++ [body] := by
  simp only [begun, List.dropWhile_append, List.isEmpty_iff]
  by_cases zero : body.number = 0 <;> simp [zero]

theorem records_concat_of_nil {sent : List ExtendedEvent} (none : records sent = [])
    (body : ExtendedEvent) :
    records (sent ++ [body]) = if body.number = 0 then [body] else [] := by
  rcases records_cases sent with ⟨unbegun, _⟩ | ⟨earlier, last, split, _⟩
  · rw [records, begun_concat, if_pos unbegun]
    split <;> rfl
  · rw [none] at split
    simp at split

theorem records_concat_of_last {sent earlier : List ExtendedEvent} {last : ExtendedEvent}
    (ended : records sent = earlier ++ [last]) (body : ExtendedEvent) :
    records (sent ++ [body]) =
      if last.number < body.number then earlier ++ [last] ++ [body] else earlier ++ [last] := by
  rcases records_cases sent with ⟨_, none⟩ | ⟨before, greatest, split, listed, above⟩
  · rw [none] at ended
    simp at ended
  · obtain ⟨-, same⟩ := List.append_inj' (split.symm.trans ended) rfl
    obtain rfl : greatest = last := by simpa using same
    have some : begun sent ≠ [] := List.ne_nil_of_mem listed
    have exceeds : body.Exceeds (begun sent) ↔ greatest.number < body.number :=
      ⟨fun all => all greatest listed, fun higher other member =>
        UInt8.lt_of_le_of_lt (above other member) higher⟩
    rw [records, begun_concat, if_neg some, leaders_concat, ← records, ended]
    by_cases higher : greatest.number < body.number
    · rw [if_pos (exceeds.mpr higher), if_pos higher]
    · rw [if_neg (mt exceeds.mp higher), if_neg higher, List.append_nil]

theorem records_subset (sent : List ExtendedEvent) : records sent ⊆ begun sent := by
  have sublist := (List.filter_sublist (l := (begun sent).zipIdx)
    (p := fun entry => entry.1.Exceeds ((begun sent).take entry.2))).map Prod.fst
  rw [List.zipIdx_map_fst] at sublist
  exact sublist.subset

/-- To exceed all fragments since the first number 0 is to exceed those of them that set a record. -/
theorem records_concat (sent : List ExtendedEvent) (body : ExtendedEvent) :
    records (sent ++ [body]) = records sent ++
      if (∃ other ∈ sent ++ [body], other.number = 0) ∧ body.Exceeds (records sent) then [body]
      else [] := by
  rcases records_cases sent with ⟨unbegun, none⟩ | ⟨earlier, last, ended, listed, greatest⟩
  · have begins : ((∃ other ∈ sent ++ [body], other.number = 0) ∧ body.Exceeds []) ↔
        body.number = 0 := by
      have before : ∀ other ∈ sent, other.number ≠ 0 := begun_eq_nil_iff.mp unbegun
      constructor
      · rintro ⟨⟨other, member, zero⟩, _⟩
        rcases List.mem_append.mp member with earlier | own
        · exact absurd zero (before other earlier)
        · rw [← List.mem_singleton.mp own, zero]
      · intro zero
        exact ⟨⟨body, by simp, zero⟩, fun _ member => by cases member⟩
    rw [records_concat_of_nil none, none, List.nil_append]
    exact if_congr begins.symm rfl rfl
  · have continues : ((∃ other ∈ sent ++ [body], other.number = 0) ∧
        body.Exceeds (records sent)) ↔ last.number < body.number := by
      constructor
      · rintro ⟨_, exceeds⟩
        exact exceeds last (by simp [ended])
      · intro higher
        refine ⟨?_, fun other member =>
          UInt8.lt_of_le_of_lt (greatest other (records_subset sent member)) higher⟩
        by_contra unbegun
        have none : begun sent = [] := begun_eq_nil_iff.mpr fun other member zero =>
          unbegun ⟨other, List.mem_append_left _ member, zero⟩
        rw [none] at listed
        cases listed
    rw [if_congr continues rfl rfl, records_concat_of_last ended, ended]
    by_cases higher : last.number < body.number
    · rw [if_pos higher, if_pos higher]
    · rw [if_neg higher, if_neg higher, List.append_nil]

end ExtendedEvent

namespace LongDescription

variable (limits : Limits) (source : Option TableVersion)

/-- As long as the source is the same, what is joined is what sets a record. -/
theorem extend_joined_records (sent : List ExtendedEvent) (body : ExtendedEvent) :
    extend limits source body (joined limits source (ExtendedEvent.records sent)) =
      joined limits source (ExtendedEvent.records (sent ++ [body])) := by
  rcases ExtendedEvent.records_cases sent with ⟨_, none⟩ | ⟨earlier, last, ended, _⟩
  · rw [ExtendedEvent.records_concat_of_nil none, none, joined_nil, extend]
    split
    · rw [joined_singleton]
    · rw [joined_nil]
  · have same : ¬(body.number = 0 ∧ source ≠ source) := fun restarts => restarts.2 rfl
    rw [ExtendedEvent.records_concat_of_last ended, ended, extend_joined_concat, if_neg same,
      apply_ite (joined limits source)]

theorem foldl_extend_records (sent : List ExtendedEvent) :
    sent.foldl (fun description body => extend limits source body description) none =
      joined limits source (ExtendedEvent.records sent) := by
  induction sent using List.reverseRecOn with
  | nil => rfl
  | append_singleton earlier body ih => rw [List.foldl_concat, ih, extend_joined_records]

end LongDescription

namespace GuideEvent

/-- The fragments that are let in while descriptors are merged one after the other: those that leave
another number behind as the last one than they have found. -/
def admitted (limits : Limits) (event : GuideEvent) : List Descriptor → List ExtendedEvent
  | [] => []
  | descriptor :: later =>
      let next := event.merge limits descriptor
      (if next.lastFragment? = event.lastFragment? then []
        else (Kind.extendedEvent.body? descriptor).toList) ++ next.admitted limits later

variable (limits : Limits)

theorem admitted_append (event : GuideEvent) (earlier later : List Descriptor) :
    event.admitted limits (earlier ++ later) =
      event.admitted limits earlier ++
        (earlier.foldl (merge limits) event).admitted limits later := by
  induction earlier generalizing event with
  | nil => rfl
  | cons descriptor others ih =>
      rw [List.cons_append, admitted, ih, admitted, List.foldl_cons, List.append_assoc]

section Unbegun

variable {event : GuideEvent} (unbegun : event.lastFragment? = none) (descriptors : List Descriptor)
include unbegun

theorem foldl_merge_joined :
    (descriptors.foldl (merge limits) event).longDescription =
      LongDescription.joined limits event.source
        (ExtendedEvent.records (descriptors.filterMap Kind.extendedEvent.body?)) := by
  have none : event.longDescription = none := Option.map_eq_none_iff.mp unbegun
  rw [foldl_merge_extend, none, LongDescription.foldl_extend_records]

theorem lastFragment?_foldl_merge :
    (descriptors.foldl (merge limits) event).lastFragment? =
      (ExtendedEvent.records (descriptors.filterMap Kind.extendedEvent.body?)).getLast?.map
        ExtendedEvent.number :=
  lastFragment?_of_joined (foldl_merge_joined limits unbegun descriptors)

theorem admitted_eq_records :
    event.admitted limits descriptors =
      ExtendedEvent.records (descriptors.filterMap Kind.extendedEvent.body?) := by
  induction descriptors using List.reverseRecOn with
  | nil => rfl
  | append_singleton earlier descriptor ih =>
      have before := lastFragment?_foldl_merge limits unbegun earlier
      have after := lastFragment?_foldl_merge limits unbegun (earlier ++ [descriptor])
      rw [List.foldl_concat, List.filterMap_append] at after
      rw [admitted_append, ih, admitted, before, after, admitted, List.append_nil,
        List.filterMap_append]
      generalize earlier.filterMap Kind.extendedEvent.body? = sent
      cases own : Kind.extendedEvent.body? descriptor with
      | none => simp [own]
      | some body =>
          have sole : [descriptor].filterMap Kind.extendedEvent.body? = [body] := by
            simp only [List.filterMap_cons, own, List.filterMap_nil]
          rw [sole]
          rcases ExtendedEvent.records_cases sent with ⟨_, none⟩ | ⟨front, last, ended, _⟩
          · rw [ExtendedEvent.records_concat_of_nil none, none]
            by_cases zero : body.number = 0 <;> simp [zero]
          · rw [ExtendedEvent.records_concat_of_last ended, ended]
            by_cases higher : last.number < body.number
            · have differs : body.number ≠ last.number := (UInt8.ne_of_lt higher).symm
              simp [higher, differs]
            · simp [higher]

theorem lastFragment?_foldl_merge_eq_some_iff {number : UInt8} :
    let begun := ExtendedEvent.begun (descriptors.filterMap Kind.extendedEvent.body?)
    (descriptors.foldl (merge limits) event).lastFragment? = some number ↔
      (∃ body ∈ begun, body.number = number) ∧ ∀ body ∈ begun, body.number ≤ number := by
  intro begun
  rw [lastFragment?_foldl_merge limits unbegun]
  rcases ExtendedEvent.records_cases (descriptors.filterMap Kind.extendedEvent.body?) with
    ⟨unbegun, none⟩ | ⟨earlier, last, ended, listed, greatest⟩
  · simp [begun, unbegun, none]
  · rw [ended, List.getLast?_concat, Option.map_some, Option.some.injEq]
    constructor
    · rintro rfl
      exact ⟨⟨last, listed, rfl⟩, greatest⟩
    · rintro ⟨⟨body, member, rfl⟩, above⟩
      exact UInt8.le_antisymm (above last listed) (greatest body member)

/-- The fragments that are let in are those that set a record, one by one: a number 0 has come, and
all numbers that were let in before are lower. Their texts and items make up the description, cut
once, and the last fragment is the greatest one since the first number 0. Without a number 0 there is
nothing. -/
theorem foldl_merge_records :
    let sent : List ExtendedEvent := descriptors.filterMap Kind.extendedEvent.body?
    let taken := event.admitted limits descriptors
    let merged := descriptors.foldl (merge limits) event
    taken = ExtendedEvent.records sent ∧
    (∀ body, event.admitted limits (descriptors ++ [.extendedEvent body]) = taken ++
      if (∃ other ∈ sent ++ [body], other.number = 0) ∧ body.Exceeds taken then [body] else []) ∧
    merged.longText = limits.cutText ⟨taken.flatMap fun body => body.text.octets⟩ ∧
    merged.items = limits.cutItems (taken.flatMap ExtendedEvent.items) ∧
    (∀ number, merged.lastFragment? = some number ↔
      (∃ body ∈ ExtendedEvent.begun sent, body.number = number) ∧
        ∀ body ∈ ExtendedEvent.begun sent, body.number ≤ number) ∧
    ((∀ body ∈ sent, body.number ≠ 0) → taken = [] ∧ merged.lastFragment? = none) := by
  intro sent taken merged
  have joined : merged.longDescription = _ := foldl_merge_joined limits unbegun descriptors
  have records : taken = ExtendedEvent.records sent := admitted_eq_records limits unbegun descriptors
  rw [← records] at joined
  refine ⟨records, fun body => ?_, longText_of_joined joined, items_of_joined joined,
    fun number => lastFragment?_foldl_merge_eq_some_iff limits unbegun descriptors, fun nonzero => ?_⟩
  · rw [admitted_eq_records limits unbegun, List.filterMap_append]
    simp only [records]
    exact ExtendedEvent.records_concat sent body
  · have nothing : taken = [] := by
      rw [records, ExtendedEvent.records, ExtendedEvent.begun_eq_nil_iff.mpr nonzero]
      rfl
    exact ⟨nothing, by rw [lastFragment?_of_joined joined, nothing]; rfl⟩

end Unbegun

/-- Fragments 1, 0, 2, 1, 0 and 5 around a name, for an event that is already held. -/
theorem foldl_merge_records_disordered :
    let event := (blank ⟨1, 2, 3⟩ 0x10).announce ⟨.actualPresentFollowing, 7⟩
      ⟨.undefined, .zero, .running, false⟩
    let fragment (number letter : UInt8) : Descriptor := .extendedEvent
      ⟨number, 5, ⟨0x65, 0x6E, 0x67⟩, [⟨⟨[letter]⟩, ⟨[letter]⟩⟩], ⟨[letter, letter]⟩⟩
    let descriptors := [fragment 1 0x42, fragment 0 0x41, fragment 2 0x43,
      .shortEvent ⟨⟨0x65, 0x6E, 0x67⟩, ⟨[0x4E]⟩, ⟨[]⟩⟩, fragment 1 0x42, fragment 0 0x58,
      fragment 5 0x46]
    let merged := descriptors.foldl (merge ⟨some 5, some 2⟩) event
    event.lastFragment? = none ∧
      (event.admitted ⟨some 5, some 2⟩ descriptors).map ExtendedEvent.number = [0, 2, 5] ∧
      merged.longText = ⟨[0x41, 0x41, 0x43, 0x43, 0x46]⟩ ∧
      merged.items = [⟨⟨[0x41]⟩, ⟨[0x41]⟩⟩, ⟨⟨[0x43]⟩, ⟨[0x43]⟩⟩] ∧
      merged.lastFragment? = some 5 := by
  intro event fragment descriptors merged
  have unbegun : event.lastFragment? = none := rfl
  obtain ⟨taken, _, text, items, last, _⟩ :=
    foldl_merge_records ⟨some 5, some 2⟩ unbegun descriptors
  rw [taken] at text items ⊢
  exact ⟨unbegun, by decide, text.trans (by decide), items.trans (by decide),
    (last 5).mpr (by decide)⟩

end GuideEvent

end ProgrammeGuide
