import ProgrammeGuide.Proofs.Fragments
import ProgrammeGuide.Proofs.Kinds
import ProgrammeGuide.Proofs.Store

/-!
The long descriptions that a guide holds, told from the fragments that its history has delivered
for each event. The parts of a description ascend from fragment 0. They come from one version of
one table unless a higher fragment of another version has been let in, and it is the last part
alone that decides whether a fragment 0 begins the description anew.
-/

namespace ProgrammeGuide

def Descriptor.fragment? (source : TableVersion) : Descriptor → Option Fragment
  | .extendedEvent body => some ⟨source, body⟩
  | _ => none

namespace GuideEvent

theorem merge_source (limits : Limits) (event : GuideEvent) (descriptor : Descriptor) :
    (event.merge limits descriptor).source = event.source := by
  cases descriptor <;> rfl

theorem merge_longDescription {event : GuideEvent} {source : TableVersion} (limits : Limits)
    (announced : event.source = some source) (descriptor : Descriptor) :
    (event.merge limits descriptor).longDescription =
      (descriptor.fragment? source).toList.foldl (Fragment.join limits) event.longDescription := by
  cases descriptor with
  | extendedEvent body => simp [merge, Descriptor.fragment?, Fragment.join, announced]
  | _ => rfl

theorem foldl_merge_extend (limits : Limits) (event : GuideEvent) (descriptors : List Descriptor) :
    (descriptors.foldl (merge limits) event).longDescription =
      (descriptors.filterMap Kind.extendedEvent.body?).foldl (fun description body =>
        LongDescription.extend limits event.source body description) event.longDescription := by
  induction descriptors generalizing event with
  | nil => rfl
  | cons descriptor others ih =>
      rw [List.foldl_cons, ih]
      cases descriptor <;> rfl

theorem foldl_merge_longDescription {event : GuideEvent} {source : TableVersion} (limits : Limits)
    (announced : event.source = some source) (descriptors : List Descriptor) :
    (descriptors.foldl (merge limits) event).longDescription =
      (descriptors.filterMap (Descriptor.fragment? source)).foldl (Fragment.join limits)
        event.longDescription := by
  have fragments : descriptors.filterMap (Descriptor.fragment? source) =
      (descriptors.filterMap Kind.extendedEvent.body?).map (Fragment.mk source) := by
    rw [List.map_filterMap]
    refine List.filterMap_congr fun descriptor _ => ?_
    cases descriptor <;> rfl
  rw [foldl_merge_extend, announced, fragments, List.foldl_map]
  rfl

end GuideEvent

namespace Delivery

def fragments (delivery : Delivery) : List Fragment :=
  delivery.record.descriptors.readable.filterMap (Descriptor.fragment? delivery.source)

/-- All fragments that have been delivered for an event, in the order in which they were merged. -/
def fragmentsFor (key : EventKey) (past : List Delivery) : List Fragment :=
  (past.filter fun delivery => delivery.key = key).flatMap fragments

theorem number_le_of_mem_fragmentsFor {key : EventKey} {past : List Delivery}
    {fragment : Fragment} (member : fragment ∈ fragmentsFor key past) :
    fragment.number.toNat ≤ 15 := by
  obtain ⟨delivery, _, brought⟩ := List.mem_flatMap.mp member
  obtain ⟨descriptor, readable, found⟩ := List.mem_filterMap.mp brought
  obtain ⟨raw, _, ran⟩ := DescriptorBlock.mem_readable_iff.mp readable
  cases descriptor with
  | extendedEvent body =>
      cases found
      exact ExtendedEvent.number_le (Kind.extendedEvent.read_body_of_read ran)
  | _ => cases found

theorem applyTo_longDescription (limits : Limits) (event : GuideEvent) (delivery : Delivery) :
    (delivery.applyTo limits event).longDescription =
      delivery.fragments.foldl (Fragment.join limits) event.longDescription := by
  unfold applyTo
  rw [GuideEvent.foldl_merge_longDescription limits rfl]
  rfl

theorem foldl_applyTo_longDescription (limits : Limits) (event : GuideEvent)
    (deliveries : List Delivery) :
    (deliveries.foldl (applyTo limits) event).longDescription =
      (deliveries.flatMap fragments).foldl (Fragment.join limits) event.longDescription := by
  induction deliveries generalizing event with
  | nil => rfl
  | cons delivery others ih =>
      rw [List.foldl_cons, ih, applyTo_longDescription, List.flatMap_cons, List.foldl_append]

theorem bind_find?_foldl_enter (limits : Limits) (past : List Delivery) (wanted : EventKey) :
    ((past.foldl (enter limits) []).find? fun event => event.key = wanted).bind
        GuideEvent.longDescription =
      Fragment.assemble limits (Fragment.parts (fragmentsFor wanted past)) := by
  rw [find?_foldl_enter, ← Fragment.foldl_join]
  cases known : past.find? fun delivery => delivery.key = wanted with
  | none =>
      have unmatched : (past.filter fun delivery => delivery.key = wanted) = [] := by
        simpa using known
      simp [fragmentsFor, unmatched]
  | some first =>
      simp only [Option.map_some, Option.bind_some, foldl_applyTo_longDescription]
      rfl

end Delivery

namespace GuideEvent

section Joined

variable {event : GuideEvent} {limits : Limits} {source : Option TableVersion}
  {bodies : List ExtendedEvent}
  (joined : event.longDescription = LongDescription.joined limits source bodies)
include joined

theorem lastFragment?_of_joined :
    event.lastFragment? = bodies.getLast?.map ExtendedEvent.number := by
  rw [lastFragment?, joined, LongDescription.joined, Option.map_map]
  rfl

theorem longText_of_joined :
    event.longText = limits.cutText ⟨bodies.flatMap fun body => body.text.octets⟩ := by
  rcases List.eq_nil_or_concat bodies with rfl | ⟨earlier, last, rfl⟩
  · simp only [longText, joined, LongDescription.joined_nil]
    exact limits.cutText_empty.symm
  · simp [longText, joined, LongDescription.joined]

theorem items_of_joined :
    event.items = limits.cutItems (bodies.flatMap ExtendedEvent.items) := by
  rcases List.eq_nil_or_concat bodies with rfl | ⟨earlier, last, rfl⟩
  · simp only [items, joined, LongDescription.joined_nil]
    exact limits.cutItems_nil.symm
  · simp [items, joined, LongDescription.joined]

end Joined

section Assembled

variable {event : GuideEvent} {limits : Limits} {parts : List Fragment}

theorem lastFragment?_of_assemble
    (assembled : event.longDescription = Fragment.assemble limits parts) :
    event.lastFragment? = parts.getLast?.map Fragment.number := by
  rw [Fragment.assemble_eq_joined] at assembled
  rw [lastFragment?_of_joined assembled, List.getLast?_map, Option.map_map]
  rfl

theorem longText_of_assemble
    (assembled : event.longDescription = Fragment.assemble limits parts) :
    event.longText = limits.cutText ⟨parts.flatMap fun part => part.body.text.octets⟩ := by
  rw [Fragment.assemble_eq_joined] at assembled
  rw [longText_of_joined assembled, List.flatMap_map]

theorem items_of_assemble
    (assembled : event.longDescription = Fragment.assemble limits parts) :
    event.items = limits.cutItems (parts.flatMap fun part => part.body.items) := by
  rw [Fragment.assemble_eq_joined] at assembled
  rw [items_of_joined assembled, List.flatMap_map]

end Assembled

end GuideEvent

/-- A section of the actual present/following table with one event, which has a fragment for each
number and letter. -/
def letterSection (version : UInt8) (letters : List (UInt8 × UInt8)) : Octets :=
  let descriptors := letters.flatMap fun (number, letter) =>
    [0x4E, 0x07, number * 16 + 2, 0x65, 0x6E, 0x67, 0x00, 0x01, letter]
  [0x4E, 0xF0, UInt8.ofNat (27 + descriptors.length), 0x00, 0x10, 0xC1 + version * 2, 0x00, 0x00,
      0x00, 0x01, 0x00, 0x02, 0x00, 0x4E] ++
    [0x00, 0x01, 0xC0, 0x79, 0x01, 0x45, 0x30, 0x00, 0x30, 0x00, 0x80,
      UInt8.ofNat descriptors.length] ++
    descriptors ++ [0xDE, 0xAD, 0xBE, 0xEF]

def letterCalls (versions : List (UInt8 × List (UInt8 × UInt8))) : List Call :=
  versions.map fun (version, letters) => .receive (letterSection version letters)

namespace Guide

theorem longDescription_of_mem {limits : Limits} {calls : List Call} {event : GuideEvent}
    (stored : event ∈ ((empty limits).run calls).events) :
    event.longDescription = Fragment.assemble limits
      (Fragment.parts (Delivery.fragmentsFor event.key (history limits calls))) := by
  rw [run_events] at stored
  rw [← Delivery.bind_find?_foldl_enter, Delivery.find?_of_mem stored]
  rfl

/-- A long description is empty, or made of fragments that were delivered for its event: in the
order of their delivery, with rising numbers from 0 to the last one taken, and no more than
sixteen of them whatever has been received. -/
theorem longDescription_ascends (limits : Limits) (calls : List Call) (event : GuideEvent)
    (stored : event ∈ ((empty limits).run calls).events) :
    (event.lastFragment? = none ∧ event.longText = .empty ∧ event.items = []) ∨
      ∃ chain : List Fragment,
        chain.Sublist (Delivery.fragmentsFor event.key (history limits calls)) ∧
        chain.Pairwise (fun first second => first.number < second.number) ∧
        chain.head?.map Fragment.number = some 0 ∧
        event.lastFragment? = chain.getLast?.map Fragment.number ∧
        (∀ part ∈ chain, part.number ≤ 15) ∧
        chain.length ≤ 16 ∧
        event.longText = limits.cutText ⟨chain.flatMap fun part => part.body.text.octets⟩ ∧
        event.items = limits.cutItems (chain.flatMap fun part => part.body.items) := by
  have assembled := longDescription_of_mem stored
  have sublist := Fragment.parts_sublist (Delivery.fragmentsFor event.key (history limits calls))
  have ascending := Fragment.ascending_parts (Delivery.fragmentsFor event.key (history limits calls))
  generalize Fragment.parts _ = chain at assembled sublist ascending
  have bounded : ∀ part ∈ chain, part.number.toNat ≤ 15 :=
    fun part member => Delivery.number_le_of_mem_fragmentsFor (sublist.subset member)
  cases begun : chain.head? with
  | none =>
      obtain rfl : chain = [] := List.head?_eq_none_iff.mp begun
      left
      simp [GuideEvent.lastFragment?, GuideEvent.longText, GuideEvent.items, assembled,
        Fragment.assemble_nil]
  | some first =>
      refine Or.inr ⟨chain, sublist, ascending.increasing, ?_,
        GuideEvent.lastFragment?_of_assemble assembled, ?_, ascending.length_le bounded,
        GuideEvent.longText_of_assemble assembled, GuideEvent.items_of_assemble assembled⟩
      · rw [begun, Option.map_some, ascending.starts first begun]
      · intro part member
        exact UInt8.le_iff_toNat_le.mpr (bounded part member)

theorem longDescription_ascends_resent :
    let calls := letterCalls [(0, [(0, 0x41), (1, 0x42)]), (2, [(0, 0x58), (3, 0x59)])]
    ∃ event ∈ ((empty ⟨some 1, none⟩).run calls).events,
      event.lastFragment? = some 3 ∧
      ∃ chain : List Fragment,
        chain.Sublist (Delivery.fragmentsFor event.key (history ⟨some 1, none⟩ calls)) ∧
        chain.Pairwise (fun first second => first.number < second.number) ∧
        chain.head?.map Fragment.number = some 0 ∧
        chain.getLast?.map Fragment.number = some 3 ∧
        event.longText = ⟨(chain.flatMap fun part => part.body.text.octets).take 1⟩ := by
  intro calls
  obtain ⟨event, stored, last⟩ : ∃ event ∈ ((empty ⟨some 1, none⟩).run calls).events,
      event.lastFragment? = some 3 := by
    decide +kernel
  rcases longDescription_ascends _ _ event stored with ⟨none, _⟩ | ⟨chain, sublist, increasing,
    begun, ended, _, _, text, _⟩
  · rw [last] at none
    cases none
  · exact ⟨event, stored, last, chain, sublist, increasing, begun, ended.symm.trans last, text⟩

/-- The fragments that were appended to a long description since it was last emptied are all from
one version of one table exactly as long as none has intruded: none with a higher number than the
last one taken, but from elsewhere, has arrived since the description was begun. -/
theorem longDescription_oneSource_iff (limits : Limits) (calls : List Call) (event : GuideEvent)
    (stored : event ∈ ((empty limits).run calls).events) :
    let fragments := Delivery.fragmentsFor event.key (history limits calls)
    event.longDescription = Fragment.assemble limits (Fragment.parts fragments) ∧
      (Fragment.OneSource (Fragment.parts fragments) ↔ ¬Fragment.Mixed fragments) :=
  ⟨longDescription_of_mem stored, Fragment.oneSource_parts_iff _⟩

/-- Fragment 2 of another version intrudes after a version that has sent 0 and 1. -/
theorem longDescription_oneSource_iff_intruded :
    let calls := letterCalls [(0, [(0, 0x41), (1, 0x42)]), (2, [(2, 0x43)])]
    ∃ event ∈ ((empty .unlimited).run calls).events,
      event.longText = ⟨[0x41, 0x42, 0x43]⟩ ∧
      Fragment.Mixed (Delivery.fragmentsFor event.key (history .unlimited calls)) := by
  intro calls
  obtain ⟨event, stored, text, several⟩ : ∃ event ∈ ((empty .unlimited).run calls).events,
      event.longText = ⟨[0x41, 0x42, 0x43]⟩ ∧
      ¬Fragment.OneSource
        (Fragment.parts (Delivery.fragmentsFor event.key (history .unlimited calls))) := by
    decide +kernel
  have exactly := (longDescription_oneSource_iff _ _ event stored).2
  exact ⟨event, stored, text, not_not.mp (mt exactly.mpr several)⟩

/-- Text of two versions does come to stand in one description. -/
theorem longDescription_not_always_oneSource :
    ¬∀ (limits : Limits) (calls : List Call), ∀ event ∈ ((empty limits).run calls).events,
      Fragment.OneSource
        (Fragment.parts (Delivery.fragmentsFor event.key (history limits calls))) := by
  intro always
  have one := always .unlimited (letterCalls [(0, [(0, 0x41)]), (2, [(1, 0x42)])])
  revert one
  decide +kernel

end Guide

end ProgrammeGuide
