import Mathlib.Data.List.Forall2
import ProgrammeGuide.Proofs.Fragments
import ProgrammeGuide.Proofs.History

/-!
What the limits of a guide amount to. A guide with limits holds what one without would hold after
the same calls, with every long description cut once at the end; no verdict, no state of a class
and no other field shows them.
-/

namespace ProgrammeGuide

namespace Limits

theorem cutText_unlimited (text : Text) : unlimited.cutText text = text := rfl

theorem cutItems_unlimited (items : List EventItem) : unlimited.cutItems items = items := rfl

theorem length_cutText_le {limits : Limits} {limit : Nat} (bounded : limits.text = some limit)
    (text : Text) : (limits.cutText text).length ≤ limit := by
  simp only [cutText, bounded, Text.truncate, Text.length]
  exact List.length_take_le limit text.octets

theorem length_cutItems_le {limits : Limits} {limit : Nat} (bounded : limits.items = some limit)
    (items : List EventItem) : (limits.cutItems items).length ≤ limit := by
  simp only [cutItems, bounded]
  exact List.length_take_le limit items

end Limits

namespace LongDescription

def cut (limits : Limits) (description : LongDescription) : LongDescription :=
  { description with
    text := limits.cutText description.text
    items := limits.cutItems description.items }

theorem start_cut (limits : Limits) (source : Option TableVersion) (fragment : ExtendedEvent) :
    start limits source fragment = (start .unlimited source fragment).cut limits := rfl

theorem append_cut (limits : Limits) (source : Option TableVersion) (fragment : ExtendedEvent)
    (description : LongDescription) :
    append limits source fragment (description.cut limits) =
      (append .unlimited source fragment description).cut limits := by
  simp only [append, cut, Limits.cutText_append, Limits.cutItems_append, Limits.cutText_unlimited,
    Limits.cutItems_unlimited]

/-- A cut description takes, drops and restarts at the same fragments. -/
theorem extend_cut (limits : Limits) (source : Option TableVersion) (fragment : ExtendedEvent)
    (description : Option LongDescription) :
    extend limits source fragment (description.map (cut limits)) =
      (extend .unlimited source fragment description).map (cut limits) := by
  cases description with
  | none =>
      simp only [extend, Option.map_none]
      split
      · rw [start_cut, Option.map_some]
      · rfl
  | some description =>
      -- The number and the source that decide are those of the uncut description.
      have number : (description.cut limits).lastFragment = description.lastFragment := rfl
      have origin : (description.cut limits).source = description.source := rfl
      simp only [extend, Option.map_some, number, origin]
      split
      · rw [start_cut, Option.map_some]
      · split
        · rw [append_cut, Option.map_some]
        · rfl

end LongDescription

namespace GuideEvent

def cut (limits : Limits) (event : GuideEvent) : GuideEvent :=
  { event with longDescription := event.longDescription.map (LongDescription.cut limits) }

theorem longText_cut (limits : Limits) (event : GuideEvent) :
    (event.cut limits).longText = limits.cutText event.longText := by
  cases described : event.longDescription with
  | none => simp only [longText, cut, described, Option.map_none, Limits.cutText_empty]
  | some description => simp only [longText, cut, described, Option.map_some, LongDescription.cut]

theorem items_cut (limits : Limits) (event : GuideEvent) :
    (event.cut limits).items = limits.cutItems event.items := by
  cases described : event.longDescription with
  | none => simp only [items, cut, described, Option.map_none, Limits.cutItems_nil]
  | some description => simp only [items, cut, described, Option.map_some, LongDescription.cut]

theorem merge_cut (limits : Limits) (event : GuideEvent) (descriptor : Descriptor) :
    (event.cut limits).merge limits descriptor =
      (event.merge .unlimited descriptor).cut limits := by
  cases descriptor with
  | extendedEvent body =>
      simp only [merge, cut, LongDescription.extend_cut]
  | _ => rfl

theorem foldl_merge_cut (limits : Limits) (event : GuideEvent) (descriptors : List Descriptor) :
    descriptors.foldl (merge limits) (event.cut limits) =
      (descriptors.foldl (merge .unlimited) event).cut limits := by
  induction descriptors generalizing event with
  | nil => rfl
  | cons descriptor others ih => rw [List.foldl_cons, List.foldl_cons, merge_cut, ih]

theorem update_cut (limits : Limits) (source : TableVersion) (record : EventRecord)
    (event : GuideEvent) :
    update limits source record (event.cut limits) =
      (update .unlimited source record event).cut limits :=
  foldl_merge_cut limits (event.announce source record.airing) record.descriptors.readable

theorem upsert_cut {limits : Limits} {bounded free : GuideEvent → GuideEvent}
    (commutes : ∀ event, bounded (event.cut limits) = (free event).cut limits)
    (fresh : GuideEvent) (events : List GuideEvent) :
    upsert (fresh.cut limits) bounded (events.map (cut limits)) =
      (upsert fresh free events).map (cut limits) := by
  induction events with
  | nil => simp only [upsert, List.map_nil, List.map_cons, commutes]
  | cons event others ih =>
      have kept (other : GuideEvent) : (other.cut limits).key = other.key := rfl
      simp only [upsert, List.map_cons, kept]
      split
      · rw [commutes, List.map_cons]
      · rw [ih, List.map_cons]

end GuideEvent

namespace Guide

def cut (limits : Limits) (guide : Guide) : Guide where
  limits := limits
  states := guide.states
  events := guide.events.map (GuideEvent.cut limits)

theorem addRecord_cut (limits : Limits) (cls : TableClass) (received : EventSection)
    (events : List GuideEvent) (record : EventRecord) :
    addRecord limits cls received (events.map (GuideEvent.cut limits)) record =
      (addRecord .unlimited cls received events record).map (GuideEvent.cut limits) := by
  have updated := GuideEvent.update_cut limits ⟨cls, received.header.version⟩ record
  exact GuideEvent.upsert_cut updated (.blank _ received.header.subjectId) events

theorem foldl_addRecord_cut (limits : Limits) (cls : TableClass) (received : EventSection)
    (events : List GuideEvent) (records : List EventRecord) :
    records.foldl (addRecord limits cls received) (events.map (GuideEvent.cut limits)) =
      (records.foldl (addRecord .unlimited cls received) events).map (GuideEvent.cut limits) := by
  induction records generalizing events with
  | nil => rfl
  | cons record others ih => rw [List.foldl_cons, List.foldl_cons, addRecord_cut, ih]

theorem receive_cut {guide : Guide} (free : guide.limits = .unlimited) (limits : Limits)
    (buffer : Octets) :
    (guide.cut limits).receive buffer =
      ((guide.receive buffer).1.cut limits, (guide.receive buffer).2) := by
  cases identified : identify buffer with
  | error cause => rw [receive_of_error identified, receive_of_error identified]
  | ok found =>
      obtain ⟨cls, received⟩ := found
      rw [receive_of_ok identified, receive_of_ok identified]
      cases verdict : ((guide.states.get cls).review cls received.header received.table).2 with
      | error cause => simp only [cut, verdict]
      | ok accepted => simp only [cut, verdict, free, foldl_addRecord_cut]

/-- What a call answers; a reset answers nothing. -/
def answer (guide : Guide) : Call → Option Verdict
  | .receive buffer => some (guide.receive buffer).2
  | .reset => none

/-- The answers to the calls, each with the guide that is left then. -/
def trace (guide : Guide) : List Call → List (Option Verdict × Guide)
  | [] => []
  | call :: later => (guide.answer call, guide.apply call) :: (guide.apply call).trace later

theorem answer_cut {guide : Guide} (free : guide.limits = .unlimited) (limits : Limits)
    (call : Call) : (guide.cut limits).answer call = guide.answer call := by
  cases call with
  | receive buffer => simp only [answer, receive_cut free]
  | reset => rfl

theorem apply_cut {guide : Guide} (free : guide.limits = .unlimited) (limits : Limits)
    (call : Call) : (guide.cut limits).apply call = (guide.apply call).cut limits := by
  cases call with
  | receive buffer => simp only [apply, receive_cut free]
  | reset => rfl

theorem apply_limits (guide : Guide) (call : Call) : (guide.apply call).limits = guide.limits := by
  cases call with
  | receive buffer => exact receive_limits guide buffer
  | reset => rfl

theorem trace_cut {guide : Guide} (free : guide.limits = .unlimited) (limits : Limits)
    (calls : List Call) :
    (guide.cut limits).trace calls =
      (guide.trace calls).map fun step => (step.1, step.2.cut limits) := by
  induction calls generalizing guide with
  | nil => rfl
  | cons call later ih =>
      have still : (guide.apply call).limits = .unlimited := (apply_limits guide call).trans free
      simp only [trace, List.map_cons, answer_cut free, apply_cut free, ih still]

/-- After every call a guide with limits has answered the same, and holds the same states and the
same events in the same order, as a guide without; only the long descriptions are cut. -/
theorem trace_limits (limits : Limits) (calls : List Call) :
    List.Forall₂ (fun bounded free : Option Verdict × Guide =>
        bounded.1 = free.1 ∧
        bounded.2.states = free.2.states ∧
        bounded.2.events.map GuideEvent.key = free.2.events.map GuideEvent.key ∧
        bounded.2.events = free.2.events.map (GuideEvent.cut limits) ∧
        ∀ event ∈ bounded.2.events,
          (∀ limit, limits.text = some limit → event.longText.length ≤ limit) ∧
          (∀ limit, limits.items = some limit → event.items.length ≤ limit))
      ((empty limits).trace calls) ((empty .unlimited).trace calls) := by
  have start : empty limits = (empty .unlimited).cut limits := rfl
  rw [start, trace_cut rfl, List.forall₂_map_left_iff, List.forall₂_same]
  rintro ⟨verdict, guide⟩ _
  refine ⟨rfl, rfl, ?_, rfl, ?_⟩
  · simp only [cut, List.map_map]
    rfl
  · intro event stored
    obtain ⟨whole, _, rfl⟩ := List.mem_map.mp stored
    constructor
    · intro limit bounded
      rw [GuideEvent.longText_cut]
      exact Limits.length_cutText_le bounded _
    · intro limit bounded
      rw [GuideEvent.items_cut]
      exact Limits.length_cutItems_le bounded _

end Guide

end ProgrammeGuide
