import Mathlib.Data.Finset.Card
import Mathlib.Data.List.Induction
import ProgrammeGuide.Proofs.History

/-!
The events of a guide as a store: which keys it holds, in which order, and what is held under
each of them. An event depends on the deliveries with its own key and on nothing else.
-/

namespace ProgrammeGuide

theorem eraseDups_concat {α : Type} [DecidableEq α] (values : List α) (value : α) :
    (values ++ [value]).eraseDups =
      if value ∈ values then values.eraseDups else values.eraseDups ++ [value] := by
  rw [List.eraseDups_append]
  by_cases known : value ∈ values
  · simp [List.removeAll, known]
  · simp [List.removeAll, known, List.eraseDups_cons]

theorem nodup_eraseDups {α : Type} [DecidableEq α] (values : List α) : values.eraseDups.Nodup := by
  induction values using List.reverseRecOn with
  | nil => exact List.nodup_nil
  | append_singleton earlier value ih =>
      rw [eraseDups_concat]
      split
      · exact ih
      · rename_i unknown
        refine List.nodup_append.mpr ⟨ih, List.nodup_singleton value, ?_⟩
        rintro other member _ last rfl
        rw [List.mem_singleton.mp last, List.mem_eraseDups] at member
        exact unknown member

theorem length_eraseDups {α : Type} [DecidableEq α] (values : List α) :
    values.eraseDups.length = values.toFinset.card := by
  rw [← List.toFinset_card_of_nodup (nodup_eraseDups values)]
  congr 1
  ext value
  simp

/-- Changes what stands under a key in a table that keeps the order in which its keys were added;
under a new key, the changed `fresh` is added at the end. -/
def shelve {κ α : Type} [DecidableEq κ] (key : κ) (fresh : α) (change : α → α) :
    List (κ × α) → List (κ × α)
  | [] => [(key, change fresh)]
  | (known, value) :: others =>
      if known = key then (known, change value) :: others
      else (known, value) :: shelve key fresh change others

namespace GuideEvent

theorem merge_key (limits : Limits) (event : GuideEvent) (descriptor : Descriptor) :
    (event.merge limits descriptor).key = event.key := by
  cases descriptor <;> rfl

theorem foldl_merge_keeps {α : Type} {limits : Limits} {field : GuideEvent → α}
    (kept : ∀ event descriptor, field (merge limits event descriptor) = field event)
    (event : GuideEvent) (descriptors : List Descriptor) :
    field (descriptors.foldl (merge limits) event) = field event := by
  induction descriptors generalizing event with
  | nil => rfl
  | cons descriptor others ih => rw [List.foldl_cons, ih, kept]

section Upsert

variable {fresh : GuideEvent} {change : GuideEvent → GuideEvent}

theorem upsert_keys (keeps : ∀ event, (change event).key = event.key) (events : List GuideEvent) :
    (upsert fresh change events).map key =
      if fresh.key ∈ events.map key then events.map key else events.map key ++ [fresh.key] := by
  induction events with
  | nil => simp [upsert, keeps]
  | cons event others ih =>
      by_cases same : event.key = fresh.key
      · simp [upsert, same, keeps]
      · have different : fresh.key ≠ event.key := Ne.symm same
        simp only [upsert, same, if_false, List.map_cons, ih, List.mem_cons, different, false_or]
        split <;> rfl

theorem find?_upsert_self (fresh : GuideEvent) (keeps : ∀ event, (change event).key = event.key)
    (events : List GuideEvent) :
    (upsert fresh change events).find? (fun event => event.key = fresh.key) =
      some (change ((events.find? fun event => event.key = fresh.key).getD fresh)) := by
  induction events with
  | nil => simp [upsert, keeps]
  | cons event others ih =>
      by_cases same : event.key = fresh.key
      · simp [upsert, same, keeps]
      · simp [upsert, same, ih]

theorem find?_upsert_of_ne (keeps : ∀ event, (change event).key = event.key) {key : EventKey}
    (different : fresh.key ≠ key) (events : List GuideEvent) :
    (upsert fresh change events).find? (fun event => event.key = key) =
      events.find? fun event => event.key = key := by
  induction events with
  | nil => simp [upsert, keeps, different]
  | cons event others ih =>
      by_cases same : event.key = fresh.key
      · simp [upsert, same, keeps, different]
      · simp [upsert, same, ih, List.find?_cons]

theorem upsert_of_absent {events : List GuideEvent}
    (absent : ∀ event ∈ events, event.key ≠ fresh.key) :
    upsert fresh change events = events ++ [change fresh] := by
  induction events with
  | nil => rfl
  | cons event others ih =>
      obtain ⟨differs, rest⟩ := List.forall_mem_cons.mp absent
      rw [upsert, if_neg differs, ih rest, List.cons_append]

theorem shelve_map_key (fresh : GuideEvent) (keeps : ∀ event, (change event).key = event.key)
    (events : List GuideEvent) :
    shelve fresh.key fresh change (events.map fun event => (event.key, event)) =
      (upsert fresh change events).map fun event => (event.key, event) := by
  induction events with
  | nil => simp [shelve, upsert, keeps]
  | cons event others ih =>
      by_cases same : event.key = fresh.key
      · simp [shelve, upsert, same, keeps]
      · simp [shelve, upsert, same, ih]

end Upsert

end GuideEvent

namespace Delivery

theorem applyTo_key (limits : Limits) (event : GuideEvent) (delivery : Delivery) :
    (delivery.applyTo limits event).key = event.key :=
  GuideEvent.foldl_merge_keeps (GuideEvent.merge_key limits) _ _

theorem find?_enter_self (limits : Limits) (events : List GuideEvent) (delivery : Delivery) :
    (delivery.enter limits events).find? (fun event => event.key = delivery.key) =
      some (delivery.applyTo limits ((events.find? fun event => event.key = delivery.key).getD
        (.blank delivery.key delivery.serviceId))) :=
  GuideEvent.find?_upsert_self (.blank delivery.key delivery.serviceId)
    (fun event => applyTo_key limits event delivery) events

theorem find?_enter_of_ne {delivery : Delivery} {key : EventKey} (different : delivery.key ≠ key)
    (limits : Limits) (events : List GuideEvent) :
    (delivery.enter limits events).find? (fun event => event.key = key) =
      events.find? fun event => event.key = key :=
  GuideEvent.find?_upsert_of_ne (fun event => applyTo_key limits event delivery) different events

theorem keys_foldl_enter (limits : Limits) (past : List Delivery) :
    (past.foldl (enter limits) []).map GuideEvent.key = (past.map key).eraseDups := by
  induction past using List.reverseRecOn with
  | nil => rfl
  | append_singleton earlier delivery ih =>
      rw [List.foldl_concat, enter, GuideEvent.upsert_keys (fun event => applyTo_key limits event _),
        ih, List.map_append, List.map_singleton, eraseDups_concat]
      simp only [List.mem_eraseDups, GuideEvent.blank]

/-- Under each key stands the event that its own deliveries make of a blank one, which takes its
service from the first of them. -/
theorem find?_foldl_enter (limits : Limits) (past : List Delivery) (wanted : EventKey) :
    (past.foldl (enter limits) []).find? (fun event => event.key = wanted) =
      (past.find? fun delivery => delivery.key = wanted).map fun first =>
        (past.filter fun delivery => delivery.key = wanted).foldl (applyTo limits)
          (.blank wanted first.serviceId) := by
  induction past using List.reverseRecOn with
  | nil => rfl
  | append_singleton earlier delivery ih =>
      rw [List.foldl_concat, List.find?_append, List.filter_append]
      by_cases same : delivery.key = wanted
      · subst same
        rw [find?_enter_self, ih]
        cases known : earlier.find? fun other => other.key = delivery.key with
        | none =>
            -- The first delivery of its key: there is nothing but the blank event to apply it to.
            have unmatched : (earlier.filter fun other => other.key = delivery.key) = [] := by
              simpa using known
            simp [unmatched]
        | some first => simp
      · rw [find?_enter_of_ne same, ih]
        simp [same]

/-- Deliveries of events that are not yet held, each once, are added behind those that are. -/
theorem foldl_enter_absent (limits : Limits) {past : List Delivery} {events : List GuideEvent}
    (distinct : (past.map key).Nodup) (absent : ∀ event ∈ events, event.key ∉ past.map key) :
    past.foldl (enter limits) events =
      events ++ past.map fun delivery =>
        delivery.applyTo limits (.blank delivery.key delivery.serviceId) := by
  induction past generalizing events with
  | nil => rw [List.foldl_nil, List.map_nil, List.append_nil]
  | cons delivery others ih =>
      obtain ⟨own, rest⟩ := List.nodup_cons.mp distinct
      have added : delivery.enter limits events =
          events ++ [delivery.applyTo limits (.blank delivery.key delivery.serviceId)] := by
        refine GuideEvent.upsert_of_absent fun event member same => absent event member ?_
        exact same ▸ List.mem_cons_self
      rw [List.foldl_cons, added, ih rest, List.map_cons, List.append_assoc, List.singleton_append]
      intro event member
      rcases List.mem_append.mp member with earlier | last
      · exact fun known => absent event earlier (List.mem_cons_of_mem _ known)
      · rw [List.mem_singleton.mp last, applyTo_key]
        exact own

theorem find?_of_mem {limits : Limits} {past : List Delivery} {event : GuideEvent}
    (stored : event ∈ past.foldl (enter limits) []) :
    (past.foldl (enter limits) []).find? (fun other => other.key = event.key) = some event := by
  have unique := nodup_eraseDups (past.map key)
  rw [← keys_foldl_enter limits] at unique
  generalize past.foldl (enter limits) [] = events at stored unique
  induction events with
  | nil => cases stored
  | cons head others ih =>
      obtain ⟨fresh, distinct⟩ := List.nodup_cons.mp unique
      rcases List.mem_cons.mp stored with rfl | later
      · simp
      · have differs : head.key ≠ event.key := by
          intro same
          exact fresh (same ▸ List.mem_map_of_mem later)
        rw [List.find?_cons_of_neg (by simpa using differs)]
        exact ih later distinct

theorem foldl_shelve (limits : Limits) (past : List Delivery) :
    past.foldl (fun table delivery =>
        shelve delivery.key (.blank delivery.key delivery.serviceId)
          (fun event => delivery.applyTo limits event) table) [] =
      (past.foldl (enter limits) []).map fun event => (event.key, event) := by
  induction past using List.reverseRecOn with
  | nil => rfl
  | append_singleton earlier delivery ih =>
      rw [List.foldl_concat, List.foldl_concat, ih]
      exact GuideEvent.shelve_map_key (.blank delivery.key delivery.serviceId)
        (fun event => applyTo_key limits event delivery) _

end Delivery

namespace Guide

/-- A guide holds exactly the events that its history has delivered. What stands under a key is
made of the deliveries with that key and of nothing else, in their order; the keys are listed
once each, in the order of their first delivery; and a table with keys of its own, filled with
the same deliveries, holds every event under the key that the event carries. -/
theorem run_store (limits : Limits) (calls : List Call) :
    let guide := (empty limits).run calls
    let taken := history limits calls
    (∀ key, (guide.event? key).isSome ↔ ∃ delivery ∈ taken, delivery.key = key) ∧
    (∀ key, guide.event? key =
      (taken.find? fun delivery => delivery.key = key).map fun first =>
        (taken.filter fun delivery => delivery.key = key).foldl (Delivery.applyTo limits)
          (.blank key first.received.header.subjectId)) ∧
    guide.events.map GuideEvent.key = (taken.map Delivery.key).eraseDups ∧
    (guide.events.map GuideEvent.key).Nodup ∧
    guide.events.length = (taken.map Delivery.key).toFinset.card ∧
    taken.foldl (fun table delivery =>
        shelve delivery.key (.blank delivery.key delivery.serviceId)
          (fun event => delivery.applyTo limits event) table) [] =
      guide.events.map fun event => (event.key, event) := by
  intro guide taken
  have events : guide.events = taken.foldl (Delivery.enter limits) [] := run_events limits calls
  have found (key : EventKey) : guide.event? key = _ :=
    (congrArg _ events).trans (Delivery.find?_foldl_enter limits taken key)
  have keys := Delivery.keys_foldl_enter limits taken
  rw [← events] at keys
  refine ⟨?_, found, keys, ?_, ?_, ?_⟩
  · intro key
    rw [found, Option.isSome_map, List.find?_isSome]
    simp only [decide_eq_true_eq]
  · rw [keys]
    exact nodup_eraseDups _
  · rw [← length_eraseDups, ← keys, List.length_map]
  · rw [events]
    exact Delivery.foldl_shelve limits taken

end Guide

end ProgrammeGuide
