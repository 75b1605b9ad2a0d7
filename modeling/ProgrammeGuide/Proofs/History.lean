import ProgrammeGuide.Guide.Assembly

/-!
Runs of a guide: sections and resets in any order. The history of a run is what was taken in
since the last reset, record by record, and the events of the guide are a fold over it.
-/

namespace ProgrammeGuide

/-- A record of an event together with the section that brought it. -/
structure Delivery where
  cls : TableClass
  received : EventSection
  record : EventRecord
  deriving DecidableEq, Repr

namespace Delivery

def key (delivery : Delivery) : EventKey :=
  ⟨delivery.received.table.transportStreamId, delivery.received.table.networkId,
    delivery.record.eventId⟩

def serviceId (delivery : Delivery) : UInt16 := delivery.received.header.subjectId

def source (delivery : Delivery) : TableVersion :=
  ⟨delivery.cls, delivery.received.header.version⟩

def applyTo (limits : Limits) (event : GuideEvent) (delivery : Delivery) : GuideEvent :=
  delivery.record.descriptors.readable.foldl (GuideEvent.merge limits)
    (event.announce delivery.source delivery.record.airing)

def enter (limits : Limits) (events : List GuideEvent) (delivery : Delivery) : List GuideEvent :=
  GuideEvent.upsert (.blank delivery.key delivery.serviceId)
    (fun event => delivery.applyTo limits event) events

end Delivery

inductive Call
  | receive (buffer : Octets)
  | reset
  deriving DecidableEq, Repr

namespace Guide

def apply (guide : Guide) : Call → Guide
  | .receive buffer => (guide.receive buffer).1
  | .reset => guide.reset

def run (guide : Guide) (calls : List Call) : Guide := calls.foldl apply guide

/-- The records that a buffer brings; none when its section is rejected. -/
def deliveries (guide : Guide) (buffer : Octets) : List Delivery :=
  match identify buffer, (guide.receive buffer).2 with
  | .ok (cls, received), .ok _ => received.events.map fun record => ⟨cls, received, record⟩
  | _, _ => []

def historyFrom (guide : Guide) (past : List Delivery) : List Call → List Delivery
  | [] => past
  | .receive buffer :: later =>
      (guide.receive buffer).1.historyFrom (past ++ guide.deliveries buffer) later
  | .reset :: later => guide.reset.historyFrom [] later

/-- Everything that a new guide has taken in since it was last reset. -/
def history (limits : Limits) (calls : List Call) : List Delivery :=
  (empty limits).historyFrom [] calls

theorem receive_of_error {guide : Guide} {buffer : Octets} {cause : Rejection}
    (unidentified : identify buffer = .error cause) :
    guide.receive buffer = (guide, .error cause) := by
  simp only [receive, unidentified]

theorem receive_of_ok {guide : Guide} {buffer : Octets} {cls : TableClass}
    {received : EventSection} (identified : identify buffer = .ok (cls, received)) :
    guide.receive buffer =
      let reviewed := (guide.states.get cls).review cls received.header received.table
      ({ guide with
          states := guide.states.set cls reviewed.1
          events := match reviewed.2 with
            | .ok _ => received.events.foldl (addRecord guide.limits cls received) guide.events
            | .error _ => guide.events },
        reviewed.2) := by
  simp only [receive, identified]
  split
  · rename_i state cause rejected
    simp only [rejected]
  · rename_i state accepted
    simp only [accepted]

theorem receive_limits (guide : Guide) (buffer : Octets) :
    (guide.receive buffer).1.limits = guide.limits := by
  cases identified : identify buffer with
  | error cause => rw [receive_of_error identified]
  | ok found => rw [receive_of_ok identified]

theorem receive_events (guide : Guide) (buffer : Octets) :
    (guide.receive buffer).1.events =
      (guide.deliveries buffer).foldl (Delivery.enter guide.limits) guide.events := by
  unfold deliveries
  cases identified : identify buffer with
  | error cause =>
      rw [receive_of_error identified]
      rfl
  | ok found =>
      obtain ⟨cls, received⟩ := found
      rw [receive_of_ok identified]
      cases verdict : ((guide.states.get cls).review cls received.header received.table).2 with
      | error cause =>
          simp only [verdict, List.foldl_nil]
      | ok accepted =>
          simp only [verdict, List.foldl_map]
          rfl

/-- What holds of an empty guide with nothing taken in, and is kept by every section and every
reset, holds after every run. -/
theorem run_induction {motive : Guide → List Delivery → Prop}
    (received : ∀ guide past buffer, motive guide past →
      motive (guide.receive buffer).1 (past ++ guide.deliveries buffer))
    (reset : ∀ guide past, motive guide past → motive guide.reset [])
    {guide : Guide} {past : List Delivery} (start : motive guide past) (calls : List Call) :
    motive (guide.run calls) (guide.historyFrom past calls) := by
  induction calls generalizing guide past with
  | nil => exact start
  | cons call later ih =>
      cases call with
      | receive buffer => exact ih (received guide past buffer start)
      | reset => exact ih (reset guide past start)

theorem run_limits (limits : Limits) (calls : List Call) :
    ((empty limits).run calls).limits = limits := by
  refine @run_induction (fun guide _ => guide.limits = limits) ?_ ?_ (empty limits) [] rfl calls
  · intro guide past buffer kept
    rw [receive_limits, kept]
  · intro guide past kept
    exact kept

theorem run_events (limits : Limits) (calls : List Call) :
    ((empty limits).run calls).events =
      (history limits calls).foldl (Delivery.enter limits) [] := by
  suffices both : ((empty limits).run calls).limits = limits ∧
      ((empty limits).run calls).events =
        ((empty limits).historyFrom [] calls).foldl (Delivery.enter limits) [] from both.2
  refine run_induction (motive := fun guide past => guide.limits = limits ∧
    guide.events = past.foldl (Delivery.enter limits) []) ?_ ?_ ⟨rfl, rfl⟩ calls
  · rintro guide past buffer ⟨same, events⟩
    refine ⟨by rw [receive_limits, same], ?_⟩
    rw [receive_events, List.foldl_append, same, events]
  · rintro guide past ⟨same, _⟩
    exact ⟨same, rfl⟩

end Guide

end ProgrammeGuide
