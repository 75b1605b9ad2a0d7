import ProgrammeGuide.Guide.Admission
import ProgrammeGuide.Guide.Event

/-!
The programme guide and how it grows section by section. Events are held in the order in which
they were first received, one for each key.
-/

namespace ProgrammeGuide

namespace GuideEvent

/-- Changes the event that has the key of `fresh`; without one, `fresh` is changed and added. -/
def upsert (fresh : GuideEvent) (change : GuideEvent → GuideEvent) :
    List GuideEvent → List GuideEvent
  | [] => [change fresh]
  | event :: others =>
      if event.key = fresh.key then change event :: others
      else event :: upsert fresh change others

end GuideEvent

structure Guide where
  limits : Limits
  states : PerClass ClassState
  events : List GuideEvent
  deriving DecidableEq, Repr

namespace Guide

def empty (limits : Limits) : Guide where
  limits := limits
  states := .ofFunction ClassState.initial
  events := []

/-- Forgets all events and all states and keeps the limits. -/
def reset (guide : Guide) : Guide := empty guide.limits

def event? (guide : Guide) (key : EventKey) : Option GuideEvent :=
  guide.events.find? fun event => event.key = key

/-- The section in a buffer together with the class of its table. -/
def identify (buffer : Octets) : Except Rejection (TableClass × EventSection) :=
  match buffer with
  | [] => .error .truncated
  | tableId :: _ =>
      match TableClass.ofTableId? tableId with
      | none => .error (.unknownTable tableId)
      | some cls =>
          match EventSection.read buffer with
          | .error _ => .error .truncated
          | .ok received => .ok (cls, received)

/-- The events after one record of a section. -/
def addRecord (limits : Limits) (cls : TableClass) (received : EventSection)
    (events : List GuideEvent) (record : EventRecord) : List GuideEvent :=
  let key : EventKey :=
    ⟨received.table.transportStreamId, received.table.networkId, record.eventId⟩
  GuideEvent.upsert (.blank key received.header.subjectId)
    (GuideEvent.update limits ⟨cls, received.header.version⟩ record) events

/-- Takes in the section that fills the buffer, or says why not. -/
def receive (guide : Guide) (buffer : Octets) : Guide × Verdict :=
  match identify buffer with
  | .error cause => (guide, .error cause)
  | .ok (cls, received) =>
      match (guide.states.get cls).review cls received.header received.table with
      | (state, .error cause) => ({ guide with states := guide.states.set cls state }, .error cause)
      | (state, .ok _) =>
          ({ guide with
              states := guide.states.set cls state
              events := received.events.foldl (addRecord guide.limits cls received) guide.events },
            .ok ())

/-- Takes in one section after the other and collects the verdicts. -/
def receiveAll (guide : Guide) : List Octets → Guide × List Verdict
  | [] => (guide, [])
  | buffer :: others =>
      let (next, verdict) := guide.receive buffer
      let (last, verdicts) := next.receiveAll others
      (last, verdict :: verdicts)

end Guide

end ProgrammeGuide
