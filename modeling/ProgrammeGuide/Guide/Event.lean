import ProgrammeGuide.Classification
import ProgrammeGuide.Descriptor
import ProgrammeGuide.EventTable.Section
import ProgrammeGuide.Guide.LongDescription

/-!
An event of the guide, and how each descriptor that is received for it changes it.
-/

namespace ProgrammeGuide

structure EventKey where
  transportStreamId : UInt16
  networkId : UInt16
  eventId : UInt16
  deriving DecidableEq, Repr

namespace EventKey

def ids (key : EventKey) : List UInt16 := [key.transportStreamId, key.networkId, key.eventId]

/-- Transport stream first, then network, then event. -/
def le (first second : EventKey) : Bool := first.ids ≤ second.ids

def sorted (keys : List EventKey) : List EventKey := keys.mergeSort le

end EventKey

/-- The event of which another one is a later showing. -/
structure ShiftedFrom where
  serviceId : UInt16
  event : EventKey
  deriving DecidableEq, Repr

structure GuideEvent where
  key : EventKey
  serviceId : UInt16
  airing : Airing
  /-- The table that last updated the event. -/
  source : Option TableVersion
  language : Option LetterCode
  name : Text
  shortText : Text
  longDescription : Option LongDescription
  component : Option Component
  genre : Option Genre
  rating : Option Rating
  smoothingBuffer : Option SmoothingBuffer
  label : Option RecordingLabel
  shiftedFrom : Option ShiftedFrom
  accessSystems : List UInt16
  deriving DecidableEq, Repr

namespace GuideEvent

def blank (key : EventKey) (serviceId : UInt16) : GuideEvent where
  key := key
  serviceId := serviceId
  airing := ⟨.undefined, .zero, .undefined, false⟩
  source := none
  language := none
  name := .empty
  shortText := .empty
  longDescription := none
  component := none
  genre := none
  rating := none
  smoothingBuffer := none
  label := none
  shiftedFrom := none
  accessSystems := []

def longText (event : GuideEvent) : Text :=
  match event.longDescription with
  | none => .empty
  | some description => description.text

def items (event : GuideEvent) : List EventItem :=
  match event.longDescription with
  | none => []
  | some description => description.items

def lastFragment? (event : GuideEvent) : Option UInt8 :=
  event.longDescription.map LongDescription.lastFragment

def componentText? (event : GuideEvent) : Option String :=
  event.component.bind fun component =>
    Classification.component? component.content component.contentExtension component.kind

def genreText? (event : GuideEvent) : Option String :=
  event.genre.bind fun genre => Classification.genre? genre.main genre.sub

/-- Takes over the fixed part of a received event. -/
def announce (source : TableVersion) (airing : Airing) (event : GuideEvent) : GuideEvent :=
  { event with airing := airing, source := some source }

/-- A text that is sent empty does not replace an earlier one. -/
def mergeShortEvent (event : GuideEvent) (body : ShortEvent) : GuideEvent :=
  { event with
    language := some body.language
    name := if body.name.isEmpty then event.name else body.name
    shortText := if body.text.isEmpty then event.shortText else body.text }

/-- The first rating is kept, the latest value of everything else; kinds of descriptors that say
nothing about the event itself change nothing. -/
def merge (limits : Limits) (event : GuideEvent) : Descriptor → GuideEvent
  | .shortEvent body => event.mergeShortEvent body
  | .extendedEvent body =>
      { event with
        longDescription := LongDescription.extend limits event.source body event.longDescription }
  | .parentalRating body => { event with rating := event.rating.or body.ratings.head? }
  | .component body => { event with component := some body }
  | .content body => { event with genre := body.genres.head?.or event.genre }
  | .shortSmoothingBuffer body => { event with smoothingBuffer := some body.buffer }
  | .deliveryControl body => { event with label := some body.label }
  | .conditionalAccess body => { event with accessSystems := body.systemIds }
  | .timeShiftedEvent body =>
      { event with
        shiftedFrom := some ⟨body.serviceId, { event.key with eventId := body.eventId }⟩ }
  | .stuffing _ | .service _ | .linkage _ | .telephone _ | .multilingualComponent _
  | .privateDataSpecifier _ | .dataBroadcast _ | .unsupported _ => event

/-- The event after a record of it: the fixed part first, then every readable descriptor. -/
def update (limits : Limits) (source : TableVersion) (record : EventRecord) (event : GuideEvent) :
    GuideEvent :=
  record.descriptors.readable.foldl (merge limits) (event.announce source record.airing)

end GuideEvent

end ProgrammeGuide
