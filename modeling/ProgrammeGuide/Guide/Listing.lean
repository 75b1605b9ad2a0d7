import ProgrammeGuide.Guide.Assembly
import ProgrammeGuide.Time.Gregorian

/-!
The guide as it is printed: service by service, the events of each in the order of their starts.
-/

namespace ProgrammeGuide

namespace StartTime

/-- By the octets that were sent. -/
def le (first second : StartTime) : Bool := first.octets ≤ second.octets

end StartTime

namespace Guide

/-- The services that have an event, each once, in ascending order. -/
def services (guide : Guide) : List UInt16 :=
  (guide.events.map GuideEvent.serviceId).eraseDups.mergeSort fun first second => first ≤ second

/-- The events of a service by start; those that start together stay as they were received. -/
def eventsOf (guide : Guide) (serviceId : UInt16) : List GuideEvent :=
  (guide.events.filter fun event => event.serviceId = serviceId).mergeSort fun first second =>
    first.airing.start.le second.airing.start

def programme (guide : Guide) : List (UInt16 × List GuideEvent) :=
  guide.services.map fun serviceId => (serviceId, guide.eventsOf serviceId)

end Guide

namespace Listing

/-- Every line ends with a line feed, the last one too. -/
def ofLines (lines : List String) : String := String.join (lines.map (· ++ "\n"))

def moment? (start : StartTime) : Option Gregorian.Moment :=
  start.dateTime?.bind Gregorian.Moment.ofDateTime?

def timeText (airing : Airing) : String :=
  match moment? airing.start with
  | some start => start.text ++ " - " ++ (start.add airing.duration.totalSeconds).text
  | none => "(未定)"

def textLine (text : Text) : List String :=
  if text.isEmpty then [] else [text.escaped]

def eventLines (event : GuideEvent) : List String :=
  [timeText event.airing ++ " " ++ event.name.escaped, "[" ++ event.airing.status.text ++ "]"] ++
    textLine event.shortText ++
    (event.genreText?.map ("ジャンル: " ++ ·)).toList ++
    (event.componentText?.map ("映像: " ++ ·)).toList ++
    ((event.rating.bind Rating.minimumAge?).map fun age =>
      Numeral.decimal 1 age.toNat ++ "歳以上").toList ++
    (event.items.map fun item => item.description.escaped ++ ": " ++ item.content.escaped) ++
    textLine event.longText ++
    [String.ofList (List.replicate 100 '-')]

def serviceLines (serviceId : UInt16) (events : List GuideEvent) : List String :=
  ("service 0x" ++ Numeral.upperHex 4 serviceId.toNat) ::
    (events.flatMap eventLines).map ("\t" ++ ·)

def text (guide : Guide) : String :=
  ofLines (guide.programme.flatMap fun (serviceId, events) => serviceLines serviceId events)

end Listing

end ProgrammeGuide
