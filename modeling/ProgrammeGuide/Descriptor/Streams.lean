import ProgrammeGuide.Descriptor.Block

/-!
Descriptors of the streams that an event is sent in. Component descriptors tell the kind of a
video, audio or data stream and describe it in one language, multilingual ones in several, with
entries that must fill the body exactly. Data broadcast descriptors announce data that is sent with
the event, and short smoothing buffer descriptors bound its bit rate by a buffer and the rate at
which this leaks.
-/

namespace ProgrammeGuide

structure Component where
  contentExtension : UInt8
  content : UInt8
  kind : UInt8
  tag : UInt8
  language : LetterCode
  text : Text
  deriving DecidableEq, Repr

def Component.reader : Reader Component := do
  let contents ← Reader.octet
  let kind ← Reader.octet
  let tag ← Reader.octet
  let language ← LetterCode.reader
  let text ← Reader.takeRest
  pure {
    kind, tag, language
    contentExtension := bits 4 4 contents
    content := bits 0 4 contents
    text := ⟨text⟩ }

instance : DescriptorBody Component where
  tag := 0x50
  read := Component.reader.parse

structure ComponentText where
  language : LetterCode
  text : Text
  deriving DecidableEq, Repr

namespace ComponentText

def reader : Reader ComponentText := do
  let language ← LetterCode.reader
  let text ← Reader.counted
  pure { language, text := ⟨text⟩ }

theorem reader_progresses : reader.Progresses := LetterCode.reader_progresses.bind _

end ComponentText

structure MultilingualComponent where
  componentTag : UInt8
  texts : List ComponentText
  deriving DecidableEq, Repr

def MultilingualComponent.reader : Reader MultilingualComponent := do
  let componentTag ← Reader.octet
  let texts ← Reader.untilEnd ComponentText.reader ComponentText.reader_progresses
  pure { componentTag, texts }

instance : DescriptorBody MultilingualComponent where
  tag := 0x5E
  read := MultilingualComponent.reader.parse

structure DataBroadcast where
  broadcastId : UInt16
  componentTag : UInt8
  selector : Octets
  language : LetterCode
  text : Text
  deriving DecidableEq, Repr

def DataBroadcast.reader : Reader DataBroadcast := do
  let broadcastId ← Reader.word16
  let componentTag ← Reader.octet
  let selector ← Reader.counted
  let language ← LetterCode.reader
  let text ← Reader.counted
  pure { broadcastId, componentTag, selector, language, text := ⟨text⟩ }

instance : DescriptorBody DataBroadcast where
  tag := 0x64
  read := DataBroadcast.reader.parse

structure SmoothingBuffer where
  sizeCode : UInt8
  leakRateCode : UInt8
  deriving DecidableEq, Repr

namespace SmoothingBuffer

/-- The size in octets, known for code 1 only. -/
def sizeOf? (code : UInt8) : Option Nat :=
  if code = 1 then some 1536 else none

/-- The leak rates in Mbit/s for the codes from 1 on, as they are written. -/
def leakRates : List String :=
  ["0.0009", "0.0018", "0.0036", "0.0072", "0.0108", "0.0144", "0.0216", "0.0288", "0.075", "0.5",
    "0.5625", "0.8437", "1", "1.125", "1.5", "1.6875", "2", "2.25", "2.5", "3", "3.375", "3.5",
    "4", "4.5", "5", "5.5", "6", "6.5", "6.75", "7", "7.5", "8", "9", "10", "11", "12", "13",
    "13.5", "14", "15", "16", "17", "18", "20", "22", "24", "26", "27", "28", "30", "32", "34",
    "36", "38", "40", "44", "48", "54", "72", "108"]

/-- The rate of a code; zero and the codes above 60 are reserved. -/
def leakRateOf? (code : UInt8) : Option String :=
  if code = 0 then none else leakRates[code.toNat - 1]?

def size? (buffer : SmoothingBuffer) : Option Nat := sizeOf? buffer.sizeCode

def leakRate? (buffer : SmoothingBuffer) : Option String := leakRateOf? buffer.leakRateCode

end SmoothingBuffer

structure ShortSmoothingBuffer where
  buffer : SmoothingBuffer
  reserved : Octets
  deriving DecidableEq, Repr

def ShortSmoothingBuffer.reader : Reader ShortSmoothingBuffer := do
  let codes ← Reader.octet
  let reserved ← Reader.takeRest
  pure { buffer := ⟨bits 6 2 codes, bits 0 6 codes⟩, reserved }

instance : DescriptorBody ShortSmoothingBuffer where
  tag := 0x61
  read := ShortSmoothingBuffer.reader.parse

end ProgrammeGuide
