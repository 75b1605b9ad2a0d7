import ProgrammeGuide.Reader.Repeated

/-!
Texts. The character coding of a broadcast text is left alone: it is the octets that were sent, and
it is shown with every octet outside printable ASCII escaped. Codes of three letters stand for
languages (ISO 639-2) and countries (ISO 3166); nothing keeps a broadcaster from sending other
octets, so they are shown escaped, too. Numbers are padded with zeros to a least width, never cut.
-/

namespace ProgrammeGuide

namespace Numeral

def padded (base width value : Nat) : List Char :=
  let digits := Nat.toDigits base value
  List.replicate (width - digits.length) '0' ++ digits

def decimal (width value : Nat) : String :=
  String.ofList (padded 10 width value)

def lowerHex (width value : Nat) : String :=
  String.ofList (padded 16 width value)

def upperHex (width value : Nat) : String :=
  String.ofList ((padded 16 width value).map Char.toUpper)

/-- Always two digits: the tens digit and the units digit, whatever stands above them. -/
def twoDigits (value : Nat) : String :=
  String.ofList [Nat.digitChar (value / 10 % 10), Nat.digitChar (value % 10)]

end Numeral

structure Text where
  octets : Octets
  deriving DecidableEq, Repr

namespace Text

def empty : Text := ⟨[]⟩

def length (text : Text) : Nat := text.octets.length

def isEmpty (text : Text) : Bool := text.octets.isEmpty

def append (first second : Text) : Text := ⟨first.octets ++ second.octets⟩

/-- At most the first `limit` octets. -/
def truncate (limit : Nat) (text : Text) : Text := ⟨text.octets.take limit⟩

/-- Octet by octet, a proper prefix first. -/
def compare (first second : Text) : Ordering :=
  compareOfLessAndEq first.octets second.octets

def escapeOctet (octet : UInt8) : List Char :=
  if octet = 0x09 then ['\\', 't']
  else if octet = 0x0A then ['\\', 'n']
  else if octet = 0x0D then ['\\', 'r']
  else if octet = 0x22 then ['\\', '"']
  else if octet = 0x27 then ['\\', '\'']
  else if octet = 0x5C then ['\\', '\\']
  else if 0x20 ≤ octet ∧ octet ≤ 0x7E then [Char.ofNat octet.toNat]
  else '\\' :: 'x' :: Numeral.padded 16 2 octet.toNat

/-- Printable ASCII, with quotes, backslashes and all other octets escaped. -/
def escaped (text : Text) : String := String.ofList (text.octets.flatMap escapeOctet)

def quoted (text : Text) : String := "\"" ++ text.escaped ++ "\""

end Text

structure LetterCode where
  first : UInt8
  second : UInt8
  third : UInt8
  deriving DecidableEq, Repr

namespace LetterCode

def octets (code : LetterCode) : Octets := [code.first, code.second, code.third]

def text (code : LetterCode) : String := Text.escaped ⟨code.octets⟩

def reader : Reader LetterCode := do
  let first ← Reader.octet
  let second ← Reader.octet
  let third ← Reader.octet
  pure ⟨first, second, third⟩

theorem reader_progresses : reader.Progresses := Reader.octet_progresses.bind _

end LetterCode

end ProgrammeGuide
