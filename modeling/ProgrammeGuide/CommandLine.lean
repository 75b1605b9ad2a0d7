import ProgrammeGuide.Guide.Listing

/-!
The command that prints the guide of a file of sections. An option may stand anywhere among its
arguments, with its value as the next one; what the options leave begins with the path.
-/

namespace ProgrammeGuide.CommandLine

/-- The digits of a number in 64 bits, perhaps behind a plus sign. -/
def count? (text : List Char) : Option Nat :=
  let digits := match text with
    | '+' :: rest => rest
    | _ => text
  if digits ≠ [] ∧ digits.all Char.isDigit then
    let number := Nat.ofDigitChars 10 digits 0
    if number < UInt64.size then some number else none
  else none

/-- Takes the first occurrence of an option and the value behind it out of the arguments. An option
that comes last lacks its value. -/
def takeOption? (name : String) : List String → Option (Option String × List String)
  | [] => some (none, [])
  | argument :: others =>
      if argument = name then
        match others with
        | [] => none
        | value :: rest => some (some value, rest)
      else (takeOption? name others).map fun (value, rest) => (value, argument :: rest)

/-- The limit that an option sets; none set when the option is missing. -/
def takeLimit? (name : String) (arguments : List String) : Option (Option Nat × List String) :=
  match takeOption? name arguments with
  | none => none
  | some (none, others) => some (none, others)
  | some (some value, others) => (count? value.toList).map fun limit => (some limit, others)

inductive Request
  | help
  | listing (limits : Limits) (path : String)
  deriving DecidableEq, Repr

def Request.ofArguments? (arguments : List String) : Option Request :=
  if "-h" ∈ arguments ∨ "--help" ∈ arguments then some .help else do
    let (text, arguments) ← takeLimit? "--max-description" arguments
    let (items, arguments) ← takeLimit? "--max-items" arguments
    let path ← arguments.head?
    some (.listing ⟨text, items⟩ path)

def helpLines : List String :=
  ["番組表を表示するコマンド", "", "USAGE:", "  epg [OPTIONS] [PATH]", "", "FLAGS:",
    "  -h, --help           このヘルプを表示する", "", "OPTIONS:",
    "  --max-description N  拡張記述の最大バイト数",
    "  --max-items N        拡張形式イベントの項目の最大数", "", "ARGS:",
    "  <PATH>               EITのセクションを連結したファイルのパス"]

structure Outcome where
  exitCode : UInt32
  output : String
  deriving DecidableEq, Repr

/-- The guide of all sections in a file. -/
def guideOf (limits : Limits) (content : Octets) : Guide :=
  ((Guide.empty limits).receiveAll (Section.split content)).1

/-- What the command prints and its exit code, given how paths are read. -/
def run (arguments : List String) (contentAt? : String → Option Octets) : Outcome :=
  match Request.ofArguments? arguments with
  | none => ⟨1, ""⟩
  | some .help => ⟨0, Listing.ofLines helpLines⟩
  | some (.listing limits path) =>
      match contentAt? path with
      | none => ⟨1, ""⟩
      | some content => ⟨0, Listing.text (guideOf limits content)⟩

end ProgrammeGuide.CommandLine
