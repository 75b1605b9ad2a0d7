import ProgrammeGuide.CommandLine

/-!
The command itself: reads the file, prints and exits.
-/

namespace ProgrammeGuide.CommandLine

def readFile? (path : String) : IO (Option Octets) := do
  try
    let content ← IO.FS.readBinFile path
    pure (some content.toList)
  catch _ => pure none

end ProgrammeGuide.CommandLine

open ProgrammeGuide.CommandLine in
def main (arguments : List String) : IO UInt32 := do
  let content ← match Request.ofArguments? arguments with
    | some (.listing _ path) => readFile? path
    | _ => pure none
  let outcome := run arguments fun _ => content
  IO.print outcome.output
  pure outcome.exitCode
