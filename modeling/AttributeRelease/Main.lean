import AttributeRelease.CommandLine.Run

/-!
# The program

Reads files and variables, prints what a run of the command line leaves behind, and ends with its code.
-/

namespace AttributeRelease

/-- The text of a file; none if it cannot be read or is no text. -/
def readText? (path : String) : IO (Option String) := do
  try return String.fromUTF8? (← IO.FS.readBinFile path)
  catch _ => return none

/-- Writes a text to a file and says whether that was possible. -/
def writeText (path text : String) : IO Bool := do
  try
    IO.FS.writeFile path text
    return true
  catch _ => return false

/-- The files and variables of the system. -/
def systemConsole : CommandLine.Console IO where
  read? := readText?
  valueOf? name := IO.getEnv name
  write := writeText

end AttributeRelease

/-- Runs the program. -/
def main (arguments : List String) : IO UInt32 := do
  let report ← AttributeRelease.CommandLine.run AttributeRelease.systemConsole arguments
  IO.print report.output
  IO.eprint report.errors
  return report.exitCode.toUInt32
