import SpaceMigration.CommandLine.Program
import SpaceMigration.Job.Identifier
import SpaceMigration.Time.Unix
import Std.Time.DateTime.Timestamp

/-!
# The command line program

The real world as an environment of the command line.
-/

namespace SpaceMigration.CommandLine

/-- What a path of the file system leads to. What is there but cannot be read counts as a
directory. -/
def lookAtPath (path : String) : IO PathContent := do
  try
    return .file (← IO.FS.readBinFile path)
  catch
    | .noFileOrDirectory .. => return .nothing
    | _ => return .directory

/-- Writes a file whole, and returns whether that was possible. -/
def writePath (path : String) (bytes : ByteArray) : IO Bool := do
  try
    IO.FS.writeBinFile path bytes
    return true
  catch _ => return false

/-- The time of the system clock. -/
def systemClock : IO Timestamp := do
  let now ← Std.Time.Timestamp.now
  return (Timestamp.ofUnixNanos? now.toNanosecondsSinceUnixEpoch.toInt.toNat).getD .epoch

/-- The file system, the system clock and random identifiers. -/
def systemEnvironment : Environment IO where
  look := lookAtPath
  write := writePath
  clock := systemClock
  newJobId := do return JobId.ofRandom (← IO.getRandomBytes 16).toList

end SpaceMigration.CommandLine

open SpaceMigration.CommandLine in
/-- Runs the program with the arguments of the process. -/
def main (arguments : List String) : IO UInt32 := do
  let exit ← runProgram systemEnvironment arguments
  IO.print exit.output
  IO.eprint exit.errors
  return exit.code.toUInt32
