/-
RouteConvergence.Main — the program.

The files that the arguments name, the environment and the clock are
read, and everything else is said by `CommandLine.run`. A file that cannot
be read, or is no text, counts as missing.
-/
import Std.Time.DateTime.Timestamp
import RouteConvergence.CommandLine.Run

namespace RouteConvergence

/-- The contents of a file, if it can be read as text. -/
def contentsOf? (path : String) : IO (Option String) := do
  try
    return String.fromUTF8? (← IO.FS.readBinFile path)
  catch _ => return none

/-- The file by which the system shows a process its environment. -/
def environmentFile : String := "/proc/self/environ"

/-- The environment of the program. -/
def readEnvironment : IO Environment := do
  let text := (← contentsOf? environmentFile).getD ""
  return (Text.splitOn '\x00' text).filterMap (Text.splitOnce '=')

/-- The present moment. -/
def readClock : IO Instant := do
  let stamp ← Std.Time.Timestamp.now
  return Instant.ofEpoch stamp.val.second.val.toNat stamp.val.nano.val.toNat

/-- The files that are read for a command line, with their contents. -/
def readFiles (arguments : List String) : IO (List (String × String)) := do
  match CommandLine.Invocation.ofArguments arguments with
  | .error _ => return []
  | .ok invocation =>
    let named ← invocation.files.mapM fun path => do
      return (← contentsOf? path).map fun contents => (path, contents)
    return named.filterMap id

end RouteConvergence

open RouteConvergence in
/-- Runs a command line, prints its answer and ends with its exit code. -/
def main (arguments : List String) : IO UInt32 := do
  let texts ← readFiles arguments
  let answer := CommandLine.run (fun path => texts.lookup path) (← readEnvironment)
    (← readClock) arguments
  IO.print answer.output
  match answer.complaint with
  | some complaint => IO.eprintln complaint
  | none => pure ()
  return UInt32.ofNat answer.exitCode
