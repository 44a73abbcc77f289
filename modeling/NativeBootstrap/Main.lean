import NativeBootstrap.Program
import Std.Time.Format

/-!
# The command line program

Collects what a run depends on, runs `Program.run`, and writes its transcript. No library is built
for the running host (`Variant.select?_running`), so that no run looks at a file or asks the system's
loader for one; the world it is given holds none, and that loader says nothing.
-/

set_option autoImplicit false

namespace NativeBootstrap.Main

/-- The strings in bytes that each end in a zero byte. -/
def zeroTerminated (bytes : Bytes) : List Bytes :=
  (bytes.splitOn 0).dropLast

/-- The arguments after the program's name, as bytes. The system keeps them as they were given;
`count` tells how many of them are the program's own. -/
def arguments (count : Nat) : IO (List Bytes) := do
  let words := zeroTerminated (← IO.FS.readBinFile "/proc/self/cmdline").toList
  return words.drop (words.length - count)

/-- The release of the running system, if it tells one. -/
def systemRelease : IO (Option String) :=
  try
    return some (Text.trimmed (← IO.FS.readFile "/proc/sys/kernel/osrelease"))
  catch _ => return none

/-- The world of a run. -/
def surroundings : IO World := do
  return ⟨⟨[]⟩, .root, ⟨.ofString "", none⟩, .running (← systemRelease)⟩

/-- The stamp of records that are written now: the date and the time, in seconds. -/
def stamp : IO String := do
  let now := Std.Time.WallTime.ofTimestamp (← Std.Time.Timestamp.now) Std.Time.TimeZone.GMT.offset
  return (Std.Time.PlainDateTime.ofWallTime now).format "uuuu-MM-dd'T'HH:mm:ss'Z '"

end NativeBootstrap.Main

open NativeBootstrap in
/-- Runs the program. -/
def main (given : List String) : IO UInt32 := do
  let arguments ← Main.arguments given.length
  let run := Program.run .system (← Main.surroundings) arguments
  let shown := Program.transcript .silent (← IO.getEnv "RUST_LOG") (← Main.stamp) run
  (← IO.getStdout).putStr shown.output
  (← IO.getStderr).putStr shown.diagnostics
  return shown.code.toUInt32
