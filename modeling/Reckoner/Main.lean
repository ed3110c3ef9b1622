import Reckoner.Shell.Arguments

/-! The program. It reads its arguments and, if they ask for it, its input stream, and leaves the
rest to `CommandLine.perform`. -/
namespace Reckoner

/-- Everything the input stream holds. -/
partial def readInput (input : IO.FS.Stream) (held : ByteArray) : IO ByteArray := do
  let chunk ← input.read 65536
  if chunk.isEmpty then return held else readInput input (held ++ chunk)

def print (report : CommandLine.Report) : IO UInt32 := do
  (← IO.getStdout).putStr report.stdout
  (← IO.getStderr).putStr report.stderr
  match report.ending with
  | .exited code => return code.toUInt32
  | .crashed cause =>
    (← IO.getStderr).putStr (cause.message ++ "\n")
    return 101

end Reckoner

open Reckoner in
def main (arguments : List String) : IO UInt32 := do
  match Shell.read Text.Pattern.captures arguments with
  | .error reply => print reply.report
  | .ok request =>
    let held ← if request.readsInput then readInput (← IO.getStdin) .empty else pure .empty
    print (CommandLine.perform request (Stream.ofBytes held.toList))
