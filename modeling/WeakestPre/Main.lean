import WeakestPre.CommandLine.Run
import WeakestPre.Standard

/-!
# The program

Looks up the files that the arguments lead to, runs the command line on them, and writes what the
run comes to.
-/

namespace WeakestPre.CommandLine

/-- What stands at a place of the file system. -/
def lookUp (place : Path) : IO (Option Entry) := do
  let file := (← IO.currentDir) / place.text
  if ← file.isDir then return some .directory
  if !(← file.pathExists) then return none
  try
    let bytes ← IO.FS.readBinFile file
    return some (.file bytes.toList)
  catch
    | .permissionDenied _ number reason => return some (.locked number.toNat reason)
    | e => return some (.locked 5 (toString e))

/-- The part of the file system that a run may look at. -/
def lookUpAll (args : List String) : IO FileTree := do
  let working := Path.absolute [] (← IO.currentDir).toString
  let entries ← (places working args).filterMapM fun place => do
    return (← lookUp place).map (place, ·)
  return { working, entries }

/-- Runs a command line in the working directory and comes to its exit code. -/
def runHere (args : List String) : IO UInt32 := do
  match run .standard (← lookUpAll args) args with
  | .ok completion =>
    IO.print completion.output
    IO.eprint completion.log
    return completion.exitCode.toUInt32
  | .error fault =>
    IO.eprintln fault.message
    return 1

end WeakestPre.CommandLine

def main (args : List String) : IO UInt32 := WeakestPre.CommandLine.runHere args
