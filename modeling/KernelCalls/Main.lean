import KernelCalls.CommandLine

namespace KernelCalls

/-!
# The program

Reads the files that the arguments ask for, runs the command line over them, and prints what it
printed.

* `readDisk` : what is found on disk at a path
* `runOnDisk` : a whole run over the files on disk
-/

/-- What is found on disk at a path. -/
def readDisk (path : Path) : IO FileContent := do
  if path.refusal?.isSome then return .refused .missing
  let some name := path.text.toString? | return .refused .missing
  try
    let text ← IO.FS.readFile name
    return .text (String.ofList (uniformLines text.toList))
  catch
    | .noFileOrDirectory _ _ _ => return .refused .missing
    | .inappropriateType none _ _ => return .refused .directory
    | .inappropriateType (some _) _ _ => return .refused .notADirectory
    | e => throw e

/-- What is found at a path that may not be needed. -/
def readDisk? : Option Path → IO FileContent
  | some path => readDisk path
  | none => return .refused .missing

/-- The text of a line on a screen. -/
def screenText (line : Text) : String := String.ofList (line.map CodePoint.shown)

/-- Prints lines. -/
def printLines (lines : List Text) : IO Unit := lines.forM fun line => IO.println (screenText line)

/-- A whole run over the files on disk. The status is that of the command, 2 for wrong arguments,
and 1 for any other error. -/
def runOnDisk (args : List Text) : IO UInt32 := do
  let settingsPath := CommandLine.settingsPath? args
  let settingsFile ← readDisk? settingsPath
  let catalogFile ← readDisk? (CommandLine.catalogPath? args settingsFile)
  let files := fun path => if some path = settingsPath then settingsFile else catalogFile
  let outcome := CommandLine.run files args
  printLines outcome.printed
  match outcome.result with
  | .ok status => return status.toUInt32
  | .error (.arguments .help) =>
    CommandLine.usage.forM IO.println
    return 0
  | .error (.arguments .usage) =>
    CommandLine.usage.forM IO.eprintln
    return 2
  | .error e =>
    IO.eprintln (screenText e.message)
    return 1

end KernelCalls

/-- The program. -/
def main (args : List String) : IO UInt32 :=
  KernelCalls.runOnDisk (args.map KernelCalls.Text.ofString)
