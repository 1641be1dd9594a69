import SeededServer.CommandLine.Rehearsal

/-!
# The command line

Reads the files that the arguments ask for, rehearses the run, and tells it.
-/
namespace SeededServer.CommandLine

/-- Reads a file into the tree, if it is there. -/
def readInto (tree : FileTree) (path : String) : IO FileTree := do
  try
    return Rehearsal.withFile tree path (← IO.FS.readBinFile path)
  catch
    | .noFileOrDirectory .. => return tree
    | .inappropriateType .. => return Rehearsal.withDirectory tree path
    | _ => return tree

def appendLines (path : String) (lines : List String) : IO Unit := do
  let handle ← IO.FS.Handle.mk path .append
  for line in lines do
    handle.putStrLn line

end SeededServer.CommandLine

open SeededServer SeededServer.CommandLine in
def main (words : List String) : IO UInt32 := do
  let start : FileTree := { workingDirectory := (← IO.currentDir).toString }
  let known ← (Rehearsal.configPaths words).foldlM readInto start
  let tree ← (Rehearsal.dataPaths known words).foldlM readInto known
  let preparation := prepare Arguments.ofList Yaml.parse tree words
  let report := preparation.run Rehearsal.world
  for line in report.events.filterMap Rehearsal.tell? do
    IO.println line
  if let some path := preparation.logFile then
    appendLines path.toString report.logLines
  if let some line := Rehearsal.ending report.ending then
    IO.println line
  return UInt32.ofNat (Rehearsal.status report.ending).toNat
