import DmgCore.Dump.CommandLine

/-!
The dump tool as a program: the command line on the files of the disk. Of the log
it shows errors.
-/

/-- Files of the disk. -/
instance : DmgCore.FileAccess IO where
  read path := do
    try return .ok (← IO.FS.readBinFile path).toList
    catch reason => return .error (toString reason)
  write path bytes := do
    try
      IO.FS.writeBinFile path ⟨bytes.toArray⟩
      return .ok ()
    catch reason => return .error (toString reason)

/-- Runs the dump tool and ends with its exit code. -/
def main (args : List String) : IO UInt32 := do
  let outcome ← DmgCore.CommandLine.run (.errorsOnly DmgCore.LogRecord.text) args
  for line in outcome.out do
    IO.println line
  for line in outcome.err do
    IO.eprintln line
  return outcome.code
