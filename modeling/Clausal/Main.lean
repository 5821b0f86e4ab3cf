import Clausal.Changes
import Clausal.CommandLine.Run
import Clausal.Launch

/-!
# The program

The command line is run on the current folder and what is below it; nothing else is seen.
Solvers are scripts there.  Whether a file may be executed cannot be told from here, so every
file counts as executable.
-/

namespace Clausal.Main

/-- The names from the root to the current folder. -/
def readHere : IO (List Name) := do
  return ((← IO.currentDir).components.filter (· != "")).map Text.Octets.ofString

/-- Puts a file, or a folder with everything below it, into a file system. -/
partial def readEntry (names : List Name) (files : FileSystem) (entry : IO.FS.DirEntry) :
    IO FileSystem := do
  let names := names ++ [Text.Octets.ofString entry.fileName]
  if ← entry.path.isDir then
    let entries ← entry.path.readDir
    entries.foldlM (readEntry names) (files.placeFolder names)
  else
    let contents ← IO.FS.readBinFile entry.path
    return files.placeFile names (.ofBytes contents.data 0o755)

def readCurrent : IO FileSystem := do
  let here ← readHere
  let entries ← (← IO.currentDir).readDir
  entries.foldlM (readEntry here) (Launch.install (.empty (Machine.dated 0) here))

def fileName (names : List Name) : String :=
  String.intercalate "/" (names.map Text.Octets.toText)

/-- Makes the changes between two states of the current folder. -/
def writeChanges (old new : FileSystem) : IO Unit := do
  let old := old.filesHere
  let new := new.filesHere
  for names in PlacedFile.removed old new do
    IO.FS.removeFile (fileName names)
  for file in PlacedFile.written old new do
    if 1 < file.names.length then
      IO.FS.createDirAll (fileName file.names.dropLast)
    IO.FS.writeBinFile (fileName file.names) ⟨file.contents⟩

end Clausal.Main

open Clausal in
def main (arguments : List String) : IO UInt32 := do
  let files ← Main.readCurrent
  let report := CommandLine.run Launch.host (.ofFiles files) arguments
  Main.writeChanges files report.machine.files
  IO.print report.output
  IO.eprint (Text.decodeLossy report.errors)
  return ((report.ending.code?.map UInt8.toUInt32).getD 1)
