import FaultTriage.CommandLine
import FaultTriage.CrashStore.File
import Std.Time.DateTime.Timestamp

/-!
# The program

Loads the files that a command line is about, runs it, and writes back the files that it leaves.
Everything else is decided by the library.
-/

set_option autoImplicit false

namespace FaultTriage.Program

def readClock : IO Timestamp := do
  let moment := (← Std.Time.Timestamp.now).val
  return ⟨moment.second.val, moment.nano.val.toNat⟩

def absolutePath? (location : Location) : Option String :=
  (location.mapM fun name => (Text.decodeAll? name).map String.ofList).map fun names =>
    "/" ++ String.intercalate "/" names

def isDirectory (location : Location) : IO Bool := do
  let some path := absolutePath? location | return false
  try
    (← IO.FS.realPath path).isDir
  catch _ =>
    return false

def storedFile (content : List UInt8) : StoredFile :=
  (CrashStore.ofFileBytes? content).elim (.bytes content) .crashes

def loadFile (location : Location) : IO (Option (Location × StoredFile)) := do
  let some path := absolutePath? location | return none
  try
    let metadata ← (← IO.FS.realPath path).metadata
    match metadata.type with
    | .file => return some (location, storedFile (← IO.FS.readBinFile path).toList)
    | .other => return some (location, .discarded)
    | _ => return none
  catch _ =>
    return none

def loadDirectory (paths : List PathBytes) : IO Directory := do
  let current := PathBytes.locate (Text.bytes (← IO.currentDir).toString) []
  let places := (paths.flatMap (PathBytes.places · current)).eraseDups
  return {
    files := ← places.filterMapM loadFile
    directories := ← places.filterM isDirectory
    current := current }

/-- The content of a file, unless there is none to write: a store changes, other files are made. -/
def contentToWrite? (before : Directory) (location : Location) : StoredFile → Option ByteArray
  | .crashes store => some store.fileText.toUTF8
  | .bytes content => if (before.fileAt? location).isNone then some ⟨content.toArray⟩ else none
  | .discarded => none

def saveFiles (before after : Directory) : IO Unit :=
  after.files.forM fun (location, file) => do
    let some path := absolutePath? location | return
    (contentToWrite? before location file).forM (IO.FS.writeBinFile path)

end FaultTriage.Program

open FaultTriage in
def main (arguments : List String) : IO UInt32 := do
  let directory ← Program.loadDirectory (CommandLine.paths arguments)
  let (changed, outcome) := CommandLine.run directory (← Program.readClock) arguments
  Program.saveFiles directory changed
  IO.print outcome.output
  outcome.report.forM IO.eprint
  return outcome.code.toUInt32
