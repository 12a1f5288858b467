import FaultTriage.Text.Blank
import FaultTriage.Text.Bytes

/-!
# Paths

A path leads from a directory to a file, step by step.  Names of files are bytes, and it is their
bytes that the limits on names and paths count; the extension, which tells the format of a file, is
read off the text.
-/

set_option autoImplicit false

namespace FaultTriage

abbrev FileName := List UInt8

def FileName.maxLength : Nat := 255

abbrev Location := List FileName

/-- The number of bytes of a location when it is written with a slash before each name. -/
def Location.writtenLength : Location → Nat
  | [] => 0
  | name :: rest => name.length + 1 + Location.writtenLength rest

inductive PathStep where
  | stay
  /-- Goes to the directory above; above the top there is the top. -/
  | up
  | enter (name : FileName)
deriving DecidableEq

namespace PathStep

def ofPart (part : List UInt8) : PathStep :=
  if part = [] || part = Text.bytes "." then .stay
  else if part = Text.bytes ".." then .up
  else .enter part

def apply (location : Location) : PathStep → Location
  | .stay => location
  | .up => location.dropLast
  | .enter name => location ++ [name]

end PathStep

abbrev PathBytes := List UInt8

namespace PathBytes

def maxLength : Nat := 4095

def slash : UInt8 := 0x2F

def steps (path : PathBytes) : List PathStep :=
  (Text.splitAt slash path).map PathStep.ofPart

/-- Where a path starts: at the top if it begins with a slash, else in the current directory. -/
def start (path : PathBytes) (current : Location) : Location :=
  if path.head? = some slash then [] else current

/-- Where the steps of a path lead to, whatever is there. -/
def locate (path : PathBytes) (current : Location) : Location :=
  path.steps.foldl PathStep.apply (path.start current)

/-- The places that steps lead through, the first and the last one included. -/
def placesFrom (location : Location) : List PathStep → List Location
  | [] => [location]
  | step :: rest => location :: placesFrom (step.apply location) rest

def places (path : PathBytes) (current : Location) : List Location :=
  placesFrom (path.start current) path.steps

end PathBytes

abbrev FilePath := String

namespace FilePath

/-- The last part of a path that names something, unless that is the directory above. -/
def fileName? (path : FilePath) : Option (List Char) :=
  let parts := Text.splitAt '/' path.toList
  match (parts.filter fun part => part != [] && part != ['.']).getLast? with
  | some ['.', '.'] => none
  | found => found

/--
The extension of a path: what follows the last point of its file name.  A point that starts the name
does not count.
-/
def extension? (path : FilePath) : Option String := do
  let (stem, extension) ← Text.splitLast? '.' (← path.fileName?)
  if stem.isEmpty then none else some (String.ofList extension)

end FilePath

end FaultTriage
