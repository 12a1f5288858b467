import FaultTriage.Command.Error

/-!
# Input of commands

Commands read listings, frames and configurations from files.
-/

set_option autoImplicit false

namespace FaultTriage

inductive StoredFile where
  | bytes (content : List UInt8)
  | crashes (store : CrashStore)
  /-- Nothing ever: a device that takes what is written to it and forgets it. -/
  | discarded

abbrev Directory := Workspace StoredFile

namespace Directory

/-- Stands for the bytes of a store, of which readers only see that they are no text. -/
def storeBytes : List UInt8 := [0xFF]

def readBytes (directory : Directory) (path : FilePath) : Except FileError (List UInt8) :=
  (directory.read (Text.bytes path)).map fun
    | .bytes content => content
    | .crashes _ => storeBytes
    | .discarded => []

def readText (directory : Directory) (path : FilePath) : Except FileError (List Char) := do
  match Text.decodeAll? (← directory.readBytes path) with
  | some characters => .ok characters
  | none => .error .notText

def loadConfig (directory : Directory) : Option FilePath → Except CommandError AnalysisConfig
  | none => .ok .standard
  | some path => (Config.load path (directory.readBytes path)).mapError (.config path)

def loadListing (directory : Directory) (path : FilePath) : Except CommandError Listing := do
  let text ← (directory.readText path).mapError (.unreadableListing path)
  let listing ← (Listing.parse (String.ofList text)).mapError (.invalidListing path)
  if listing.isEmpty then .error (.emptyListing path) else .ok listing

def isComment (line : List Char) : Bool :=
  line.isEmpty || line.head? == some '#'

/-- Reads the frames of lines, the first of which has the given number. -/
def framesFrom (path : FilePath) (number : Nat) :
    List (List Char) → Except CommandError (List Frame)
  | [] => .ok []
  | raw :: rest =>
      let line := Text.trim raw
      if isComment line then
        framesFrom path (number + 1) rest
      else
        match Frame.parse (String.ofList line) with
        | .error error => .error (.invalidFrame path number error)
        | .ok frame => (framesFrom path (number + 1) rest).map (frame :: ·)

def loadFrames (directory : Directory) (path : FilePath) : Except CommandError (List Frame) := do
  let text ← (directory.readText path).mapError (.unreadableFrames path)
  framesFrom path 1 (Text.lines text)

def startAddress (path : FilePath) (listing : Listing) :
    Option String → Except CommandError Address
  | some text => (Address.parseArgument text).mapError .address
  | none => listing.firstAddress?.elim (.error (.emptyListing path)) .ok

end Directory

end FaultTriage
