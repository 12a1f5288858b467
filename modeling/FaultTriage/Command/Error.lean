import FaultTriage.Command.Argument
import FaultTriage.Config.File
import FaultTriage.CrashStore
import FaultTriage.Triage.Listing

/-!
# Failures of commands

A failure has a cause, and it is told as a chain of messages: what the command was about first, then
what went wrong, then what lies behind that.
-/

set_option autoImplicit false

namespace FaultTriage

inductive CommandError where
  | architecture (unknown : Architecture.Unknown)
  | flag (unknown : UnknownFlag)
  | hashMode (unknown : UnknownHashMode)
  | address (invalid : Address.Invalid)
  | bucket (error : BucketError)
  | line (text : String) (error : DisassemblyError)
  | config (path : FilePath) (error : ConfigError)
  | unreadableListing (path : FilePath) (error : FileError)
  | invalidListing (path : FilePath) (error : HostError)
  | emptyListing (path : FilePath)
  | unreadableFrames (path : FilePath) (error : FileError)
  /-- The line with this number, counted from one, is no frame. -/
  | invalidFrame (path : FilePath) (number : Nat) (error : InvalidFrame)
  | block (start : Address) (error : BlockError)
  | triage (fault : Address) (error : BlockError)
  | recording (fault : Address) (error : StoreError)
  | storeNotFound (path : FilePath)
  | opening (path : FilePath) (error : StoreError)
  | query (error : StoreError)
  | listing (error : StoreError)

def ConfigError.chain (error : ConfigError) : List String :=
  match error with
  | .unreadable _ cause => [error.message, cause.message]
  | _ => [error.message]

def BlockError.chain (error : BlockError) : List String :=
  match error with
  | .host _ => [error.message]
  | .disassembly _ cause => [error.message, cause.message]

/-- The messages of a failure, the outermost first. -/
def CommandError.chain : CommandError → List String
  | .architecture unknown => [unknown.message]
  | .flag unknown => [unknown.message]
  | .hashMode unknown => [unknown.message]
  | .address invalid => [invalid.message]
  | .bucket error => [error.message]
  | .line text error => ["Failed to classify '" ++ text ++ "'", error.message]
  | .config path error => ("Failed to load analysis config from " ++ path) :: error.chain
  | .unreadableListing path error =>
      ["Failed to load listing " ++ path,
        "Failed to read listing " ++ path ++ ": " ++ error.message, error.message]
  | .invalidListing path error => ["Failed to load listing " ++ path, error.message]
  | .emptyListing path => ["Listing " ++ path ++ " contains no instructions"]
  | .unreadableFrames path error => ["Failed to read frames file " ++ path, error.message]
  | .invalidFrame path number error => [path ++ ":" ++ toString number, error.message]
  | .block start error => ("Failed to build basic block at " ++ start.render) :: error.chain
  | .triage fault error => ("Failed to triage crash at " ++ fault.render) :: error.chain
  | .recording fault error => ["Failed to triage crash at " ++ fault.render, error.message]
  | .storeNotFound path => ["Crash database not found at " ++ path]
  | .opening path error => ["Failed to open crash database at " ++ path, error.message]
  | .query error => ["Failed to query crash database", error.message]
  | .listing error => ["Failed to list crash buckets", error.message]

/-! ## The report of a failure -/

def indentLines (margin : Nat) (message : String) : List Char :=
  message.toList.flatMap fun character =>
    if character = '\n' then '\n' :: List.replicate margin ' ' else [character]

def causeLines (causes : List String) : List Char :=
  match causes with
  | [] => []
  | [cause] => "    ".toList ++ indentLines 4 cause ++ ['\n']
  | _ =>
      causes.zipIdx.flatMap fun (cause, position) =>
        "    ".toList ++ Nat.toDigits 10 position ++ ": ".toList ++ indentLines 7 cause ++ ['\n']

def reportOfChain : List String → String
  | [] => ""
  | outermost :: causes =>
      let head := "Error: ".toList ++ outermost.toList ++ ['\n']
      if causes.isEmpty then String.ofList head
      else String.ofList (head ++ "\nCaused by:\n".toList ++ causeLines causes)

def CommandError.report (error : CommandError) : String :=
  reportOfChain error.chain

end FaultTriage
