import FaultTriage.Command.Display
import FaultTriage.Command.Document
import FaultTriage.Command.Store

/-!
# Commands

The five commands: classify lines, propagate taint through a block, hash a stack, triage a crash,
and show what a store holds.  A command reads the files of a directory and gives a text; only a
triage that is recorded, and the opening of a store, change a file.
-/

set_option autoImplicit false

namespace FaultTriage

inductive Command where
  | classify (architecture : String) (flags : Option String) (bare : Bool) (lines : List String)
  | taint (listing : FilePath) (config : Option FilePath) (start : Option String)
  | stackHash (frames : FilePath) (mode : Option String) (config : Option FilePath)
  | triage (listing frames : FilePath) (config : Option FilePath) (start : Option String)
      (store : Option FilePath)
  | buckets (store : FilePath) (bucket : Option String)
deriving DecidableEq

/-- The paths of the files that the name of a store leads to, itself taken as a path included. -/
def storePaths (name : FilePath) : List PathBytes :=
  Text.bytes name :: ((StoreLocator.parse? name).map StoreLocator.paths).getD []

def Command.paths : Command → List PathBytes
  | .classify _ _ _ _ => []
  | .taint listing config _ => (listing :: config.toList).map Text.bytes
  | .stackHash frames _ config => (frames :: config.toList).map Text.bytes
  | .triage listing frames config _ store =>
      (listing :: frames :: config.toList).map Text.bytes ++ store.toList.flatMap storePaths
  | .buckets store _ => storePaths store

inductive OutputForm where
  | lines
  | json
deriving DecidableEq

namespace Command

structure Output where
  document : Json
  lines : List String

def Output.render (output : Output) : OutputForm → String
  | .json => output.document.renderIndented ++ "\n"
  | .lines => String.join (output.lines.map (· ++ "\n"))

/-! ## Classifying lines -/

/-- The instruction of a line that is only a mnemonic and, after a space, its arguments. -/
def bareInstruction (architecture : Architecture) (flags : ProcessorFlags) (line : String) :
    Instruction :=
  let trimmed := Text.trim line.toList
  let (mnemonic, arguments) := (Text.splitFirst? ' ' trimmed).getD (trimmed, [])
  .bare architecture flags.valid flags mnemonic (Text.trim arguments)

def lineInstruction (architecture : Architecture) (flags : ProcessorFlags) (bare : Bool)
    (line : String) : Except CommandError Instruction :=
  if bare then .ok (bareInstruction architecture flags line)
  else (disassemble architecture line none flags.valid flags).mapError (.line line)

def runClassify (architecture : String) (flags : Option String) (bare : Bool)
    (lines : List String) : Except CommandError Output := do
  let architecture ← (Architecture.parse architecture).mapError .architecture
  let flags ←
    match flags with
    | none => .ok .unknown
    | some text => (ProcessorFlags.parse text).mapError .flag
  let reports ← lines.mapM fun line =>
    (lineInstruction architecture flags bare line).map Instruction.report
  .ok ⟨blockToJson reports, reports.flatMap InstructionReport.displayLines⟩

/-! ## Analysing a block -/

def runTaint (directory : Directory) (listingPath : FilePath) (config : Option FilePath)
    (start : Option String) : Except CommandError Output := do
  let config ← directory.loadConfig config
  let listing ← directory.loadListing listingPath
  let start ← Directory.startAddress listingPath listing start
  let host := listing.toHost config.architecture config.flags
  let block ← (Block.build host config.maxBlockInstructions.toNat start).mapError (.block start)
  let result := Taint.propagate config.architecture config.taintDestinationPointers block
  .ok ⟨result.toJson, result.displayLines⟩

def runStackHash (directory : Directory) (frames : FilePath) (mode : Option String)
    (config : Option FilePath) : Except CommandError Output := do
  let config ← directory.loadConfig config
  let mode ←
    match mode with
    | none => .ok config.hashMode
    | some text => (HashMode.parse text).mapError .hashMode
  let frames ← directory.loadFrames frames
  let hash := { config with hashMode := mode }.hashFrames frames
  .ok ⟨hash.toJson, hash.displayLines⟩

/-! ## Triage -/

structure Crash where
  host : Host
  fault : Address
  frames : List Frame
  config : AnalysisConfig

def loadCrash (directory : Directory) (listingPath framesPath : FilePath)
    (config : Option FilePath) (start : Option String) : Except CommandError Crash := do
  let config ← directory.loadConfig config
  let listing ← directory.loadListing listingPath
  let frames ← directory.loadFrames framesPath
  let fault ← Directory.startAddress listingPath listing start
  .ok ⟨listing.toHost config.architecture config.flags, fault, frames, config⟩

def Crash.report (crash : Crash) : Except CommandError TriageReport :=
  (TriageReport.ofCrash crash.host crash.fault crash.frames crash.config).mapError
    (.triage crash.fault)

def Crash.recordIn (crash : Crash) (session : StoreSession) (now : Timestamp) :
    Except CommandError (TriageReport × StoreSession × Nat) := do
  let report ← crash.report
  let (session, id) ← (session.record report now).mapError (.recording crash.fault)
  .ok (report, session, id)

def triageOutput (report : TriageReport) (id : Option Nat) : Output :=
  ⟨report.toJson,
    report.displayLines ++ (id.map fun id => "Recorded crash #" ++ toString id).toList⟩

/--
Triages a crash.  A store is opened, and so made or brought up to date, before the crash is looked
at; it stays so when there is no report.
-/
def runTriage (directory : Directory) (now : Timestamp) (listing frames : FilePath)
    (config : Option FilePath) (start : Option String) (store : Option FilePath) :
    Directory × Except CommandError Output :=
  match loadCrash directory listing frames config start with
  | .error error => (directory, .error error)
  | .ok crash =>
      match store with
      | none => (directory, crash.report.map fun report => triageOutput report none)
      | some path =>
          match directory.openStore path with
          | (left, .error error) => (left, .error error)
          | (left, .ok session) =>
              match crash.recordIn session now with
              | .error error => (left.saveStore session, .error error)
              | .ok (report, changed, id) =>
                  (left.saveStore changed, .ok (triageOutput report (some id)))

/-! ## Buckets -/

def bucketOutput (store : CrashStore) (label : String) : Except CommandError Output := do
  let pair ← (HashPair.parse label).mapError .bucket
  let crashes ← (store.crashesIn pair).mapError .query
  let lines :=
    if crashes.isEmpty then ["No crashes in bucket " ++ label ++ "."]
    else crashes.map CrashRecord.display
  .ok ⟨.array (crashes.map CrashRecord.toJson), lines⟩

def summaryOutput (store : CrashStore) : Except CommandError Output := do
  let summaries ← store.buckets.mapError .listing
  let lines :=
    if summaries.isEmpty then ["No crashes recorded."] else summaries.map BucketSummary.display
  .ok ⟨.array (summaries.map BucketSummary.toJson), lines⟩

/-- Shows what a store holds; there has to be a file with its whole name as a path. -/
def runBuckets (directory : Directory) (name : FilePath) (bucket : Option String) :
    Directory × Except CommandError Output :=
  if !directory.pathExists (Text.bytes name) then
    (directory, .error (.storeNotFound name))
  else
    match directory.openStore name with
    | (left, .error error) => (left, .error error)
    | (left, .ok session) =>
        (left.saveStore session,
          bucket.elim (summaryOutput session.store) (bucketOutput session.store))

/-! ## Running -/

def run (directory : Directory) (now : Timestamp) (form : OutputForm) (command : Command) :
    Directory × Except CommandError String :=
  let (changed, output) : Directory × Except CommandError Output :=
    match command with
    | .classify architecture flags bare lines =>
        (directory, runClassify architecture flags bare lines)
    | .taint listing config start => (directory, runTaint directory listing config start)
    | .stackHash frames mode config => (directory, runStackHash directory frames mode config)
    | .triage listing frames config start store =>
        runTriage directory now listing frames config start store
    | .buckets store bucket => runBuckets directory store bucket
  (changed, output.map (·.render form))

end Command

end FaultTriage
