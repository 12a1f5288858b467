import FaultTriage.Json.Printer
import FaultTriage.Timestamp
import FaultTriage.Triage.Report

/-!
# Crash stores

A crash store keeps one row for each recorded crash.  Words are kept as signed 64-bit integers, so
the upper half of the fault addresses is kept as negative numbers, and the tainted inputs as the
text of a JSON list.  Stores of an older layout lack the column for the hash mode or the whole
table.
-/

set_option autoImplicit false

namespace FaultTriage

/-- What a store keeps about one crash, the hash mode apart. -/
structure CrashFields where
  major : Int64
  minor : Int64
  architecture : String
  faultAddress : Int64
  instruction : String
  /-- The tainted operands of that instruction as the text of a JSON list. -/
  taintedInputs : String
  status : String
  recordedAt : String
deriving DecidableEq

structure StoredCrash extends CrashFields where
  id : Nat
deriving DecidableEq

inductive CrashTable where
  | missing
  | withoutModes (crashes : List StoredCrash)
  | withModes (crashes : List (StoredCrash × String))
deriving DecidableEq

structure CrashStore where
  version : Int
  table : CrashTable
deriving DecidableEq

inductive StoreError where
  /-- The table, or its column for the hash mode, is missing. -/
  | missingColumn
  | notStore
  | unreachable
  | malformedName
  | readOnly
  | invalidInputs
  | unsupportedVersion (found : Int)
deriving DecidableEq

namespace CrashStore

def oldestVersion : Int := 0

def currentVersion : Int := 2

def empty : CrashStore := ⟨oldestVersion, .missing⟩

/-- The number that is kept for a version: the version itself in 32 bits, or zero beyond them. -/
def storedVersion (version : Int) : Int :=
  if -0x80000000 ≤ version ∧ version < 0x80000000 then version else 0

end CrashStore

def StoreError.message : StoreError → String
  | .missingColumn | .notStore | .unreachable | .malformedName | .readOnly => "SQLite error"
  | .invalidInputs => "Stored JSON column is invalid"
  | .unsupportedVersion found =>
      "Unsupported schema version " ++ toString found ++ "; supported range is "
        ++ toString CrashStore.oldestVersion ++ "..=" ++ toString CrashStore.currentVersion

namespace CrashStore

def storedHalf (half : UInt32) : Int64 :=
  half.toUInt64.toInt64

def nextId (ids : List Nat) : Nat :=
  ids.foldl max 0 + 1

def numbered (crashes : List CrashFields) : List StoredCrash :=
  crashes.zipIdx.map fun (fields, index) => { fields with id := index + 1 }

def insert (store : CrashStore) (fields : CrashFields) (mode : String) :
    Except StoreError (CrashStore × Nat) :=
  match store.table with
  | .withModes crashes =>
      let id := nextId (crashes.map (·.1.id))
      let crash : StoredCrash := { fields with id := id }
      .ok ({ store with table := .withModes (crashes ++ [(crash, mode)]) }, id)
  | .missing | .withoutModes _ => .error .missingColumn

def fieldsOf (report : TriageReport) (recordedAt : Timestamp) : CrashFields :=
  let fault := report.faultingInstruction?
  { major := storedHalf report.stackHash.major
    minor := storedHalf report.stackHash.minor
    architecture := report.architecture.name
    faultAddress := report.faultAddress.toInt64
    instruction := (fault.map (·.text)).getD ""
    taintedInputs := (Json.strings ((fault.map (·.taintedInput.names)).getD [])).render
    status := report.status.name
    recordedAt := recordedAt.render }

def record (store : CrashStore) (report : TriageReport) (recordedAt : Timestamp) :
    Except StoreError (CrashStore × Nat) :=
  store.insert (fieldsOf report recordedAt) report.stackHash.mode.name

end CrashStore

end FaultTriage
