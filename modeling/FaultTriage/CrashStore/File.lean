import FaultTriage.CrashStore
import FaultTriage.Json.Reader

/-!
# Crash stores in files

A store is kept in a file as one JSON object.  A file with any other content is no store.
-/

set_option autoImplicit false

namespace FaultTriage

def Json.field? (name : String) : Json → Option Json
  | .object fields => (fields.find? (·.1 == some name)).map (·.2)
  | _ => none

def Json.integerField? (json : Json) (name : String) : Option Int :=
  match json.field? name with
  | some (.integer value) => some value
  | _ => none

def Json.stringField? (json : Json) (name : String) : Option String :=
  match json.field? name with
  | some (.string value) => some value
  | _ => none

namespace CrashStore

def rowToJson (crash : StoredCrash) (mode : Option String) : Json :=
  .record ([
    ("id", .count crash.id),
    ("major", .integer crash.major.toInt),
    ("minor", .integer crash.minor.toInt),
    ("architecture", .string crash.architecture),
    ("fault_address", .integer crash.faultAddress.toInt),
    ("instruction", .string crash.instruction),
    ("tainted_inputs", .string crash.taintedInputs),
    ("status", .string crash.status),
    ("recorded_at", .string crash.recordedAt)]
    ++ (mode.map fun mode => ("hash_mode", Json.string mode)).toList)

def tableFields : CrashTable → List (String × Json)
  | .missing => []
  | .withoutModes crashes => [("crashes", .array (crashes.map (rowToJson · none)))]
  | .withModes crashes =>
      [("crashes_with_modes", .array (crashes.map fun row => rowToJson row.1 (some row.2)))]

def toJson (store : CrashStore) : Json :=
  .record (("version", .integer store.version) :: tableFields store.table)

def rowOfJson? (json : Json) : Option StoredCrash := do
  some
    { id := (← json.integerField? "id").toNat
      major := Int64.ofInt (← json.integerField? "major")
      minor := Int64.ofInt (← json.integerField? "minor")
      architecture := ← json.stringField? "architecture"
      faultAddress := Int64.ofInt (← json.integerField? "fault_address")
      instruction := ← json.stringField? "instruction"
      taintedInputs := ← json.stringField? "tainted_inputs"
      status := ← json.stringField? "status"
      recordedAt := ← json.stringField? "recorded_at" }

def rowWithModeOfJson? (json : Json) : Option (StoredCrash × String) := do
  some (← rowOfJson? json, ← json.stringField? "hash_mode")

def tableOfJson? (json : Json) : Option CrashTable :=
  match json.field? "crashes", json.field? "crashes_with_modes" with
  | none, none => some .missing
  | some (.array rows), none => (rows.mapM rowOfJson?).map .withoutModes
  | none, some (.array rows) => (rows.mapM rowWithModeOfJson?).map .withModes
  | _, _ => none

def ofJson? (json : Json) : Option CrashStore := do
  some ⟨← json.integerField? "version", ← tableOfJson? json⟩

def fileText (store : CrashStore) : String :=
  store.toJson.render ++ "\n"

def ofFileBytes? (content : List UInt8) : Option CrashStore :=
  (Json.read? (Text.decode content)).bind ofJson?

end CrashStore

end FaultTriage
