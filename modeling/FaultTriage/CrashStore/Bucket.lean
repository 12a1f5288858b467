import FaultTriage.CrashStore
import FaultTriage.Json.Reader

/-!
# Buckets of a crash store

Crashes with the same halves and the same hash mode share a bucket.  The buckets are listed with the
largest first, then by their halves as they are kept, then by mode.  The crashes of a pair of halves
are listed in the order of their recording, whatever their mode.
-/

set_option autoImplicit false

namespace FaultTriage

structure BucketSummary where
  pair : HashPair
  hashMode : String
  count : Nat
  /-- The least time of recording, as texts. -/
  firstSeen : String
  /-- The greatest time of recording, as texts. -/
  lastSeen : String
deriving DecidableEq

structure CrashRecord where
  id : Nat
  pair : HashPair
  hashMode : String
  architecture : String
  faultAddress : Address
  instruction : String
  taintedInputs : List String
  status : String
  recordedAt : String
deriving DecidableEq

def BucketSummary.bucket (summary : BucketSummary) : String :=
  summary.pair.label

def CrashRecord.bucket (crash : CrashRecord) : String :=
  crash.pair.label

namespace CrashStore

/-- A half as it is read back: the low 32 bits of what is kept. -/
def readHalf (stored : Int64) : UInt32 :=
  stored.toUInt64.toUInt32

theorem readHalf_storedHalf (half : UInt32) : readHalf (storedHalf half) = half := by
  simp [readHalf, storedHalf]

theorem storedHalf_inj {left right : UInt32} :
    storedHalf left = storedHalf right ↔ left = right := by
  constructor
  · intro same
    have readBack := congrArg readHalf same
    rwa [readHalf_storedHalf, readHalf_storedHalf] at readBack
  · intro same
    rw [same]

def rows (store : CrashStore) : Except StoreError (List (StoredCrash × String)) :=
  match store.table with
  | .withModes crashes => .ok crashes
  | .missing | .withoutModes _ => .error .missingColumn

structure BucketKey where
  major : Int64
  minor : Int64
  hashMode : String
deriving DecidableEq

def keyOf (row : StoredCrash × String) : BucketKey :=
  ⟨row.1.major, row.1.minor, row.2⟩

structure BucketRows where
  key : BucketKey
  rows : List (StoredCrash × String)

/-- The rows grouped by bucket, in the order of the first row of each. -/
def grouped (rows : List (StoredCrash × String)) : List BucketRows :=
  (rows.map keyOf).eraseDups.map fun key => ⟨key, rows.filter (keyOf · == key)⟩

def BucketRows.mayPrecede (left right : BucketRows) : Bool :=
  if left.rows.length ≠ right.rows.length then right.rows.length < left.rows.length
  else if left.key.major ≠ right.key.major then left.key.major < right.key.major
  else if left.key.minor ≠ right.key.minor then left.key.minor < right.key.minor
  else left.key.hashMode ≤ right.key.hashMode

def lesser (left right : String) : String :=
  if left ≤ right then left else right

def greater (left right : String) : String :=
  if left ≤ right then right else left

/-- The text that a choice among two leaves of several ones; the empty text if there is none. -/
def select (choice : String → String → String) : List String → String
  | [] => ""
  | first :: rest => rest.foldl choice first

def BucketRows.summary (bucket : BucketRows) : BucketSummary :=
  let times := bucket.rows.map (·.1.recordedAt)
  { pair := ⟨readHalf bucket.key.major, readHalf bucket.key.minor⟩
    hashMode := bucket.key.hashMode
    count := bucket.rows.length
    firstSeen := select lesser times
    lastSeen := select greater times }

def buckets (store : CrashStore) : Except StoreError (List BucketSummary) :=
  store.rows.map fun rows =>
    ((grouped rows).mergeSort BucketRows.mayPrecede).map BucketRows.summary

def inputsOf? (text : String) : Option (List String) :=
  match Json.parse? text with
  | some (.array items) =>
      items.mapM fun
        | .string name => some name
        | _ => none
  | _ => none

def recordOf (row : StoredCrash × String) : Except StoreError CrashRecord :=
  match inputsOf? row.1.taintedInputs with
  | none => .error .invalidInputs
  | some inputs =>
      .ok
        { id := row.1.id
          pair := ⟨readHalf row.1.major, readHalf row.1.minor⟩
          hashMode := row.2
          architecture := row.1.architecture
          faultAddress := row.1.faultAddress.toUInt64
          instruction := row.1.instruction
          taintedInputs := inputs
          status := row.1.status
          recordedAt := row.1.recordedAt }

def hasPair (pair : HashPair) (row : StoredCrash × String) : Bool :=
  row.1.major == storedHalf pair.major && row.1.minor == storedHalf pair.minor

def crashesIn (store : CrashStore) (pair : HashPair) : Except StoreError (List CrashRecord) := do
  (← store.rows).filter (hasPair pair) |>.mapM recordOf

end CrashStore

end FaultTriage
