import FaultTriage.CrashStore

/-!
# Layouts of crash stores

Version 1 brought the table and version 2 its column for the hash mode.  A store is brought up to
date in steps that are each done entirely or not at all, and the store alone tells which step is
next; so an update that was cut off goes on where it stopped.
-/

set_option autoImplicit false

namespace FaultTriage.CrashStore

inductive MigrationStep where
  | createTable
  | addModes
  | markCurrent
deriving DecidableEq

/-- The hash mode of crashes that were recorded before there were several. -/
def formerMode : String := HashMode.sha256.name

def nextStep? (store : CrashStore) : Option MigrationStep :=
  if store.version = 0 then
    some .createTable
  else if store.version < currentVersion then
    match store.table with
    | .withModes _ => some .markCurrent
    | .missing | .withoutModes _ => some .addModes
  else
    none

def applyStep (store : CrashStore) : MigrationStep → Except StoreError CrashStore
  | .createTable =>
      match store.table with
      | .missing => .ok ⟨1, .withoutModes []⟩
      | table => .ok ⟨1, table⟩
  | .addModes =>
      match store.table with
      | .missing => .error .missingColumn
      | .withoutModes crashes =>
          .ok { store with table := .withModes (crashes.map (·, formerMode)) }
      | .withModes crashes => .ok { store with table := .withModes crashes }
  | .markCurrent => .ok { store with version := currentVersion }

def advance : Nat → CrashStore → Except StoreError CrashStore
  | 0, store => .ok store
  | steps + 1, store =>
      match store.nextStep? with
      | none => .ok store
      | some step => (store.applyStep step).bind (advance steps)

def stepBound : Nat := 3

def migrate (store : CrashStore) : Except StoreError CrashStore :=
  advance stepBound store

/-- Opens a store: one of a later version is refused, and any other is brought up to date. -/
def opened (store : CrashStore) : Except StoreError CrashStore :=
  if currentVersion < store.version then .error (.unsupportedVersion store.version)
  else store.migrate

end FaultTriage.CrashStore
