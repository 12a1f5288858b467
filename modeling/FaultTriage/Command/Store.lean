import FaultTriage.Command.Input
import FaultTriage.CrashStore.Locator
import FaultTriage.CrashStore.Migration

/-!
# Stores of commands

A store is found by its name, opened, and kept in its file when a command is done with it.  The path
of a store is first brought into a form without steps up, so such a step takes back the name before
it even if there is no such directory.
-/

set_option autoImplicit false

namespace FaultTriage

inductive StorePlace where
  | transient
  | file (location : Location)

structure StoreSession where
  store : CrashStore
  place : StorePlace
  writable : Bool

namespace StoreSession

/-- Opens the store; one that cannot be written has to be up to date already. -/
def opened (session : StoreSession) : Except StoreError StoreSession := do
  let store ← session.store.opened
  if session.writable || session.store.nextStep?.isNone then
    .ok { session with store := store }
  else
    .error .readOnly

def record (session : StoreSession) (report : TriageReport) (recordedAt : Timestamp) :
    Except StoreError (StoreSession × Nat) := do
  if session.writable then
    let (store, id) ← session.store.record report recordedAt
    .ok ({ session with store := store }, id)
  else
    .error .readOnly

end StoreSession

namespace Directory

/--
Whether it can be told what stands at a location: it is something, or it is missing.  Below a file
and under too long a name there is neither.
-/
def isConclusive (directory : Directory) (location : Location) : Bool :=
  match directory.targetAt location with
  | .ok _ => true
  | .error error => error == .notFound

def settle? (directory : Directory) (location : Location) : List PathStep → Option Location
  | [] => some location
  | step :: rest =>
      let next := step.apply location
      if next.writtenLength < StoreMedium.disk.maxPathLength && directory.isConclusive next then
        directory.settle? next rest
      else
        none

def leavesRoom (medium : StoreMedium) (length : Nat) : Bool :=
  length + StoreLocator.journalSuffixLength ≤ medium.maxPathLength

def storeLocation? (directory : Directory) (path : PathBytes) : Option Location :=
  (directory.settle? (path.start directory.current) path.steps).filter fun location =>
    location != [] && leavesRoom .disk location.writtenLength

def allowsJournal (location : Location) : Bool :=
  (location.getLast?.getD []).length + StoreLocator.journalSuffixLength ≤ FileName.maxLength

/-- The store in a file; a file of one byte, like an empty one, is a new store. -/
def storeOf : StoredFile → Except StoreError CrashStore
  | .crashes store => .ok store
  | .bytes content => if content.length ≤ 1 then .ok .empty else .error .notStore
  | .discarded => .error .notStore

/-- Finds a store on the disk.  The file of a store that may be made is there afterwards. -/
def findFile (directory : Directory) (locator : StoreLocator) :
    Except StoreError (Directory × StoreSession) := do
  let some location := directory.storeLocation? locator.path | .error .unreachable
  let writable := locator.access != .readOnly && !locator.immutable && allowsJournal location
  if locator.permissionsOf.all directory.pathExists then
    match directory.targetAt location with
    | .ok (.file _ content) =>
        let store ← storeOf content
        .ok (directory, ⟨store, .file location, writable⟩)
    | .ok (.vacant _) =>
        if locator.access = .create then
          .ok (directory.write location (.bytes []), ⟨.empty, .file location, writable⟩)
        else
          .error .unreachable
    | _ => .error .unreachable
  else
    .error .unreachable

def findStore (directory : Directory) (locator : StoreLocator) :
    Except StoreError (Directory × StoreSession) :=
  if locator.isUnnamed then
    .ok (directory, ⟨.empty, .transient, locator.access != .readOnly⟩)
  else
    match locator.medium with
    | .disk => directory.findFile locator
    | .memory =>
        if leavesRoom .memory locator.path.length then
          .ok (directory, ⟨.empty, .transient, locator.access != .readOnly && !locator.immutable⟩)
        else
          .error .unreachable

/-- Opens the store of a name, and gives the directory that is left whether or not that succeeds. -/
def openStore (directory : Directory) (name : FilePath) :
    Directory × Except CommandError StoreSession :=
  match StoreLocator.parse? name with
  | none => (directory, .error (.opening name .malformedName))
  | some locator =>
      match directory.findStore locator with
      | .error error => (directory, .error (.opening name error))
      | .ok (found, session) => (found, session.opened.mapError (.opening name))

def saveStore (directory : Directory) (session : StoreSession) : Directory :=
  match session.place with
  | .transient => directory
  | .file location => directory.write location (.crashes session.store)

end Directory

end FaultTriage
