import FaultTriage.Workspace.Path

/-!
# Files

Commands work on files.  A path is looked up step by step, from the current directory or from the
top; what goes wrong on the way is a cause of its own with its own wording.
-/

set_option autoImplicit false

namespace FaultTriage

inductive FileError where
  | notFound
  | isDirectory
  | notDirectory
  | nameTooLong
  | malformedName
  | notText
deriving DecidableEq

def FileError.message : FileError → String
  | .notFound => "No such file or directory (os error 2)"
  | .isDirectory => "Is a directory (os error 21)"
  | .notDirectory => "Not a directory (os error 20)"
  | .nameTooLong => "File name too long (os error 36)"
  | .malformedName => "file name contained an unexpected NUL byte"
  | .notText => "stream did not contain valid UTF-8"

structure Workspace (File : Type) where
  files : List (Location × File)
  /-- Directories that exist besides those above a file. -/
  directories : List Location
  current : Location

namespace Workspace

inductive Target (File : Type) where
  | file (location : Location) (content : File)
  | directory
  | vacant (location : Location)

def fileAt? {File : Type} (workspace : Workspace File) (location : Location) : Option File :=
  (workspace.files.find? (·.1 == location)).map (·.2)

/-- Whether there is a directory at a location: a known one, or one above a file. -/
def isDirectory {File : Type} (workspace : Workspace File) (location : Location) : Bool :=
  location.isPrefixOf workspace.current
    || workspace.directories.any (location.isPrefixOf ·)
    || workspace.files.any fun entry => location.isPrefixOf entry.1 && location != entry.1

/--
Follows steps from a directory.  The steps are taken in turn, and the first that cannot be taken
decides about the error.
-/
def follow {File : Type} (workspace : Workspace File) (directory : Location) :
    List PathStep → Except FileError (Target File)
  | [] => .ok .directory
  | .stay :: rest => workspace.follow directory rest
  | .up :: rest => workspace.follow directory.dropLast rest
  | .enter name :: rest =>
      let location := directory ++ [name]
      if FileName.maxLength < name.length then
        .error .nameTooLong
      else
        match workspace.fileAt? location with
        | some content =>
            if rest.isEmpty then .ok (.file location content) else .error .notDirectory
        | none =>
            if workspace.isDirectory location then workspace.follow location rest
            else if rest.isEmpty then .ok (.vacant location)
            else .error .notFound

def targetAt {File : Type} (workspace : Workspace File) (location : Location) :
    Except FileError (Target File) :=
  workspace.follow [] (location.map PathStep.enter)

def target {File : Type} (workspace : Workspace File) (path : PathBytes) :
    Except FileError (Target File) :=
  if path.contains 0 then .error .malformedName
  else if PathBytes.maxLength < path.length then .error .nameTooLong
  else if path.isEmpty then .error .notFound
  else workspace.follow (path.start workspace.current) path.steps

def pathExists {File : Type} (workspace : Workspace File) (path : PathBytes) : Bool :=
  match workspace.target path with
  | .ok (.file _ _) => true
  | .ok .directory => true
  | _ => false

def read {File : Type} (workspace : Workspace File) (path : PathBytes) : Except FileError File :=
  match workspace.target path with
  | .ok (.file _ content) => .ok content
  | .ok .directory => .error .isDirectory
  | .ok (.vacant _) => .error .notFound
  | .error error => .error error

def write {File : Type} (workspace : Workspace File) (location : Location) (content : File) :
    Workspace File :=
  { workspace with
    files := (location, content) :: workspace.files.filter fun entry => entry.1 != location }

end Workspace

end FaultTriage
