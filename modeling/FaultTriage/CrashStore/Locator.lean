import FaultTriage.Text.Hex
import FaultTriage.Workspace.Path

/-!
# Names of crash stores

A store is named by the path of its file, or by a text such as `file:crashes.db?mode=ro` that adds
options to a path.  In such a text a percent sign and two hexadecimal digits stand for one byte, a
number sign starts a remark, and the only host that may be named is the machine itself.
-/

set_option autoImplicit false

namespace FaultTriage

inductive StoreAccess where
  | readOnly
  | readWrite
  | create
  /-- Reading and writing a new store that is kept in memory, whatever the path says. -/
  | memory
deriving DecidableEq

namespace StoreAccess

def ofName? (name : List UInt8) : Option StoreAccess :=
  if name = Text.bytes "ro" then some .readOnly
  else if name = Text.bytes "rw" then some .readWrite
  else if name = Text.bytes "rwc" then some .create
  else if name = Text.bytes "memory" then some .memory
  else none

/-- Whether one access allows all that another one does; memory can take the place of any. -/
def allows : StoreAccess → StoreAccess → Bool
  | .memory, _ => true
  | _, .memory => true
  | .create, _ => true
  | .readWrite, other => other != .create
  | .readOnly, other => other == .readOnly

/-- The access after an option that asks for another one, which the present one has to allow. -/
def narrow? (access : StoreAccess) (name : List UInt8) : Option StoreAccess :=
  (ofName? name).filter access.allows

end StoreAccess

inductive StoreMedium where
  | disk
  | memory
deriving DecidableEq

namespace StoreMedium

/-- The medium of a name; several ways of locking files all keep them on the disk. -/
def ofName? (name : List UInt8) : Option StoreMedium :=
  if ["unix", "unix-none", "unix-dotfile", "unix-excl"].any (Text.bytes · == name) then some .disk
  else if name = Text.bytes "memdb" then some .memory
  else none

def maxPathLength : StoreMedium → Nat
  | .disk => 512
  | .memory => 1024

end StoreMedium

structure StoreLocator where
  path : PathBytes
  access : StoreAccess
  medium : StoreMedium
  immutable : Bool
  /-- The file that a new store takes its permissions from, which has to exist. -/
  permissionsOf : Option PathBytes
deriving DecidableEq

namespace StoreLocator

def ofPath (path : PathBytes) : StoreLocator :=
  ⟨path, .create, .disk, false, none⟩

/-! ## Escaped bytes -/

def hexByte? (byte : UInt8) : Option Nat :=
  Text.hexValue? (Char.ofNat byte.toNat)

/-- Puts the bytes in the place of their escapes.  The escape of the NUL byte ends the text. -/
def unescape : List UInt8 → List UInt8
  | 0x25 :: high :: low :: rest =>
      match hexByte? high, hexByte? low with
      | some upper, some lower =>
          if upper = 0 ∧ lower = 0 then []
          else UInt8.ofNat (16 * upper + lower) :: unescape rest
      | _, _ => 0x25 :: unescape (high :: low :: rest)
  | byte :: rest => byte :: unescape rest
  | [] => []

/-! ## Options -/

/-- The bytes before and after the first separator; without one, nothing stands after it. -/
def cut (separator : UInt8) (text : List UInt8) : List UInt8 × List UInt8 :=
  (text.takeWhile (· != separator), (text.dropWhile (· != separator)).drop 1)

abbrev Setting := List UInt8 × List UInt8

/-- The options between ampersands; one without a name says nothing. -/
def settings (text : List UInt8) : List Setting :=
  ((Text.splitAt 0x26 text).map fun part =>
    let (name, value) := cut 0x3D part
    (unescape name, unescape value)).filter fun setting => !setting.1.isEmpty

def valuesOf (name : String) (settings : List Setting) : List (List UInt8) :=
  (settings.filter (·.1 == Text.bytes name)).map (·.2)

/-- The number that digits denote in a base, read as far as there are digits. -/
def leadingNumber (base : Nat) (text : List UInt8) : Nat :=
  ((text.map hexByte?).takeWhile fun digit => digit.any (· < base)).foldl
    (fun value digit => base * value + digit.getD 0) 0

/--
The number at the start of a text, which is hexadecimal after a marker; one that does not fit 31
bits counts as zero.
-/
def switchNumber (text : List UInt8) : Nat :=
  let value :=
    match text with
    | 0x30 :: marker :: digit :: rest =>
        if (marker = 0x78 || marker = 0x58) && (hexByte? digit).isSome then
          leadingNumber 16 (digit :: rest)
        else
          leadingNumber 10 text
    | _ => leadingNumber 10 text
  if value < 0x80000000 then value else 0

/-- Whether the value of a switch turns it on: a number by its last byte, or one of three words. -/
def isOn (value : List UInt8) : Bool :=
  switchNumber value % 256 != 0
    || ["on", "yes", "true"].any fun word =>
      Text.bytes word == value.map fun byte =>
        if 0x41 ≤ byte && byte ≤ 0x5A then byte + 0x20 else byte

/--
The store of a path with options.  An option that asks for an access may narrow what the options
before it allow; of the media the last one counts, and of the other options the first.
-/
def ofSettings? (path : PathBytes) (settings : List Setting) : Option StoreLocator := do
  let access ← (valuesOf "mode" settings).foldlM StoreAccess.narrow? .create
  let medium ← (valuesOf "vfs" settings).getLast?.elim (some .disk) StoreMedium.ofName?
  if (valuesOf "cache" settings).all fun value =>
      value == Text.bytes "shared" || value == Text.bytes "private" then
    some
      { path := path
        access := access
        medium := medium
        immutable := (valuesOf "immutable" settings).head?.any isOn
        permissionsOf := (valuesOf "modeof" settings).head? }
  else
    none

/-! ## Reading a name -/

def scheme : List UInt8 := Text.bytes "file:"

/-- What follows the host, which is empty or the machine itself; without slashes there is none. -/
def afterHost? : List UInt8 → Option (List UInt8)
  | 0x2F :: 0x2F :: rest =>
      let host := rest.takeWhile (· != PathBytes.slash)
      if host.isEmpty || host = Text.bytes "localhost" then
        some (rest.dropWhile (· != PathBytes.slash))
      else
        none
  | text => some text

def parse? (name : FilePath) : Option StoreLocator :=
  let bytes := Text.bytes name
  if bytes.contains 0 then
    none
  else if scheme.isPrefixOf bytes then do
    let text := (← afterHost? (bytes.drop scheme.length)).takeWhile (· != 0x23)
    let (path, options) := cut 0x3F text
    ofSettings? (unescape path) (settings options)
  else
    some (ofPath bytes)

/-! ## What a name leads to -/

/-- Whether the store is kept nowhere, so that its path does not matter. -/
def isUnnamed (locator : StoreLocator) : Bool :=
  locator.path = [] || locator.path = Text.bytes ":memory:" || locator.access = .memory

/-- The number of bytes by which the name of a journal is longer than the name of its store. -/
def journalSuffixLength : Nat := 8

def paths (locator : StoreLocator) : List PathBytes :=
  locator.path :: locator.permissionsOf.toList

end StoreLocator

end FaultTriage
