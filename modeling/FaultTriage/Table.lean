import FaultTriage.Table.X86
import FaultTriage.Table.X64
import FaultTriage.Table.Arm

/-!
# Classification tables

Every architecture has an ordered table; the first row that applies to a mnemonic classifies it.
-/

set_option autoImplicit false

namespace FaultTriage.Table

def rows : Architecture → List TableRow
  | .x86 => X86.rows
  | .x64 => X64.rows
  | .arm => Arm.rows

def lookup? (architecture : Architecture) (mnemonic : List Char) : Option TableRow :=
  (rows architecture).find? (·.applies mnemonic)

end FaultTriage.Table
