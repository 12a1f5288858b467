import FaultTriage.OperandSet
import FaultTriage.Register.Family

/-!
# Register catalogue

The register names that argument text is searched for, the words that are passed over there, the
words that stay attached to a mnemonic, and the orders in which ARM stores and loads several
registers at once.
-/

set_option autoImplicit false

namespace FaultTriage.Register

def segmentRegisters : List Operand := ["cs", "ds", "es", "fs", "gs", "ss"]

/-- The core registers of ARM in the order that a range such as `r4-r7` walks. -/
def coreRegisters : List Operand :=
  ["r0", "r1", "r2", "r3", "r4", "r5", "r6", "r7", "r8", "r9", "r10", "r11", "r12", "sp", "lr",
    "pc"]

/-- All register names of ARM: the core registers and four further names for some of them. -/
def armRegisters : List Operand :=
  coreRegisters ++ ["fp", "ip", "sb", "sl"]

/-- The order in which a push of several registers stores them, first stored first. -/
def pushOrder : List Operand :=
  ["pc", "lr", "sp", "r12", "ip", "r11", "fp", "r10", "sl", "r9", "sb", "r8", "r7", "r6", "r5",
    "r4", "r3", "r2", "r1", "r0"]

/-- The order in which a pop of several registers loads them, first loaded first. -/
def popOrder : List Operand :=
  ["r0", "r1", "r2", "r3", "r4", "r5", "r6", "r7", "r8", "sb", "r9", "sl", "r10", "fp", "r11",
    "ip", "r12", "sp", "lr", "pc"]

def linkRegister : Operand := "lr"

def programCounter : Operand := "pc"

def returnRegisters : List Operand := ["r0", "r1"]

def isRegister (architecture : Architecture) (name : Operand) : Bool :=
  match architecture with
  | .arm => armRegisters.contains name
  | .x86 | .x64 =>
      segmentRegisters.contains name
        || (families architecture).any fun family => family.any (·.name == name)

/-- Size words that stand before an operand without being one. -/
def sizeWords : Architecture → List Operand
  | .x86 | .x64 => ["ptr", "byte", "word", "dword", "qword"]
  | .arm => []

def mnemonicPrefixes : Architecture → List String
  | .x86 | .x64 => ["lock", "rep", "repe", "repz", "repne", "repnz"]
  | .arm => []

/--
The registers after `first` up to and including `last`, in the order of the core registers.  A range
written backwards runs to the end of that order.
-/
def runThrough (last : Operand) : List Operand → List Operand
  | [] => []
  | register :: rest => if register = last then [register] else register :: runThrough last rest

/--
The registers that a range adds to its first one.  There are none when an end is a single byte long
or the first end is no core register.
-/
def rangeAfter (first last : Operand) : List Operand :=
  if first.byteCount ≤ 1 || last.byteCount ≤ 1 then
    []
  else
    runThrough last ((coreRegisters.dropWhile (· != first)).drop 1)

/-- The members of a set in a given order, then the other members in the order of the set. -/
def arrange (order : List Operand) (set : OperandSet) : List Operand :=
  order.filter set.contains ++ set.names.filter fun name => !order.contains name

/-- The members of a set in the order a push stores them, where several may be pushed at once. -/
def inPushOrder? (architecture : Architecture) (set : OperandSet) : Option (List Operand) :=
  match architecture with
  | .arm => some (arrange pushOrder set)
  | .x86 | .x64 => none

def inPopOrder? (architecture : Architecture) (set : OperandSet) : Option (List Operand) :=
  match architecture with
  | .arm => some (arrange popOrder set)
  | .x86 | .x64 => none

end FaultTriage.Register
