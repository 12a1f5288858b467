import FaultTriage.Operand
import FaultTriage.Architecture

/-!
# Register families and aliases

A family lists the views of one physical register with the bits that each view covers.  Which names
overlap a register, and which names a write to it overwrites, are range checks on these bits.  The
processor flags form a family too: the flags register and its single bits.
-/

set_option autoImplicit false

namespace FaultTriage.Register

/-! ## Logical operands -/

/-- Stands for any value that the block has pushed and that carries taint. -/
def stackContents : Operand := "StackContents"

def zeroFlag : Operand := "ZeroFlag"

def carryFlag : Operand := "CarryFlag"

def overflowFlag : Operand := "OverflowFlag"

def parityFlag : Operand := "ParityFlag"

def signFlag : Operand := "SignFlag"

def auxFlag : Operand := "AuxFlag"

def flags : Operand := "Flags"

def flagOperands : List Operand :=
  [zeroFlag, carryFlag, overflowFlag, parityFlag, signFlag, auxFlag, flags]

/-! ## Views -/

/-- A named range of bits of a physical register: from `low`, included, to `high`, excluded. -/
structure View where
  name : Operand
  low : Nat
  high : Nat
deriving DecidableEq

abbrev Family := List View

/-- A 32-bit register with its lower half and the two bytes of that half. -/
def wideFamily (full half lowByte highByte : Operand) : Family :=
  [⟨full, 0, 32⟩, ⟨half, 0, 16⟩, ⟨lowByte, 0, 8⟩, ⟨highByte, 8, 16⟩]

/-- A 32-bit register of which only the lower half has a name. -/
def halvedFamily (full half : Operand) : Family :=
  [⟨full, 0, 32⟩, ⟨half, 0, 16⟩]

/-- A 64-bit register with its lower parts of 32, 16 and 8 bits. -/
def nestedFamily (full word half lowByte : Operand) : Family :=
  [⟨full, 0, 64⟩, ⟨word, 0, 32⟩, ⟨half, 0, 16⟩, ⟨lowByte, 0, 8⟩]

def flagsFamily : Family :=
  [⟨flags, 0, 32⟩, ⟨carryFlag, 0, 1⟩, ⟨parityFlag, 2, 3⟩, ⟨auxFlag, 4, 5⟩, ⟨zeroFlag, 6, 7⟩,
    ⟨signFlag, 7, 8⟩, ⟨overflowFlag, 11, 12⟩]

def statusFamily : Family :=
  [⟨flags, 0, 32⟩, ⟨overflowFlag, 28, 29⟩, ⟨carryFlag, 29, 30⟩, ⟨zeroFlag, 30, 31⟩,
    ⟨signFlag, 31, 32⟩]

/-- The register families of an architecture.  On ARM only the status register has views. -/
def families : Architecture → List Family
  | .x86 =>
      [wideFamily "eax" "ax" "al" "ah", wideFamily "ebx" "bx" "bl" "bh",
        wideFamily "ecx" "cx" "cl" "ch", wideFamily "edx" "dx" "dl" "dh",
        halvedFamily "esi" "si", halvedFamily "edi" "di", halvedFamily "ebp" "bp",
        halvedFamily "esp" "sp", halvedFamily "eip" "ip", flagsFamily]
  | .x64 =>
      [⟨"rax", 0, 64⟩ :: wideFamily "eax" "ax" "al" "ah",
        ⟨"rbx", 0, 64⟩ :: wideFamily "ebx" "bx" "bl" "bh",
        ⟨"rcx", 0, 64⟩ :: wideFamily "ecx" "cx" "cl" "ch",
        ⟨"rdx", 0, 64⟩ :: wideFamily "edx" "dx" "dl" "dh",
        nestedFamily "rsi" "esi" "si" "sil", nestedFamily "rdi" "edi" "di" "dil",
        nestedFamily "rbp" "ebp" "bp" "bpl", nestedFamily "rsp" "esp" "sp" "spl",
        ⟨"rip", 0, 64⟩ :: halvedFamily "eip" "ip",
        nestedFamily "r8" "r8d" "r8w" "r8b", nestedFamily "r9" "r9d" "r9w" "r9b",
        nestedFamily "r10" "r10d" "r10w" "r10b", nestedFamily "r11" "r11d" "r11w" "r11b",
        nestedFamily "r12" "r12d" "r12w" "r12b", nestedFamily "r13" "r13d" "r13w" "r13b",
        nestedFamily "r14" "r14d" "r14w" "r14b", nestedFamily "r15" "r15d" "r15w" "r15b",
        flagsFamily]
  | .arm => [statusFamily]

def findView? (name : Operand) : List Family → Option (Family × View)
  | [] => none
  | family :: rest =>
      match family.find? (·.name == name) with
      | some view => some (family, view)
      | none => findView? name rest

def View.overlaps (left right : View) : Bool :=
  left.low < right.high && right.low < left.high

def View.within (view : View) (low high : Nat) : Bool :=
  low ≤ view.low && view.high ≤ high

def widest (family : Family) : Nat :=
  family.foldl (fun high view => max high view.high) 0

/--
The bits that a write to a view overwrites.  On x64 a write to the lower 32 bits of a 64-bit
register clears its upper half.
-/
def writtenRange (architecture : Architecture) (family : Family) (view : View) : Nat × Nat :=
  if architecture = .x64 ∧ view.low = 0 ∧ view.high = 32 ∧ widest family = 64 then
    (0, 64)
  else
    (view.low, view.high)

inductive AliasUse where
  /-- Names that become suspect when the register is tainted. -/
  | marking
  /-- Names that are overwritten when the register is written. -/
  | clearing
deriving DecidableEq

def aliasViews (architecture : Architecture) (aliasUse : AliasUse) (family : Family) (view : View) :
    Family :=
  match aliasUse with
  | .marking => family.filter fun other => other.overlaps view
  | .clearing =>
      let range := writtenRange architecture family view
      family.filter fun other => other.within range.1 range.2

/--
All names that alias a name, itself included.  Names outside every family have none: memory
expressions, the stack operand, segment registers and the core registers of ARM.
-/
def aliases? (architecture : Architecture) (aliasUse : AliasUse) (name : Operand) :
    Option (List Operand) :=
  (findView? name (families architecture)).map fun found =>
    (aliasViews architecture aliasUse found.1 found.2).map (·.name)

def marked (architecture : Architecture) (name : Operand) : List Operand :=
  (aliases? architecture .marking name).getD [name]

def overwritten (architecture : Architecture) (name : Operand) : List Operand :=
  (aliases? architecture .clearing name).getD [name]

end FaultTriage.Register
