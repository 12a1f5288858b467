import FaultTriage.Condition
import FaultTriage.Instruction.Kind

/-!
# Rows of the classification tables

A row says which mnemonics it applies to, what kind of instruction they are, where the operands of
the argument text go, which operands are read or written without being named there, and which
adjustments follow.
-/

set_option autoImplicit false

namespace FaultTriage

/-- Where the operands that the argument text names go. -/
structure OperandShape where
  sourceRegister : Bool
  sourcePointer : Bool
  destinationRegister : Bool
  destinationPointer : Bool
  /-- The destination is read as well as written. -/
  destinationIsSource : Bool
  /-- The destination is only read. -/
  destinationUnaffected : Bool
  /-- Sources come first in the argument text. -/
  reversed : Bool
  /-- The first two operands stand on the initial side. -/
  dualInitial : Bool
deriving DecidableEq

namespace OperandShape

def none : OperandShape := ⟨false, false, false, false, false, false, false, false⟩

def target : OperandShape := { none with sourceRegister := true, sourcePointer := true }

def writeOnly : OperandShape :=
  { none with destinationRegister := true, destinationPointer := true }

def move : OperandShape := ⟨true, true, true, true, false, false, false, false⟩

def update : OperandShape := { move with destinationIsSource := true }

def compare : OperandShape := { update with destinationUnaffected := true }

def unary : OperandShape := { writeOnly with destinationIsSource := true }

def load : OperandShape := { target with destinationRegister := true }

def loadPair : OperandShape := { load with dualInitial := true }

def store : OperandShape :=
  { none with sourceRegister := true, destinationPointer := true, reversed := true }

def storePair : OperandShape := { store with dualInitial := true }

def loadMultiple : OperandShape :=
  { none with sourceRegister := true, destinationRegister := true, reversed := true }

def storeMultiple : OperandShape :=
  { none with destinationPointer := true, sourceRegister := true }

def isEmpty (shape : OperandShape) : Bool :=
  shape = none

def hasSource (shape : OperandShape) : Bool :=
  shape.sourceRegister || shape.sourcePointer

def hasDestination (shape : OperandShape) : Bool :=
  shape.destinationRegister || shape.destinationPointer

/-- The shape as a number, one bit a field in the order of the fields. -/
def bits (shape : OperandShape) : Nat :=
  [shape.sourceRegister, shape.sourcePointer, shape.destinationRegister, shape.destinationPointer,
    shape.destinationIsSource, shape.destinationUnaffected, shape.reversed, shape.dualInitial].foldr
      (fun field rest => field.toNat + 2 * rest) 0

end OperandShape

inductive Adjustment where
  /-- Combining a register with itself gives a value that depends on nothing. -/
  | selfCancelling
  | returnThroughLink
  /-- A load or pop into the program counter is a branch. -/
  | branchByLoad
  /-- A load or store that writes its base back moves a block. -/
  | writeBack
deriving DecidableEq

inductive RowMatch where
  | leading
  | exact
  /-- The mnemonic of the row alone or followed by a condition code. -/
  | conditional
deriving DecidableEq

structure TableRow where
  mnemonic : String
  rowMatch : RowMatch
  kind : InstructionKind
  shape : OperandShape
  adjustments : List Adjustment
  /-- Operands that are read without being named. -/
  reads : List Operand
  /-- Operands that are written without being named. -/
  writes : List Operand
  /-- Operands that are written through without being named. -/
  writesThrough : List Operand
  /-- Operands that are handed to a callee or a caller. -/
  passes : List Operand
deriving DecidableEq

namespace TableRow

def starting (mnemonic : String) (kind : InstructionKind) (shape : OperandShape) : TableRow :=
  ⟨mnemonic, .leading, kind, shape, [], [], [], [], []⟩

def exactly (mnemonic : String) (kind : InstructionKind) (shape : OperandShape) : TableRow :=
  ⟨mnemonic, .exact, kind, shape, [], [], [], [], []⟩

def exactlyOrConditional (mnemonic : String) (kind : InstructionKind) (shape : OperandShape) :
    TableRow :=
  ⟨mnemonic, .conditional, kind, shape, [], [], [], [], []⟩

def applies (row : TableRow) (mnemonic : List Char) : Bool :=
  match row.rowMatch with
  | .leading => row.mnemonic.toList.isPrefixOf mnemonic
  | .exact => row.mnemonic.toList == mnemonic
  | .conditional =>
      match Text.stripStart? row.mnemonic.toList mnemonic with
      | none => false
      | some rest => rest.isEmpty || (Condition.ofCode? rest).isSome

end TableRow

end FaultTriage
