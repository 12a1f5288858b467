import FaultTriage.OperandSet
import FaultTriage.Instruction.Kind

/-!
# Operand sets of an instruction

What an instruction reads, writes and hands over, and which of these operands its text names.
-/

set_option autoImplicit false

namespace FaultTriage

structure Operands where
  source : OperandSet
  destination : OperandSet
  /-- Operands that address the memory that is written. -/
  destinationPointer : OperandSet
  /-- Operands that are handed to a callee or a caller. -/
  passedOrReturned : OperandSet
  explicit : OperandSet
  /-- Memory expressions that are tracked as one operand. -/
  compound : OperandSet
deriving DecidableEq

namespace Operands

def empty : Operands := ⟨∅, ∅, ∅, ∅, ∅, ∅⟩

instance : EmptyCollection Operands := ⟨empty⟩

def addSources (operands : Operands) (names : List Operand) : Operands :=
  { operands with source := operands.source.insertAll names }

def addDestinations (operands : Operands) (names : List Operand) : Operands :=
  { operands with destination := operands.destination.insertAll names }

def addDestinationPointers (operands : Operands) (names : List Operand) : Operands :=
  { operands with destinationPointer := operands.destinationPointer.insertAll names }

def addExplicit (operands : Operands) (names : List Operand) : Operands :=
  { operands with explicit := operands.explicit.insertAll names }

def addCompound (operands : Operands) (names : List Operand) : Operands :=
  { operands with compound := operands.compound.insertAll names }

end Operands

structure Effect extends Operands where
  kind : InstructionKind
deriving DecidableEq

end FaultTriage
