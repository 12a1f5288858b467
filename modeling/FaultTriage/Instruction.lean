import FaultTriage.Address
import FaultTriage.Classification
import FaultTriage.Instruction.Fields

/-!
# Instructions

An instruction is a line of disassembly at an address, with its classification and the inputs that
the taint pass has found to be tainted.
-/

set_option autoImplicit false

namespace FaultTriage

structure Instruction extends Line, Classification where
  address : Address
  nextAddress : Option Address
  /-- Whether the processor flags were known before this instruction. -/
  flagsValid : Bool
  taintedInput : OperandSet
deriving DecidableEq

namespace Instruction

def ofLine (line : Line) (address : Address) (nextAddress : Option Address) (flagsValid : Bool) :
    Instruction :=
  { toLine := line
    toClassification :=
      { Classification.unknownEffect with executedKind := .unknown, flagsModified := false }
    address := address
    nextAddress := nextAddress
    flagsValid := flagsValid
    taintedInput := ∅ }

/--
Classifies an instruction by its text and its own note on whether the flags are valid.  Nothing of
an earlier classification or taint pass remains.
-/
def classify (architecture : Architecture) (flags : ProcessorFlags) (instruction : Instruction) :
    Instruction :=
  { instruction with
    toClassification :=
      Classification.ofText architecture instruction.flagsValid flags instruction.rootMnemonic
        instruction.arguments
    taintedInput := ∅ }

def bare (architecture : Architecture) (flagsValid : Bool) (flags : ProcessorFlags)
    (mnemonic arguments : List Char) : Instruction :=
  (ofLine (Line.bare mnemonic arguments) 0 none flagsValid).classify architecture flags

/-- Applies one adjustment to a classified instruction; its executed kind stays. -/
def adjust (instruction : Instruction) (adjustment : Adjustment) : Instruction :=
  { instruction with toEffect := adjustment.apply instruction.arguments instruction.toEffect }

/--
Whether the block ends after this instruction.  A conditional branch that may or may not be taken
ends it; one that is known not to execute does not.
-/
def endsBlock (instruction : Instruction) : Bool :=
  match instruction.kind with
  | .unpredictable => instruction.executedKind.terminatesBlock
  | kind => kind.terminatesBlock

def render (instruction : Instruction) : String :=
  let head := Text.paddedHexDigits 8 instruction.address.toNat ++ ' ' :: instruction.mnemonic
  String.ofList
    (if instruction.arguments.isEmpty then head else head ++ ' ' :: instruction.arguments)

end Instruction

end FaultTriage
