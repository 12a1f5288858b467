import FaultTriage.Adjustment
import FaultTriage.Scan.X86
import FaultTriage.Scan.Arm
import FaultTriage.Table

/-!
# Classification

The first table row that applies to the root mnemonic gives an instruction its kind and its implied
operands; the argument text adds the operands it names; adjustments follow; and on ARM the mnemonic
suffix decides last whether the instruction executes at all.
-/

set_option autoImplicit false

namespace FaultTriage

open Register

structure Classification extends Effect where
  /--
  The kind that the instruction has when it executes.  It differs from the kind only for conditional
  instructions that do not execute or may not.
  -/
  executedKind : InstructionKind
  flagsModified : Bool
deriving DecidableEq

namespace Classification

def rowEffect (architecture : Architecture) (row : TableRow) (arguments : List Char) : Effect :=
  let operands :=
    match architecture with
    | .x86 | .x64 => Scan.X86.operands architecture row arguments
    | .arm => Scan.Arm.operands row arguments
  Adjustment.applyAll arguments { operands with kind := row.kind } row.adjustments

/--
The kind of a conditional instruction: unpredictable without valid flags, no operation when the
condition is not met, and unchanged otherwise.
-/
def conditionalKind (condition : Condition) (flagsValid : Bool) (flags : ProcessorFlags)
    (kind : InstructionKind) : InstructionKind :=
  if condition = .always then kind
  else if !flagsValid then .unpredictable
  else if condition.holds flags then kind
  else .noop

/--
Applies a mnemonic suffix.  An instruction that sets the flags reads and writes them; a condition
reads its flags and decides on the kind.
-/
def applySuffix (suffix : MnemonicSuffix) (flagsValid : Bool) (flags : ProcessorFlags)
    (effect : Effect) : Effect :=
  let effect :=
    if suffix.setsFlags then
      { effect with
        source := effect.source.insert Register.flags
        destination := effect.destination.insert Register.flags }
    else
      effect
  match suffix.condition with
  | none => effect
  | some condition =>
      { effect with
        source := effect.source.insertAll condition.flagsRead
        kind := conditionalKind condition flagsValid flags effect.kind }

def modifiesFlags (effect : Effect) : Bool :=
  match effect.kind with
  | .noop => false
  | .unknown => true
  | _ => effect.destination.containsAny flagOperands

def unknownEffect : Effect := { (∅ : Operands) with kind := .unknown }

/--
Classifies an instruction by its root mnemonic and its argument text.  The flags matter for ARM
only; a mnemonic without a row stays unknown and has no operands.
-/
def ofText (architecture : Architecture) (flagsValid : Bool) (flags : ProcessorFlags)
    (root arguments : List Char) : Classification :=
  match Table.lookup? architecture root with
  | none =>
      { unknownEffect with executedKind := .unknown, flagsModified := modifiesFlags unknownEffect }
  | some row =>
      let executed := rowEffect architecture row arguments
      let effect :=
        match architecture with
        | .arm =>
            let suffix := MnemonicSuffix.parse root (Text.byteLength row.mnemonic.toList)
            applySuffix suffix flagsValid flags executed
        | .x86 | .x64 => executed
      { effect with executedKind := executed.kind, flagsModified := modifiesFlags effect }

end Classification

end FaultTriage
