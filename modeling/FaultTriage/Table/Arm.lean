import FaultTriage.Table.Row

/-!
# The ARM table

Rows are searched in order and the first one that applies decides, so a specific mnemonic stands
before a general one that would take it in.
-/

set_option autoImplicit false

namespace FaultTriage.Table.Arm

open Register TableRow

def conditionFlags : List Operand := [zeroFlag, carryFlag, overflowFlag, signFlag]

def argumentRegisters : List Operand := ["r0", "r1", "r2", "r3"]

def callClobbered : List Operand := ["r0", "r1", "r2", "r3", "r12", "lr"]

def loadAdjustments : List Adjustment := [.branchByLoad, .writeBack]

def registersRead : OperandShape := { OperandShape.none with sourceRegister := true }

def registersWritten : OperandShape := { OperandShape.none with destinationRegister := true }

def accumulatePair : OperandShape := { OperandShape.loadPair with destinationIsSource := true }

def rows : List TableRow := [
  exactly "nop" .noop .none,
  starting "it" .noop .none,
  starting "dmb" .noop .none,
  starting "dsb" .noop .none,
  starting "isb" .noop .none,
  starting "bkpt" .interrupt .none,
  { starting "svc" .interrupt .none with passes := argumentRegisters },
  starting "udf" .interrupt .none,
  { exactlyOrConditional "bl" .branch .target with
    writes := callClobbered, passes := argumentRegisters, adjustments := [.returnThroughLink] },
  { starting "blx" .branch .target with
    writes := callClobbered, passes := argumentRegisters, adjustments := [.returnThroughLink] },
  { starting "bx" .branch .target with adjustments := [.returnThroughLink] },
  starting "bic" .calculation .update,
  starting "bfi" .calculation .update,
  starting "bfc" .calculation .unary,
  starting "cbnz" .branch .target,
  starting "cbz" .branch .target,
  starting "tbb" .branch .target,
  starting "tbh" .branch .target,
  { starting "b" .branch .target with adjustments := [.returnThroughLink] },
  starting "push" .stackPush registersRead,
  { starting "pop" .stackPop registersWritten with adjustments := [.branchByLoad] },
  { starting "ldm" .dataMove .loadMultiple with adjustments := loadAdjustments },
  { starting "stm" .dataMove .storeMultiple with adjustments := [.writeBack] },
  { starting "ldrsb" .dataMove .load with adjustments := loadAdjustments },
  { starting "ldrsh" .dataMove .load with adjustments := loadAdjustments },
  starting "ldrexd" .dataMove .loadPair,
  starting "ldrex" .dataMove .load,
  { starting "ldrd" .dataMove .loadPair with adjustments := loadAdjustments },
  { starting "ldrb" .dataMove .load with adjustments := loadAdjustments },
  { starting "ldrh" .dataMove .load with adjustments := loadAdjustments },
  { starting "ldr" .dataMove .load with adjustments := loadAdjustments },
  { starting "strd" .dataMove .storePair with adjustments := [.writeBack] },
  { starting "strb" .dataMove .store with adjustments := [.writeBack] },
  { starting "strh" .dataMove .store with adjustments := [.writeBack] },
  { starting "str" .dataMove .store with adjustments := [.writeBack] },
  starting "movw" .dataMove .move,
  starting "movt" .calculation .update,
  { starting "mov" .dataMove .move with adjustments := [.branchByLoad] },
  starting "mvn" .dataMove .move,
  { starting "adr" .dataMove .move with reads := ["pc"] },
  { starting "mrs" .dataMove registersWritten with reads := [flags] },
  { starting "msr" .dataMove registersRead with writes := [flags] },
  { starting "cmp" .calculation .compare with writes := conditionFlags },
  { starting "cmn" .calculation .compare with writes := conditionFlags },
  { starting "tst" .calculation .compare with writes := conditionFlags },
  { starting "teq" .calculation .compare with writes := conditionFlags },
  { starting "eor" .calculation .update with adjustments := [.selfCancelling] },
  { starting "sub" .calculation .update with adjustments := [.selfCancelling] },
  { starting "sbc" .calculation .update with reads := [carryFlag] },
  starting "rsb" .calculation .update,
  { starting "rsc" .calculation .update with reads := [carryFlag] },
  starting "add" .calculation .update,
  { starting "adc" .calculation .update with reads := [carryFlag] },
  starting "and" .calculation .update,
  starting "orr" .calculation .update,
  starting "orn" .calculation .update,
  starting "lsl" .calculation .update,
  starting "lsr" .calculation .update,
  starting "asr" .calculation .update,
  starting "ror" .calculation .update,
  { starting "rrx" .calculation .update with reads := [carryFlag] },
  starting "mul" .calculation .update,
  starting "mla" .calculation .update,
  starting "mls" .calculation .update,
  starting "umull" .calculation .loadPair,
  starting "smull" .calculation .loadPair,
  starting "umlal" .calculation accumulatePair,
  starting "smlal" .calculation accumulatePair,
  starting "sdiv" .calculation .move,
  starting "udiv" .calculation .move,
  starting "uxt" .calculation .move,
  starting "sxt" .calculation .move,
  starting "ubfx" .calculation .move,
  starting "sbfx" .calculation .move,
  starting "clz" .calculation .move,
  starting "rev" .calculation .move
]

end FaultTriage.Table.Arm
