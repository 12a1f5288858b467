import FaultTriage.Instruction
import FaultTriage.Taint.State

/-!
# One instruction of the taint pass

An instruction first records which of its inputs are tainted, and then passes taint on: from its
sources to its destinations, through the stack, or between the two sides of an exchange.
-/

set_option autoImplicit false

namespace FaultTriage.Taint

open Register

def inputs (instruction : Instruction) : List Operand :=
  instruction.source.names ++ instruction.destinationPointer.names
    ++ instruction.passedOrReturned.names

def recordInputs (tainted : OperandSet) (instruction : Instruction) : Instruction :=
  { instruction with
    taintedInput :=
      instruction.taintedInput.insertAll ((inputs instruction).filter tainted.lookup) }

def rowOperands (architecture : Architecture) (role : TableRow → List Operand)
    (instruction : Instruction) : List Operand :=
  match Table.lookup? architecture instruction.rootMnemonic with
  | some row => role row
  | none => []

/-- Whether the operands of a stack instruction are those of its row. -/
def stackOperandsImplied (instruction : Instruction) (implied : List Operand) : Bool :=
  instruction.explicit.isEmpty && !implied.isEmpty

/--
A pop.  A value popped to memory becomes an input of the instruction when it is tainted.  There is
no result when the architecture cannot pop to memory, or cannot pop several registers.
-/
def pop? (architecture : Architecture) (state : State) (instruction : Instruction) :
    Option (Instruction × State) :=
  let implied := rowOperands architecture (·.writes) instruction
  if stackOperandsImplied instruction implied then
    some (instruction, state.popAll architecture implied)
  else
    match instruction.destination.names with
    | [operand] => some (instruction, state.popInto architecture operand)
    | names =>
        if !instruction.destinationPointer.isEmpty then
          if architecture.allowsMemoryStackOperands then
            let popped := state.stack.pop
            let read :=
              if popped.1 then
                { instruction with
                  source := instruction.source.insert stackContents
                  taintedInput := instruction.taintedInput.insert stackContents }
              else
                instruction
            some (read, { state with stack := popped.2 })
          else
            none
        else if names.isEmpty then
          some (instruction, { state with stack := state.stack.pop.2 })
        else if architecture.allowsMultipleStackOperands then
          (inPopOrder? architecture instruction.destination).map fun operands =>
            (instruction, state.popAll architecture operands)
        else
          none

/-- A push.  There is no result when the architecture cannot push several operands. -/
def push? (architecture : Architecture) (tainted : OperandSet) (state : State)
    (instruction : Instruction) : Option (Instruction × State) :=
  let implied := rowOperands architecture (·.reads) instruction
  if stackOperandsImplied instruction implied then
    some (instruction, state.pushAll tainted implied)
  else
    match instruction.source.names with
    | [] => some (instruction, { state with stack := state.stack.pushConstant })
    | [operand] => some (instruction, { state with stack := state.stack.push tainted operand })
    | _ =>
        if architecture.allowsMemoryStackOperands then
          let stack := state.stack.pushAny tainted instruction.source
          some (instruction, { state with stack := stack })
        else if architecture.allowsMultipleStackOperands then
          (inPushOrder? architecture instruction.source).map fun operands =>
            (instruction, state.pushAll tainted operands)
        else
          none

def exchange (architecture : Architecture) (tainted : OperandSet) (state : State)
    (instruction : Instruction) : State :=
  let sourceTainted := instruction.source.intersects tainted
  let destinationTainted := instruction.destination.intersects tainted
  let swapped := state.assignAll architecture destinationTainted instruction.source.names
  swapped.assignAll architecture sourceTainted instruction.destination.names

def flow (architecture : Architecture) (tainted : OperandSet) (state : State)
    (instruction : Instruction) : State :=
  state.assignAll architecture (instruction.source.intersects tainted) instruction.destination.names

/-- The flow of an instruction that may not execute: it can only add taint. -/
def possibleFlow (architecture : Architecture) (tainted : OperandSet) (state : State)
    (instruction : Instruction) : State :=
  if instruction.source.intersects tainted then
    state.assignAll architecture true instruction.destination.names
  else
    state

/--
Passes taint through an instruction that has recorded its inputs; `tainted` holds the operands that
count as tainted before it.  There is no result for a stack operand that cannot be modelled.
-/
def transition? (architecture : Architecture) (tainted : OperandSet) (state : State)
    (instruction : Instruction) : Option (Instruction × State) :=
  match instruction.kind with
  | .stackPop => pop? architecture state instruction
  | .stackPush => push? architecture tainted state instruction
  | .dataExchange => some (instruction, exchange architecture tainted state instruction)
  | .unpredictable => some (instruction, possibleFlow architecture tainted state instruction)
  | _ => some (instruction, flow architecture tainted state instruction)

end FaultTriage.Taint
