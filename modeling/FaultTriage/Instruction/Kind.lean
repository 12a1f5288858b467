/-!
# Kinds of instructions

What an instruction does with its operands, as far as block building and taint propagation need to
know.
-/

set_option autoImplicit false

namespace FaultTriage

inductive InstructionKind where
  /-- No table row matches; assumed to affect everything. -/
  | unknown
  | branch
  | returning
  /-- A conditional instruction of which it is not known whether it executes. -/
  | unpredictable
  | interrupt
  | dataMove
  | dataExchange
  | blockDataMove
  | stackPush
  | stackPop
  | calculation
  /-- Has no effect, or does not execute. -/
  | noop
  | undecodable
deriving DecidableEq, Inhabited

namespace InstructionKind

def name : InstructionKind → String
  | .unknown => "unknown"
  | .branch => "branch"
  | .returning => "return"
  | .unpredictable => "unpredictable_conditional_execution"
  | .interrupt => "interrupt"
  | .dataMove => "data_move"
  | .dataExchange => "data_exchange"
  | .blockDataMove => "block_data_move"
  | .stackPush => "stack_push"
  | .stackPop => "stack_pop"
  | .calculation => "calculation"
  | .noop => "noop"
  | .undecodable => "non_disassemblable"

def all : List InstructionKind :=
  [.unknown, .branch, .returning, .unpredictable, .interrupt, .dataMove, .dataExchange,
    .blockDataMove, .stackPush, .stackPop, .calculation, .noop, .undecodable]

def ofName? (name : String) : Option InstructionKind :=
  all.find? (·.name == name)

/-- Whether control leaves the block after an executed instruction of this kind. -/
def terminatesBlock : InstructionKind → Bool
  | .branch | .returning | .interrupt => true
  | _ => false

end InstructionKind

end FaultTriage
