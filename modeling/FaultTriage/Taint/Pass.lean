import FaultTriage.Taint.Step

/-!
# The taint pass over a block

The first instruction of a block is the faulting one, and its sources are the first taint.  The pass
walks the block once, and stops when no taint is left or a stack operand cannot be modelled.
-/

set_option autoImplicit false

namespace FaultTriage.Taint

inductive Status where
  | completed
  /-- No taint was left from this instruction on. -/
  | exhausted (index : Nat)
  /-- This instruction has a stack operand that the architecture does not support. -/
  | unsupportedStack (index : Nat)
deriving DecidableEq

namespace Status

def name : Status → String
  | .completed => "completed"
  | .exhausted _ => "taint_exhausted"
  | .unsupportedStack _ => "unsupported_stack_shape"

def index? : Status → Option Nat
  | .completed => none
  | .exhausted index => some index
  | .unsupportedStack index => some index

def succeeded : Status → Bool
  | .unsupportedStack _ => false
  | _ => true

end Status

structure Outcome extends State where
  status : Status
deriving DecidableEq

structure Result where
  outcome : Outcome
  block : List Instruction
deriving DecidableEq

def Result.prepend (instruction : Instruction) (result : Result) : Result :=
  { result with block := instruction :: result.block }

/-- Walks the rest of a block, whose first instruction has the given index. -/
def walk (architecture : Architecture) (index : Nat) (state : State) : List Instruction → Result
  | [] => ⟨{ state with status := .completed }, []⟩
  | instruction :: rest =>
      if state.exhausted then
        ⟨{ state with status := .exhausted index }, instruction :: rest⟩
      else if instruction.kind = .noop then
        (walk architecture (index + 1) state rest).prepend instruction
      else
        let tainted := state.expanded architecture
        let recorded := recordInputs tainted instruction
        match transition? architecture tainted state recorded with
        | none => ⟨{ state with status := .unsupportedStack index }, recorded :: rest⟩
        | some (changed, next) => (walk architecture (index + 1) next rest).prepend changed

/--
The operands that are tainted at the start of a block: the sources of its first instruction, and on
request the registers that point to its destination.
-/
def seeds (taintPointers : Bool) (block : List Instruction) : OperandSet :=
  match block with
  | [] => ∅
  | first :: _ =>
      if taintPointers then first.source.union first.destinationPointer else first.source

def propagate (architecture : Architecture) (taintPointers : Bool) (block : List Instruction) :
    Result :=
  walk architecture 0 (.seeded (seeds taintPointers block)) block

end FaultTriage.Taint
