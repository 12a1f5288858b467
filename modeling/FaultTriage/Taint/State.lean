import FaultTriage.Register.Catalogue
import FaultTriage.Taint.Stack

/-!
# Taint states

Between two instructions the taint pass knows which operands are tainted and which are clean.  The
clean ones veto: an alias of a tainted register that has been overwritten since is not tainted.
-/

set_option autoImplicit false

namespace FaultTriage.Taint

open Register

structure State where
  taint : OperandSet
  clear : OperandSet
  stack : VirtualStack
deriving DecidableEq

namespace State

def seeded (seeds : OperandSet) : State := ⟨seeds, ∅, .empty⟩

def exhausted (state : State) : Bool :=
  state.taint.isEmpty && !state.stack.hasTainted

/-- The names that become suspect with the tainted ones and are not known to be clean. -/
def suspects (architecture : Architecture) (state : State) : List Operand :=
  (state.taint.names.flatMap (marked architecture)).filter fun name => !state.clear.contains name

/--
The operands that count as tainted for the next instruction: the suspects, and the stack operand
when a tainted value has been pushed.
-/
def expanded (architecture : Architecture) (state : State) : OperandSet :=
  let registers := OperandSet.ofList (state.suspects architecture)
  if state.stack.hasTainted then registers.insert stackContents else registers

/--
Notes that an operand has been written with a tainted or a clean value.  Everything that the write
overwrites loses what was known to the contrary.
-/
def assign (architecture : Architecture) (tainted : Bool) (state : State) (operand : Operand) :
    State :=
  let covered := overwritten architecture operand
  if tainted then
    { state with
      taint := state.taint.insert operand
      clear := state.clear.eraseAll covered }
  else
    { state with
      clear := state.clear.insert operand
      taint := state.taint.eraseAll covered }

def assignAll (architecture : Architecture) (tainted : Bool) (state : State)
    (operands : List Operand) : State :=
  operands.foldl (assign architecture tainted) state

def popInto (architecture : Architecture) (state : State) (operand : Operand) : State :=
  let popped := state.stack.pop
  ({ state with stack := popped.2 }).assign architecture popped.1 operand

def popAll (architecture : Architecture) (state : State) (operands : List Operand) : State :=
  operands.foldl (popInto architecture) state

def pushAll (tainted : OperandSet) (state : State) (operands : List Operand) : State :=
  { state with stack := operands.foldl (fun stack name => stack.push tainted name) state.stack }

end State

end FaultTriage.Taint
