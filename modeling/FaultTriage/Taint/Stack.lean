import FaultTriage.OperandSet

/-!
# The virtual stack

Of every value that the block has pushed, the taint pass only remembers whether it was tainted.
Popping more than was pushed gives untainted values: what lay there before the block started is not
known to depend on the fault.
-/

set_option autoImplicit false

namespace FaultTriage.Taint

structure VirtualStack where
  /-- Whether each value is tainted, the one pushed last first. -/
  slots : List Bool
deriving DecidableEq

namespace VirtualStack

def empty : VirtualStack := ⟨[]⟩

def pushValue (stack : VirtualStack) (tainted : Bool) : VirtualStack :=
  ⟨tainted :: stack.slots⟩

def push (stack : VirtualStack) (tainted : OperandSet) (operand : Operand) : VirtualStack :=
  stack.pushValue (tainted.lookup operand)

/-- Pushes one value computed from several operands, which is tainted if any of them is. -/
def pushAny (stack : VirtualStack) (tainted operands : OperandSet) : VirtualStack :=
  stack.pushValue (operands.intersects tainted)

def pushConstant (stack : VirtualStack) : VirtualStack :=
  stack.pushValue false

def pop (stack : VirtualStack) : Bool × VirtualStack :=
  match stack.slots with
  | [] => (false, stack)
  | top :: rest => (top, ⟨rest⟩)

def hasTainted (stack : VirtualStack) : Bool :=
  stack.slots.any id

def size (stack : VirtualStack) : Nat :=
  stack.slots.length

def isEmpty (stack : VirtualStack) : Bool :=
  stack.slots.isEmpty

/-- The taint of the pushed values, the one pushed first in front. -/
def bottomUp (stack : VirtualStack) : List Bool :=
  stack.slots.reverse

end VirtualStack

end FaultTriage.Taint
