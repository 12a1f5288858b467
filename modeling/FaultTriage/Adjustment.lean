import FaultTriage.Instruction.Operands
import FaultTriage.Register.Catalogue
import FaultTriage.Table.Row
import FaultTriage.Text.Blank

/-!
# Adjustments

Some rows only settle what an instruction does once its operands are known.  Their adjustments look
at the operands found and at the argument text, and may change the kind or the operands.
-/

set_option autoImplicit false

namespace FaultTriage

open Register

/--
Whether the argument text combines one register with itself: two operands, or the last two of three,
are the same text and that text is a named operand.
-/
def combinesWithItself (arguments : List Char) (explicit : OperandSet) : Bool :=
  match (Text.splitAt ',' arguments).map Text.trim with
  | [first, second] => first == second && explicit.contains (String.ofList first)
  | [_, first, second] => first == second && explicit.contains (String.ofList first)
  | _ => false

def Adjustment.apply (arguments : List Char) (effect : Effect) : Adjustment → Effect
  | .selfCancelling =>
      if combinesWithItself arguments effect.explicit then { effect with source := ∅ } else effect
  | .returnThroughLink =>
      if effect.kind = .branch ∧ linkRegister ∈ effect.source then
        { effect with
          kind := .returning
          passedOrReturned := effect.passedOrReturned.insertAll returnRegisters }
      else
        effect
  | .branchByLoad =>
      if programCounter ∈ effect.destination then
        match effect.kind with
        | .dataMove => { effect with kind := .branch }
        | .stackPop =>
            { effect with kind := .branch, source := effect.source.insert stackContents }
        | _ => effect
      else
        effect
  | .writeBack =>
      if effect.kind = .dataMove ∧ '!' ∈ arguments then
        { effect with kind := .blockDataMove }
      else
        effect

def Adjustment.applyAll (arguments : List Char) (effect : Effect)
    (adjustments : List Adjustment) : Effect :=
  adjustments.foldl (fun effect adjustment => adjustment.apply arguments effect) effect

end FaultTriage
