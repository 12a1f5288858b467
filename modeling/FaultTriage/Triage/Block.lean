import FaultTriage.Disassembly
import FaultTriage.Triage.Host

/-!
# Basic blocks

A block runs from the faulting instruction forward.  It ends after a branch, a return or an
interrupt, where the host has no further instruction, or at a limit.  The flags of the host stay
valid until an instruction modifies them.
-/

set_option autoImplicit false

namespace FaultTriage

inductive BlockError where
  | host (error : HostError)
  | disassembly (address : Address) (error : DisassemblyError)
deriving DecidableEq

def BlockError.message : BlockError → String
  | .host error => error.message
  | .disassembly address error =>
      "Faulting instruction at " ++ address.render ++ " could not be disassembled: "
        ++ error.message

namespace Block

def instructionAt (host : Host) (flagsValid : Bool) (address : Address) :
    Except BlockError Instruction :=
  match host.fetch address with
  | .error error => .error (.host error)
  | .ok line =>
      (disassemble host.architecture line.text line.nextAddress flagsValid host.flags).mapError
        (.disassembly address)

def successor? (instruction : Instruction) : Option Address :=
  if instruction.endsBlock then none else instruction.nextAddress

def flagsAfter (flagsValid : Bool) (instruction : Instruction) : Bool :=
  flagsValid && !instruction.flagsModified

/--
The instructions of a block from a later address on, at most `limit` of them.  The block ends in
front of an address that shows no instruction.
-/
def extend (host : Host) : Nat → Bool → Option Address → List Instruction
  | 0, _, _ => []
  | _ + 1, _, none => []
  | limit + 1, flagsValid, some address =>
      match instructionAt host flagsValid address with
      | .error _ => []
      | .ok instruction =>
          instruction
            :: extend host limit (flagsAfter flagsValid instruction) (successor? instruction)

/-- The block at an address.  Only a failure at its first instruction is an error. -/
def build (host : Host) (limit : Nat) (start : Address) : Except BlockError (List Instruction) :=
  match limit with
  | 0 => .ok []
  | limit + 1 =>
      (instructionAt host host.flags.valid start).map fun instruction =>
        instruction
          :: extend host limit (flagsAfter host.flags.valid instruction) (successor? instruction)

end Block

end FaultTriage
