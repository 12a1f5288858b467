import FaultTriage.Config
import FaultTriage.Taint.Pass
import FaultTriage.Triage.Block

/-!
# Triage reports

The full analysis of one crash: the block at the fault, the taint that its first instruction sends
through it, and the hash of the stack.
-/

set_option autoImplicit false

namespace FaultTriage

structure InstructionReport where
  address : Address
  text : String
  kind : InstructionKind
  flagsModified : Bool
  source : OperandSet
  destination : OperandSet
  destinationPointer : OperandSet
  passedOrReturned : OperandSet
  taintedInput : OperandSet
deriving DecidableEq

def Instruction.report (instruction : Instruction) : InstructionReport :=
  { address := instruction.address
    text := instruction.text
    kind := instruction.kind
    flagsModified := instruction.flagsModified
    source := instruction.source
    destination := instruction.destination
    destinationPointer := instruction.destinationPointer
    passedOrReturned := instruction.passedOrReturned
    taintedInput := instruction.taintedInput }

structure TriageReport where
  architecture : Architecture
  faultAddress : Address
  status : Taint.Status
  instructions : List InstructionReport
  finalTaint : OperandSet
  finalClear : OperandSet
  stackHash : StackHash
deriving DecidableEq

namespace TriageReport

def succeeded (report : TriageReport) : Bool :=
  report.status.succeeded

/-- The instruction at the fault; a block limit of zero leaves none. -/
def faultingInstruction? (report : TriageReport) : Option InstructionReport :=
  report.instructions.head?

def taintedInstructions (report : TriageReport) : List InstructionReport :=
  report.instructions.tail.filter fun instruction => !instruction.taintedInput.isEmpty

def ofCrash (host : Host) (faultAddress : Address) (frames : List Frame)
    (config : AnalysisConfig) : Except BlockError TriageReport :=
  (Block.build host config.maxBlockInstructions.toNat faultAddress).map fun block =>
    let result := Taint.propagate host.architecture config.taintDestinationPointers block
    { architecture := host.architecture
      faultAddress := faultAddress
      status := result.outcome.status
      instructions := result.block.map Instruction.report
      finalTaint := result.outcome.taint
      finalClear := result.outcome.clear
      stackHash := config.hashFrames frames }

end TriageReport

end FaultTriage
