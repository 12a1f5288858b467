import FaultTriage.CrashStore.Bucket
import FaultTriage.Triage.Report

/-!
# Reports for readers

The lines in which commands show their results when no JSON was asked for.
-/

set_option autoImplicit false

namespace FaultTriage

def OperandSet.displayLines (label : String) (set : OperandSet) : List String :=
  if set.isEmpty then [] else ["  " ++ label ++ ": " ++ set.render]

def InstructionReport.displayLines (report : InstructionReport) : List String :=
  [report.text, "  class: " ++ report.kind.name]
    ++ report.source.displayLines "source"
    ++ report.destination.displayLines "destination"
    ++ report.destinationPointer.displayLines "destination_pointer"
    ++ report.passedOrReturned.displayLines "passed_or_returned"
    ++ report.taintedInput.displayLines "tainted_input"
    ++ (if report.flagsModified then ["  modifies flags"] else [])

def Taint.Status.display : Taint.Status → String
  | .completed => "Taint analysis: completed"
  | .exhausted index =>
      "Taint analysis: taint exhausted at instruction " ++ toString index
  | .unsupportedStack index =>
      "Taint analysis: FAILED, unsupported stack operand at instruction " ++ toString index

def Taint.Result.displayLines (result : Taint.Result) : List String :=
  (result.block.map Instruction.report).flatMap InstructionReport.displayLines
    ++ ["", result.outcome.status.display,
      "Tainted at end of block: " ++ result.outcome.taint.render,
      "Known clean at end of block: " ++ result.outcome.clear.render]

def HashedFrame.display (frame : HashedFrame) (position : Nat) : String :=
  let place :=
    if frame.displacement = 0 then frame.name
    else frame.name ++ "+" ++ Text.hexText frame.displacement.toNat
  "  " ++ String.ofList (Text.paddedDecimal 2 position) ++ " " ++ place
    ++ (if frame.excluded then " (excluded)" else "")

def StackHash.displayLines (hash : StackHash) : List String :=
  ("Stack hash (" ++ hash.mode.name ++ "): " ++ hash.label)
    :: hash.frames.zipIdx.map fun (frame, position) => frame.display position

def TriageReport.displayLines (report : TriageReport) : List String :=
  let fault :=
    match report.faultingInstruction? with
    | none => []
    | some instruction =>
        ["Faulting instruction: " ++ instruction.text,
          "Tainted inputs: " ++ instruction.taintedInput.render]
  ("Fault at " ++ report.faultAddress.render ++ " (" ++ report.architecture.name ++ ")")
    :: fault
    ++ "" :: report.taintedInstructions.flatMap InstructionReport.displayLines
    ++ report.status.display :: report.stackHash.displayLines

def BucketSummary.display (summary : BucketSummary) : String :=
  summary.bucket ++ " (" ++ summary.hashMode ++ ") count=" ++ toString summary.count
    ++ " first=" ++ summary.firstSeen ++ " last=" ++ summary.lastSeen

def CrashRecord.display (crash : CrashRecord) : String :=
  "#" ++ toString crash.id ++ " " ++ crash.recordedAt ++ " " ++ crash.faultAddress.render ++ " "
    ++ crash.instruction ++ " [" ++ crash.status ++ "] tainted: "
    ++ String.intercalate ", " crash.taintedInputs

end FaultTriage
