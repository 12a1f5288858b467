import FaultTriage.CrashStore.Bucket
import FaultTriage.Json.Printer
import FaultTriage.Triage.Report

/-!
# Reports as JSON

The fields of every report and the order in which they are written.
-/

set_option autoImplicit false

namespace FaultTriage

def OperandSet.toJson (set : OperandSet) : Json :=
  .strings set.names

def Taint.Status.toJson (status : Taint.Status) : Json :=
  .record (("kind", .string status.name)
    :: (status.index?.map fun index => ("at", Json.count index)).toList)

def Taint.VirtualStack.toJson (stack : Taint.VirtualStack) : Json :=
  .record [("slots", .array (stack.bottomUp.map .bool))]

def InstructionReport.toJson (report : InstructionReport) : Json :=
  .record [
    ("address", .count report.address.toNat),
    ("text", .string report.text),
    ("class", .string report.kind.name),
    ("flags_modified", .bool report.flagsModified),
    ("source", report.source.toJson),
    ("destination", report.destination.toJson),
    ("destination_pointer", report.destinationPointer.toJson),
    ("passed_or_returned", report.passedOrReturned.toJson),
    ("tainted_input", report.taintedInput.toJson)]

def blockToJson (block : List InstructionReport) : Json :=
  .array (block.map InstructionReport.toJson)

def Taint.Result.toJson (result : Taint.Result) : Json :=
  let outcome := result.outcome
  .record [
    ("status", outcome.status.toJson),
    ("succeeded", .bool outcome.status.succeeded),
    ("instructions", blockToJson (result.block.map Instruction.report)),
    ("taint", outcome.taint.toJson),
    ("clear", outcome.clear.toJson),
    ("stack", outcome.stack.toJson)]

def HashedFrame.toJson (frame : HashedFrame) : Json :=
  .record [
    ("name", .string frame.name),
    ("displacement", .count frame.displacement.toNat),
    ("unknown", .bool frame.unknown),
    ("excluded", .bool frame.excluded)]

def StackHash.toJson (hash : StackHash) : Json :=
  .record [
    ("mode", .string hash.mode.name),
    ("major", .count hash.major.toNat),
    ("minor", .count hash.minor.toNat),
    ("frames", .array (hash.frames.map HashedFrame.toJson))]

def TriageReport.toJson (report : TriageReport) : Json :=
  .record [
    ("architecture", .string report.architecture.name),
    ("fault_address", .count report.faultAddress.toNat),
    ("status", report.status.toJson),
    ("succeeded", .bool report.succeeded),
    ("instructions", blockToJson report.instructions),
    ("final_taint", report.finalTaint.toJson),
    ("final_clear", report.finalClear.toJson),
    ("stack_hash", report.stackHash.toJson)]

def BucketSummary.toJson (summary : BucketSummary) : Json :=
  .record [
    ("major_hash", .count summary.pair.major.toNat),
    ("minor_hash", .count summary.pair.minor.toNat),
    ("hash_mode", .string summary.hashMode),
    ("count", .count summary.count),
    ("first_seen", .string summary.firstSeen),
    ("last_seen", .string summary.lastSeen)]

def CrashRecord.toJson (crash : CrashRecord) : Json :=
  .record [
    ("id", .count crash.id),
    ("major_hash", .count crash.pair.major.toNat),
    ("minor_hash", .count crash.pair.minor.toNat),
    ("hash_mode", .string crash.hashMode),
    ("architecture", .string crash.architecture),
    ("fault_address", .count crash.faultAddress.toNat),
    ("instruction", .string crash.instruction),
    ("tainted_inputs", .strings crash.taintedInputs),
    ("status", .string crash.status),
    ("recorded_at", .string crash.recordedAt)]

end FaultTriage
