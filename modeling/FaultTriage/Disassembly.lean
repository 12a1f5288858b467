import FaultTriage.Instruction

/-!
# Disassembly

Turns one line of debugger output into a classified instruction, or says why that is not possible.
-/

set_option autoImplicit false

namespace FaultTriage

inductive DisassemblyError where
  | undecodable (address : Address)
  /-- The next instruction would start where this one does. -/
  | noProgress (address : Address)
  | missingField (line : String)
  | invalidAddress (field : String)
  | unexpectedContinuation (line : String)
deriving DecidableEq

def DisassemblyError.message : DisassemblyError → String
  | .undecodable address =>
      "Disassembler could not decode the instruction at " ++ address.render
  | .noProgress address =>
      "Next instruction address does not advance past " ++ address.render
  | .missingField line =>
      "Disassembly line is missing the address, opcode or mnemonic field: '" ++ line ++ "'"
  | .invalidAddress field => "Invalid address field '" ++ field ++ "'"
  | .unexpectedContinuation line => "Unexpected continuation marker in '" ++ line ++ "'"

namespace Disassembly

/-- What a debugger writes in place of an instruction that it cannot decode. -/
def refusal : List Char := "disassembly not possible".toList

def normalize (line : List Char) : List Char :=
  (Text.lowercase line).map fun character => if character = '\t' then ' ' else character

/-- The address as an architecture counts it: bit 0 of an ARM address only selects Thumb. -/
def align (architecture : Architecture) (address : Address) : Address :=
  if architecture = .arm then address &&& ~~~ 1 else address

def isContinuation (fields : Fields) : Bool :=
  fields.mnemonic.head? == some '?' || fields.opcode.head? == some '<'

/-- The address that a refusal is reported for: the first word of the line, or zero. -/
def refusedAddress (text : List Char) : Address :=
  (Address.parse? (Text.firstWord text)).getD 0

end Disassembly

open Disassembly in
/--
Reads and classifies one line.  `nextAddress` is where the following instruction starts, if that is
known; `flagsValid` and `flags` describe the processor flags before this one executes.  The checks
are made in the order of the cases.
-/
def disassemble (architecture : Architecture) (line : String) (nextAddress : Option Address)
    (flagsValid : Bool) (flags : ProcessorFlags) : Except DisassemblyError Instruction :=
  let text := normalize line.toList
  let shown := String.ofList (Text.trimEnd line.toList)
  if Text.containsRun refusal text then
    .error (.undecodable (refusedAddress text))
  else
    match Fields.split? ((Register.mnemonicPrefixes architecture).map String.toList) text with
    | none => .error (.missingField shown)
    | some fields =>
        match Address.parse? fields.address with
        | none => .error (.invalidAddress (String.ofList fields.address))
        | some written =>
            let address := align architecture written
            if isContinuation fields then
              .error (.unexpectedContinuation shown)
            else if nextAddress = some address then
              .error (.noProgress address)
            else
              .ok ((Instruction.ofLine (fields.toLine text) address nextAddress flagsValid).classify
                architecture flags)

end FaultTriage
