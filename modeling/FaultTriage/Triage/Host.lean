import FaultTriage.Address
import FaultTriage.Architecture
import FaultTriage.Hash.Frame

/-!
# Hosts

Everything that the analysis asks of a debugger, live or recorded: a line of disassembly for an
address, the processor flags at the fault, and the symbol nearest to an address.
-/

set_option autoImplicit false

namespace FaultTriage

inductive HostError where
  | noInstruction (address : Address)
  /-- This line of a listing is neither an instruction nor a label; lines count from one. -/
  | invalidListingLine (number : Nat) (line : String)
deriving DecidableEq

def HostError.message : HostError → String
  | .noInstruction address => "No instruction at address " ++ address.render
  | .invalidListingLine number line =>
      "Listing line " ++ toString number ++ " is not an instruction or symbol label: '" ++ line
        ++ "'"

structure FetchedLine where
  text : String
  nextAddress : Option Address
deriving DecidableEq

structure Host where
  architecture : Architecture
  flags : ProcessorFlags
  fetch : Address → Except HostError FetchedLine
  /-- The nearest symbol at or below an address and the displacement from it. -/
  resolve : Address → Option (String × UInt64)

def Host.frames (host : Host) (stack : List Address) : List Frame :=
  stack.map fun address =>
    match host.resolve address with
    | some (symbol, displacement) => .resolved symbol displacement
    | none => .unknown

end FaultTriage
