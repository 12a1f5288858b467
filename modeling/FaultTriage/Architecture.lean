import FaultTriage.Text.Lowercase

/-!
# Architectures and processor flags

The context in which a line of disassembly is understood: the instruction set it belongs to, and
what is known about the processor flags when it executes.
-/

set_option autoImplicit false

namespace FaultTriage

/-- Instruction set of a block.  Thumb lines have the shape of ARM lines and count as such. -/
inductive Architecture where
  | x86
  | x64
  | arm
deriving DecidableEq, Inhabited

namespace Architecture

def name : Architecture → String
  | .x86 => "x86"
  | .x64 => "x64"
  | .arm => "arm"

def all : List Architecture := [.x86, .x64, .arm]

def allowsMemoryStackOperands : Architecture → Bool
  | .x86 | .x64 => true
  | .arm => false

def allowsMultipleStackOperands : Architecture → Bool
  | .arm => true
  | .x86 | .x64 => false

structure Unknown where
  name : String

def Unknown.message (unknown : Unknown) : String :=
  "unknown architecture '" ++ unknown.name ++ "'"

def parse (text : String) : Except Unknown Architecture :=
  let name := Text.asciiLowercaseText text
  if name ∈ ["x86", "i386"] then .ok .x86
  else if name ∈ ["x64", "amd64", "x86_64"] then .ok .x64
  else if name ∈ ["arm", "thumb", "armv7"] then .ok .arm
  else .error ⟨name⟩

end Architecture

/--
Processor flags at the start of a block.  When `valid` is false the flags register was not available
and the other fields carry no meaning.
-/
structure ProcessorFlags where
  valid : Bool
  zero : Bool
  carry : Bool
  overflow : Bool
  sign : Bool
  parity : Bool
  aux : Bool
deriving DecidableEq

namespace ProcessorFlags

def unknown : ProcessorFlags := ⟨false, false, false, false, false, false, false⟩

def known : ProcessorFlags := { unknown with valid := true }

instance : Inhabited ProcessorFlags := ⟨unknown⟩

end ProcessorFlags

end FaultTriage
