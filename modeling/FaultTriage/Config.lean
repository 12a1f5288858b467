import FaultTriage.Architecture
import FaultTriage.Hash.StackHash

/-!
# Analysis configuration

The settings of an analysis.  Every entry point takes them explicitly.
-/

set_option autoImplicit false

namespace FaultTriage

structure AnalysisConfig where
  architecture : Architecture
  /-- Whether registers that point to the destination of the fault are tainted from the start. -/
  taintDestinationPointers : Bool
  /-- The processor flags at the faulting instruction. -/
  flags : ProcessorFlags
  maxBlockInstructions : UInt64
  hashMode : HashMode
  /-- Patterns that are excluded from stack hashes besides the built-in ones. -/
  excludedSymbols : List String
deriving DecidableEq

namespace AnalysisConfig

def standard : AnalysisConfig :=
  { architecture := .x86
    taintDestinationPointers := false
    flags := .unknown
    maxBlockInstructions := 64
    hashMode := .sha256
    excludedSymbols := [] }

instance : Inhabited AnalysisConfig := ⟨standard⟩

def hashFrames (config : AnalysisConfig) (frames : List Frame) : StackHash :=
  .ofFrames config.hashMode ⟨config.excludedSymbols⟩ frames

end AnalysisConfig

end FaultTriage
