import FaultTriage.Architecture
import FaultTriage.Hash.StackHash

/-!
# Arguments of commands

The small grammars of what is typed after an option: processor flags, the label of a bucket, and the
number of times that more output was asked for.
-/

set_option autoImplicit false

namespace FaultTriage

/-! ## Flags -/

structure UnknownFlag where
  name : String

def UnknownFlag.message (unknown : UnknownFlag) : String :=
  "Unknown flag '" ++ unknown.name ++ "' (expected z, c, v, n, p or a)"

namespace ProcessorFlags

def set (flags : ProcessorFlags) (name : String) : Except UnknownFlag ProcessorFlags :=
  if name ∈ ["z", "zero"] then .ok { flags with zero := true }
  else if name ∈ ["c", "carry"] then .ok { flags with carry := true }
  else if name ∈ ["v", "o", "overflow"] then .ok { flags with overflow := true }
  else if name ∈ ["n", "s", "sign"] then .ok { flags with sign := true }
  else if name ∈ ["p", "parity"] then .ok { flags with parity := true }
  else if name ∈ ["a", "aux"] then .ok { flags with aux := true }
  else .error ⟨name⟩

def entryName (entry : List Char) : String :=
  String.ofList (Text.asciiLowercase (Text.trim entry))

/--
Reads the flags that are set, such as `z,c`.  Nothing and `none` both say that the flags are known
and all of them are clear.
-/
def parse (text : String) : Except UnknownFlag ProcessorFlags :=
  let trimmed := Text.trim text.toList
  if trimmed.isEmpty || Text.asciiLowercase trimmed == "none".toList then
    .ok known
  else
    (Text.splitAt ',' trimmed).foldlM (fun flags entry => flags.set (entryName entry)) known

end ProcessorFlags

/-! ## Buckets -/

inductive BucketError where
  | noPoint (text : String)
  | invalidHalf (text : String)
deriving DecidableEq

def BucketError.message : BucketError → String
  | .noPoint text => "Bucket '" ++ text ++ "' must be MAJOR.MINOR"
  | .invalidHalf text => "Invalid bucket '" ++ text ++ "'"

namespace HashPair

def halfBound : Nat := UInt32.size

/-- Reads one half; blanks around it and any number of leading `0x` are ignored. -/
def half? (characters : List Char) : Option UInt32 :=
  (Text.readHex? halfBound (Text.dropHexMarkers (Text.trim characters))).map UInt32.ofNat

/-- Reads the label of a bucket such as `0x1234abcd.0x0badf00d`; the first point divides it. -/
def parse (text : String) : Except BucketError HashPair :=
  match Text.splitFirst? '.' text.toList with
  | none => .error (.noPoint text)
  | some (first, second) =>
      match half? first, half? second with
      | some major, some minor => .ok ⟨major, minor⟩
      | _, _ => .error (.invalidHalf text)

end HashPair

/-! ## Verbosity -/

inductive LogLevel where
  | warn
  | info
  | debug
  | trace
deriving DecidableEq

namespace LogLevel

def name : LogLevel → String
  | .warn => "WARN"
  | .info => "INFO"
  | .debug => "DEBUG"
  | .trace => "TRACE"

def ofVerbosity : Nat → LogLevel
  | 0 => .warn
  | 1 => .info
  | 2 => .debug
  | _ => .trace

end LogLevel

end FaultTriage
