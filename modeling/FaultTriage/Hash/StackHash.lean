import FaultTriage.Hash.Exclusion
import FaultTriage.Hash.Frame
import FaultTriage.Hash.Sha256
import FaultTriage.Text.Lowercase

/-!
# Stack hashes

A stack hash is a pair of 32-bit words.  The major half covers the names of the top frames and
groups crashes by rough location; the minor half covers every frame with its displacement.  Excluded
frames contribute to neither.
-/

set_option autoImplicit false

namespace FaultTriage

inductive HashMode where
  | customV1
  | customV2
  | sha256
deriving DecidableEq, Inhabited

structure UnknownHashMode where
  name : String

def UnknownHashMode.message (unknown : UnknownHashMode) : String :=
  "Unknown hash mode '" ++ unknown.name ++ "' (expected custom_v1, custom_v2 or sha256)"

namespace HashMode

def name : HashMode → String
  | .customV1 => "custom_v1"
  | .customV2 => "custom_v2"
  | .sha256 => "sha256"

def all : List HashMode := [.customV1, .customV2, .sha256]

/-- The hash mode that goes by a name; ASCII case, blanks around it and dashes do not matter. -/
def parse (text : String) : Except UnknownHashMode HashMode :=
  let lowered := Text.asciiLowercase (Text.trim text.toList)
  let name := String.ofList (lowered.map fun letter => if letter = '-' then '_' else letter)
  if name ∈ ["custom_v1", "v1"] then .ok .customV1
  else if name ∈ ["custom_v2", "v2"] then .ok .customV2
  else if name = "sha256" then .ok .sha256
  else .error ⟨name⟩

end HashMode

structure HashedFrame where
  name : String
  displacement : UInt64
  unknown : Bool
  excluded : Bool
deriving DecidableEq

structure HashPair where
  major : UInt32
  minor : UInt32
deriving DecidableEq

/-- The label of a bucket: both halves with eight digits at least, separated by a point. -/
def HashPair.label (pair : HashPair) : String :=
  Text.hexWordText pair.major.toNat ++ "." ++ Text.hexWordText pair.minor.toNat

structure StackHash extends HashPair where
  mode : HashMode
  frames : List HashedFrame
deriving DecidableEq

namespace StackHash

/-- Number of frames that the major half covers. -/
def majorDepth : Nat := 5

def unknownName : String := "Unknown"

def hashedFrame (exclusions : ExclusionList) (frame : Frame) : HashedFrame :=
  let name := frame.symbol.getD unknownName
  { name := name
    displacement := if frame.symbol.isSome then frame.displacement else 0
    unknown := frame.symbol.isNone
    excluded := exclusions.excludes name }

/-! ## First custom hash

Every byte of a name goes into one of the four bytes of the word, in turn.  A displacement goes into
the byte after the last one of its name. -/

/-- The state of the first custom hash. -/
structure LaneState where
  pair : HashPair
  /-- The byte of the word that is next in turn. -/
  lane : UInt32
  counted : Nat

def inLane (lane : UInt32) (byte : UInt8) : UInt32 :=
  byte.toUInt32 <<< (lane * 8)

def LaneState.mixByte (state : LaneState) (byte : UInt8) : LaneState :=
  let placed := inLane state.lane byte
  let pair := state.pair
  { state with
    pair :=
      { major := if state.counted < majorDepth then pair.major ^^^ placed else pair.major
        minor := pair.minor ^^^ placed }
    lane := (state.lane + 1) % 4 }

def laneName (frame : HashedFrame) : List UInt8 :=
  if frame.unknown then Text.bytes frame.name
  else Text.bytes (String.ofList (Text.lowercase frame.name.toList))

/-- The displacement as the first custom hash reads it: its low 32 bits in hexadecimal. -/
def laneDisplacement (frame : HashedFrame) : List UInt8 :=
  Text.bytes (String.ofList ('+' :: Text.hexDigits frame.displacement.toUInt32.toNat))

def LaneState.mixFrame (state : LaneState) (frame : HashedFrame) : LaneState :=
  let named := (laneName frame).foldl mixByte state
  let minor := (laneDisplacement frame).foldl (fun minor byte => minor ^^^ inLane named.lane byte)
    named.pair.minor
  { named with pair := { named.pair with minor := minor }, counted := named.counted + 1 }

def customV1 (frames : List HashedFrame) : HashPair :=
  ((frames.filter (!·.excluded)).foldl LaneState.mixFrame ⟨⟨0, 0⟩, 0, 0⟩).pair

/-! ## Second custom hash

The word is rotated before every byte of a name.  A displacement is weighted by the position of its
frame, excluded frames included. -/

/-- Rotates by five bits to the left and mixes in one byte in lowercase. -/
def rotateMix (word : UInt32) (byte : UInt8) : UInt32 :=
  ((word <<< 5) ||| (word >>> 27)) ^^^ (Glob.lowerByte byte).toUInt32

/-- Mixes in the frames of a stack from the given position on, `counted` of them being so far. -/
def mixFrames (position counted : Nat) (pair : HashPair) : List HashedFrame → HashPair
  | [] => pair
  | frame :: rest =>
      if frame.excluded then
        mixFrames (position + 1) counted pair rest
      else
        let name := Text.bytes frame.name
        let weighted := frame.displacement * UInt64.ofNat (position + 1)
        let mixed : HashPair :=
          { major := if counted < majorDepth then name.foldl rotateMix pair.major else pair.major
            minor := name.foldl rotateMix pair.minor ^^^ weighted.toUInt32 }
        mixFrames (position + 1) (counted + 1) mixed rest

def customV2 (frames : List HashedFrame) : HashPair :=
  mixFrames 0 0 ⟨0, 0⟩ frames

/-! ## Digests -/

def reverseBytes (word : UInt32) : UInt32 :=
  let low : UInt32 := (word >>> 24) ||| ((word >>> 8) &&& (0xFF00 : UInt32))
  let high : UInt32 := ((word <<< 8) &&& (0xFF0000 : UInt32)) ||| (word <<< 24)
  low ||| high

/-- A digest as one word: the exclusive or of its words in reversed byte order. -/
def fold (words : List UInt32) : UInt32 :=
  words.foldl (fun folded word => folded ^^^ reverseBytes word) 0

def digestText (frame : HashedFrame) : List UInt8 :=
  if frame.displacement = 0 then Text.bytes frame.name
  else Text.bytes frame.name ++ Text.bytes ("+" ++ Text.hexText frame.displacement.toNat)

/--
The halves as folded digests.  The major half covers those of the first frames that are not
excluded, so excluded frames count towards its depth.
-/
def sha256 (frames : List HashedFrame) : HashPair :=
  let top := (frames.take majorDepth).filter (!·.excluded)
  let all := frames.filter (!·.excluded)
  { major := fold (Sha256.digest (top.flatMap fun frame => Text.bytes frame.name))
    minor := fold (Sha256.digest (all.flatMap digestText)) }

def pairOf (mode : HashMode) (frames : List HashedFrame) : HashPair :=
  match mode with
  | .customV1 => customV1 frames
  | .customV2 => customV2 frames
  | .sha256 => sha256 frames

def ofFrames (mode : HashMode) (exclusions : ExclusionList) (frames : List Frame) : StackHash :=
  let hashed := frames.map (hashedFrame exclusions)
  { pairOf mode hashed with mode := mode, frames := hashed }

def containsUnknown (hash : StackHash) : Bool :=
  hash.frames.any (·.unknown)

end StackHash

end FaultTriage
