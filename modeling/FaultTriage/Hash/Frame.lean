import FaultTriage.Address

/-!
# Stack frames

A frame is a symbol and a displacement from it, or unknown.  It is written `module!symbol+0x1a`,
without the displacement when that is zero, or `?`.
-/

set_option autoImplicit false

namespace FaultTriage

/-- One stack frame; there is no symbol when none was found for its address. -/
structure Frame where
  symbol : Option String
  displacement : UInt64
deriving DecidableEq

structure InvalidFrame where
  text : String

def InvalidFrame.message (invalid : InvalidFrame) : String :=
  "Invalid frame '" ++ invalid.text ++ "' (expected module!symbol+0xdisp or ?)"

namespace Frame

def resolved (symbol : String) (displacement : UInt64) : Frame := ⟨some symbol, displacement⟩

def unknown : Frame := ⟨none, 0⟩

def ofTrimmed? (line : List Char) : Option Frame :=
  if line = ['?'] then
    some unknown
  else if line.isEmpty || line.any Text.isBlank then
    none
  else
    match Text.splitLast? '+' line with
    | none => some (resolved (String.ofList line) 0)
    | some (name, digits) =>
        if name.isEmpty then
          none
        else
          (Text.readHex? Address.bound (Text.dropHexMarker digits)).map fun displacement =>
            resolved (String.ofList name) (UInt64.ofNat displacement)

def parse (text : String) : Except InvalidFrame Frame :=
  match ofTrimmed? (Text.trim text.toList) with
  | some frame => .ok frame
  | none => .error ⟨text⟩

/-- A frame as it is written; the displacement of an unknown frame is not shown. -/
def render (frame : Frame) : String :=
  match frame.symbol with
  | none => "?"
  | some symbol =>
      if frame.displacement = 0 then symbol
      else symbol ++ "+" ++ Text.hexText frame.displacement.toNat

end Frame

end FaultTriage
