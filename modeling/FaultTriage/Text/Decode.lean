/-!
# Text from bytes

Files are bytes.  Decoding reads them as UTF-8 and keeps a place for every byte that is no part of a
character, so that a reader can decide itself whether such a place matters.
-/

set_option autoImplicit false

namespace FaultTriage.Text

def charOf? (code : Nat) : Option Char :=
  if code.isValidChar then some (Char.ofNat code) else none

def continuation? (byte : UInt8) : Option Nat :=
  if 0x80 ≤ byte && byte ≤ 0xBF then some (byte.toNat - 0x80) else none

/-- The character that starts a sequence of bytes and the number of bytes it takes. -/
def leadingChar? (sequence : List UInt8) : Option (Char × Nat) :=
  match sequence with
  | [] => none
  | first :: rest =>
      let lead := first.toNat
      if lead < 0x80 then
        (charOf? lead).map (·, 1)
      else if 0xC2 ≤ lead && lead ≤ 0xDF then
        match rest with
        | second :: _ => do
            let middle ← continuation? second
            (charOf? ((lead - 0xC0) * 0x40 + middle)).map (·, 2)
        | _ => none
      else if 0xE0 ≤ lead && lead ≤ 0xEF then
        match rest with
        | second :: third :: _ => do
            let code := ((lead - 0xE0) * 0x40 + (← continuation? second)) * 0x40
              + (← continuation? third)
            if 0x800 ≤ code then (charOf? code).map (·, 3) else none
        | _ => none
      else if 0xF0 ≤ lead && lead ≤ 0xF4 then
        match rest with
        | second :: third :: fourth :: _ => do
            let code := (((lead - 0xF0) * 0x40 + (← continuation? second)) * 0x40
              + (← continuation? third)) * 0x40 + (← continuation? fourth)
            if 0x10000 ≤ code then (charOf? code).map (·, 4) else none
        | _ => none
      else
        none

/-- Decodes bytes after skipping some that belong to a character already decoded. -/
def decodeFrom (skipped : Nat) : List UInt8 → List (Option Char)
  | [] => []
  | byte :: rest =>
      match skipped with
      | remaining + 1 => decodeFrom remaining rest
      | 0 =>
          match leadingChar? (byte :: rest) with
          | some (character, width) => some character :: decodeFrom (width - 1) rest
          | none => none :: decodeFrom 0 rest

/-- The characters of a sequence of bytes, with a gap for every byte that is no part of one. -/
def decode (sequence : List UInt8) : List (Option Char) :=
  decodeFrom 0 sequence

def decodeAll? (sequence : List UInt8) : Option (List Char) :=
  (decode sequence).mapM id

end FaultTriage.Text
