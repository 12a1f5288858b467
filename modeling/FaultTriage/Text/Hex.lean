/-!
# Hexadecimal text

Addresses, displacements and hash halves are written in hexadecimal.  Reading accepts either letter
case, any number of leading zeros and one leading plus sign, and refuses a number that does not fit
the word it is read for.
-/

set_option autoImplicit false

namespace FaultTriage.Text

def hexValue? (character : Char) : Option Nat :=
  let code := character.toNat
  if 0x30 ≤ code && code ≤ 0x39 then some (code - 0x30)
  else if 0x61 ≤ code && code ≤ 0x66 then some (code - 0x61 + 10)
  else if 0x41 ≤ code && code ≤ 0x46 then some (code - 0x41 + 10)
  else none

/-- The number that the digits denote after the digits already read. -/
def hexNumberFrom? (value : Nat) : List Char → Option Nat
  | [] => some value
  | character :: rest =>
      (hexValue? character).bind fun digit => hexNumberFrom? (16 * value + digit) rest

/--
Reads a hexadecimal number below `bound`.  At least one digit has to stand there; one plus sign in
front of the digits is allowed, a minus sign is not.
-/
def readHex? (bound : Nat) (characters : List Char) : Option Nat :=
  let digits :=
    match characters with
    | '+' :: rest => rest
    | _ => characters
  if digits.isEmpty then
    none
  else
    (hexNumberFrom? 0 digits).filter (· < bound)

def hexDigits (value : Nat) : List Char :=
  Nat.toDigits 16 value

def paddedHexDigits (width value : Nat) : List Char :=
  let digits := hexDigits value
  List.replicate (width - digits.length) '0' ++ digits

/-- Hexadecimal with a leading marker and no padding, as messages write addresses. -/
def hexText (value : Nat) : String :=
  String.ofList ('0' :: 'x' :: hexDigits value)

/-- Hexadecimal with a leading marker and eight digits at least, as bucket labels write halves. -/
def hexWordText (value : Nat) : String :=
  String.ofList ('0' :: 'x' :: paddedHexDigits 8 value)

def dropHexMarker (characters : List Char) : List Char :=
  match characters with
  | '0' :: 'x' :: rest => rest
  | _ => characters

def dropHexMarkers : List Char → List Char
  | '0' :: 'x' :: rest => dropHexMarkers rest
  | characters => characters

def paddedDecimal (width value : Nat) : List Char :=
  let digits := Nat.toDigits 10 value
  List.replicate (width - digits.length) '0' ++ digits

end FaultTriage.Text
