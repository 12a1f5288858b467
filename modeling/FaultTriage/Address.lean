import FaultTriage.Text.Blank
import FaultTriage.Text.Hex

/-!
# Addresses

Addresses are 64-bit words.  Debuggers write them in hexadecimal and may put a grave accent between
the two halves; both the field of a listing line and an argument of a command are read here.
-/

set_option autoImplicit false

namespace FaultTriage

abbrev Address := UInt64

namespace Address

def bound : Nat := UInt64.size

/-- The mark that debuggers put between the halves of a long address. -/
def halfMark : Char := '\x60'

/-- Reads the digits of an address once the marks between halves and one leading `0x` are gone. -/
def ofDigits? (characters : List Char) : Option Address :=
  let digits := Text.dropHexMarker (characters.filter (· != halfMark))
  (Text.readHex? bound digits).map UInt64.ofNat

def parse? (field : List Char) : Option Address :=
  ofDigits? field

structure Invalid where
  text : String

def Invalid.message (invalid : Invalid) : String :=
  "Invalid address '" ++ invalid.text ++ "'"

/-- Reads an address given as an argument, with blanks around it allowed. -/
def parseArgument (text : String) : Except Invalid Address :=
  match ofDigits? (Text.trim text.toList) with
  | some address => .ok address
  | none => .error ⟨text⟩

def render (address : Address) : String :=
  Text.hexText address.toNat

end Address

end FaultTriage
