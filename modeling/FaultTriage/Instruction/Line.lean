import FaultTriage.Text.Bytes
import FaultTriage.Text.Blank
import FaultTriage.Text.Lowercase

/-!
# Lines of disassembly

A line keeps its whole text and says where in it the address, the opcode bytes, the mnemonic and the
arguments stand.  Positions are byte offsets.
-/

set_option autoImplicit false

namespace FaultTriage

/-- A range of bytes of a text, from `start`, included, to `stop`, excluded. -/
structure TextSpan where
  start : Nat
  stop : Nat
deriving DecidableEq, Inhabited

def TextSpan.isEmpty (span : TextSpan) : Bool :=
  span.stop ≤ span.start

structure Line where
  text : String
  addressSpan : TextSpan
  opcodeSpan : TextSpan
  mnemonicSpan : TextSpan
  argumentsSpan : TextSpan
deriving DecidableEq

namespace Line

/-- The characters of a span, or none at all when the span does not fit the text. -/
def slice (line : Line) (span : TextSpan) : List Char :=
  (Text.slice? span.start span.stop line.text.toList).getD []

def addressField (line : Line) : List Char := line.slice line.addressSpan

def opcode (line : Line) : List Char := line.slice line.opcodeSpan

/-- The mnemonic field with the words in front of it, as in `lock cmpxchg`. -/
def mnemonic (line : Line) : List Char := line.slice line.mnemonicSpan

def arguments (line : Line) : List Char := line.slice line.argumentsSpan

/-- The last word of the mnemonic field, which is what the tables are searched for. -/
def rootMnemonic (line : Line) : List Char :=
  (line.mnemonic.reverse.takeWhile fun character => !Text.isAsciiBlank character).reverse

/-- A line that has only a mnemonic and arguments, with ASCII letters in lowercase. -/
def bare (mnemonic arguments : List Char) : Line :=
  let mnemonic := Text.asciiLowercase mnemonic
  let arguments := Text.asciiLowercase arguments
  let text := if arguments.isEmpty then mnemonic else mnemonic ++ ' ' :: arguments
  let length := Text.byteLength text
  { text := String.ofList text
    addressSpan := ⟨0, 0⟩
    opcodeSpan := ⟨0, 0⟩
    mnemonicSpan := ⟨0, Text.byteLength mnemonic⟩
    argumentsSpan := ⟨min (Text.byteLength mnemonic + 1) length, length⟩ }

end Line

end FaultTriage
