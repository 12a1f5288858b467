import FaultTriage.Instruction.Operands
import FaultTriage.Register.Catalogue
import FaultTriage.Table.Row

/-!
# Reading operands from argument text

Argument text is cut into words at delimiters.  A comma switches between the source and the
destination side, brackets enclose a memory reference, and a memory reference relative to a pointer
is captured as one operand.  This module holds what the readers of all architectures share.
-/

set_option autoImplicit false

namespace FaultTriage.Scan

/-- A word of argument text and the delimiter that ends it; the last word may have none. -/
structure Token where
  word : List Char
  delimiter : Option Char
deriving DecidableEq

def Token.text (token : Token) : List Char :=
  token.word ++ token.delimiter.toList

/-- Cuts text into tokens.  Text that ends with a delimiter has no further, empty word. -/
def tokens (isDelimiter : Char → Bool) : List Char → List Token
  | [] => []
  | character :: rest =>
      if isDelimiter character then
        ⟨[], some character⟩ :: tokens isDelimiter rest
      else
        match tokens isDelimiter rest with
        | [] => [⟨[character], none⟩]
        | token :: more => { token with word := character :: token.word } :: more

inductive WordRole where
  /-- Nothing: an empty word, a number or an unknown name. -/
  | passed
  /-- A size word or a parenthesis, after which no memory expression is captured. -/
  | interrupting
  | register
deriving DecidableEq

def roleOf (architecture : Architecture) (word : List Char) : WordRole :=
  match word with
  | [] => .passed
  | first :: _ =>
      let name := String.ofList word
      if (Register.sizeWords architecture).contains name then .interrupting
      else if first.isDigit then .passed
      else if first = '(' then .interrupting
      else if Register.isRegister architecture name then .register
      else .passed

def initialSide (shape : OperandShape) : Bool :=
  !shape.hasDestination || shape.reversed

def sideAfterComma (shape : OperandShape) : Bool :=
  if shape.reversed then !shape.hasDestination else shape.hasSource

/--
Files registers.  On the source side they are sources.  On the destination side they are written,
or point to what is written, unless the destination is unaffected; and they are sources as well when
the destination is one.
-/
def file (shape : OperandShape) (inSource indirect : Bool) (names : List Operand)
    (operands : Operands) : Operands :=
  let filed :=
    if inSource then
      operands.addSources names
    else
      let written :=
        if shape.destinationUnaffected then operands
        else if indirect || !shape.destinationRegister then operands.addDestinationPointers names
        else operands.addDestinations names
      if shape.destinationIsSource then written.addSources names else written
  filed.addExplicit names

/--
Files a captured memory expression.  It is a source or a destination like a register, and a compound
operand when it holds one of the markers.
-/
def fileCompound (shape : OperandShape) (markers : List Char) (inSource : Bool)
    (expression : List Char) (operands : Operands) : Operands :=
  let name := String.ofList expression
  let filed :=
    if inSource then
      operands.addSources [name]
    else
      let written :=
        if shape.destinationUnaffected then operands else operands.addDestinations [name]
      if shape.destinationIsSource then written.addSources [name] else written
  let named := filed.addExplicit [name]
  if expression.any markers.contains then named.addCompound [name] else named

/-- The operands that a row implies without any argument text. -/
def implied (row : TableRow) : Operands :=
  { (∅ : Operands) with
    source := OperandSet.ofList row.reads
    destination := OperandSet.ofList row.writes
    destinationPointer := OperandSet.ofList row.writesThrough
    passedOrReturned := OperandSet.ofList row.passes }

theorem text_tokens (isDelimiter : Char → Bool) (characters : List Char) :
    (tokens isDelimiter characters).flatMap Token.text = characters := by
  induction characters with
  | nil => rfl
  | cons character rest ih =>
      simp only [tokens]
      split
      · simpa [Token.text] using ih
      · split
        · rename_i none
          rw [none] at ih
          simp at ih
          simp [Token.text, ← ih]
        · rename_i token more found
          rw [found] at ih
          simpa [Token.text] using ih

end FaultTriage.Scan
