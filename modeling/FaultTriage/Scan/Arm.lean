import FaultTriage.Scan.Basic

/-!
# Operands of ARM text

Braces enclose a list of registers in which a dash makes a range.  Commas inside a list separate
registers and not operands.  Any register that opens a memory reference starts a captured
expression.
-/

set_option autoImplicit false

namespace FaultTriage.Scan.Arm

def delimiters : List Char := ['\x7b', '\x7d', '[', ']', ',', ' ', '-', '+', '#', '!']

/-- The characters that make a captured expression a compound operand. -/
def markers : List Char := [',', ' ', '#', '+', '-']

structure State where
  inSource : Bool
  indirect : Bool
  inList : Bool
  operandsFound : Nat
  /-- The text of a memory expression since the register that started it. -/
  captured : Option (List Char)
  /-- The first register of a range whose last one is yet to come. -/
  rangeStart : Option (List Char)
  operands : Operands

def initialOperands (shape : OperandShape) : Nat :=
  if shape.dualInitial then 2 else 1

/--
Moves to the other side after the comma that ends the initial operands, in or out of brackets and
braces, and remembers the start of a range.
-/
def State.cross (shape : OperandShape) (token : Token) (state : State) : State :=
  match token.delimiter with
  | some ',' =>
      if state.inList then
        state
      else
        let found := state.operandsFound + 1
        { state with
          operandsFound := found
          inSource :=
            if found = initialOperands shape then sideAfterComma shape else state.inSource }
  | some '\x7b' => { state with inList := true }
  | some '\x7d' => { state with inList := false }
  | some '[' => { state with indirect := true }
  | some ']' => { state with indirect := false }
  | some '-' => if state.inList then { state with rangeStart := some token.word } else state
  | _ => state

/-- The registers that a word stands for: itself, or what it adds to a range that it ends. -/
def named (rangeStart : Option (List Char)) (word : List Char) : List Operand :=
  match rangeStart with
  | some first => Register.rangeAfter (String.ofList first) (String.ofList word)
  | none => [String.ofList word]

/--
Takes in one token.  The side and the brackets that count for its word are those before its
delimiter.  A closing bracket ends a captured expression; a word before a dash outside a list is
passed over.
-/
def step (shape : OperandShape) (state : State) (token : Token) : State :=
  let crossed := state.cross shape token
  let continued := { crossed with captured := state.captured.map (· ++ token.text) }
  match token.delimiter, state.captured with
  | some ']', some captured =>
      { crossed with
        captured := none
        operands :=
          fileCompound shape markers state.inSource (captured ++ token.word) state.operands }
  | delimiter, _ =>
      if delimiter = some '-' ∧ state.inList = false then
        continued
      else
        match roleOf .arm token.word with
        | .passed => continued
        | .interrupting => { crossed with captured := none }
        | .register =>
            { crossed with
              captured :=
                if crossed.indirect && state.captured.isNone then some token.text
                else continued.captured
              rangeStart := if state.rangeStart.isSome then none else crossed.rangeStart
              operands :=
                file shape state.inSource state.indirect (named state.rangeStart token.word)
                  state.operands }

def readFrom (shape : OperandShape) (inSource : Bool) (operands : Operands) (text : List Char) :
    Operands :=
  ((tokens delimiters.contains text).foldl (step shape)
    ⟨inSource, false, false, 0, none, none, operands⟩).operands

def operands (row : TableRow) (text : List Char) : Operands :=
  if row.shape.isEmpty then
    implied row
  else
    readFrom row.shape (initialSide row.shape) (implied row) text

end FaultTriage.Scan.Arm
