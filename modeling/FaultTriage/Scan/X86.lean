import FaultTriage.Scan.Basic

/-!
# Operands of x86 and x64 text

A reference to the frame or the stack pointer with an offset, such as `[ebp-8]`, becomes one operand
of its own beside the registers in it.
-/

set_option autoImplicit false

namespace FaultTriage.Scan.X86

def delimiters : List Char := ['[', ']', ',', ' ', ':', '+', '-', '*']

def markers : List Char := [',', ' ', ':', '+', '-', '*']

structure State where
  inSource : Bool
  indirect : Bool
  /-- The text of a memory expression since the pointer that started it. -/
  captured : Option (List Char)
  operands : Operands

def State.cross (shape : OperandShape) (delimiter : Option Char) (state : State) : State :=
  match delimiter with
  | some ',' => { state with inSource := sideAfterComma shape }
  | some '[' => { state with indirect := true }
  | some ']' => { state with indirect := false }
  | _ => state

/-- Whether a register starts a captured expression: a pointer in brackets with an offset. -/
def startsCapture (indirect : Bool) (token : Token) : Bool :=
  indirect && token.word.getLast? == some 'p'
    && (token.delimiter == some '+' || token.delimiter == some '-')

/--
Takes in one token.  The side and the brackets that count for its word are those before its
delimiter.  A closing bracket ends a captured expression; a word before a colon is passed over.
-/
def step (architecture : Architecture) (shape : OperandShape) (state : State) (token : Token) :
    State :=
  let crossed := state.cross shape token.delimiter
  let continued := { crossed with captured := state.captured.map (· ++ token.text) }
  match token.delimiter, state.captured with
  | some ']', some captured =>
      { crossed with
        captured := none
        operands :=
          fileCompound shape markers state.inSource (captured ++ token.word) state.operands }
  | some ':', _ => continued
  | _, _ =>
      match roleOf architecture token.word with
      | .passed => continued
      | .interrupting => { crossed with captured := none }
      | .register =>
          { crossed with
            captured :=
              if startsCapture crossed.indirect token && state.captured.isNone then
                some token.text
              else
                none
            operands :=
              file shape state.inSource state.indirect [String.ofList token.word] state.operands }

def readFrom (architecture : Architecture) (shape : OperandShape) (inSource : Bool)
    (operands : Operands) (text : List Char) : Operands :=
  ((tokens delimiters.contains text).foldl (step architecture shape)
    ⟨inSource, false, none, operands⟩).operands

def operands (architecture : Architecture) (row : TableRow) (text : List Char) : Operands :=
  if row.shape.isEmpty then
    implied row
  else
    readFrom architecture row.shape (initialSide row.shape) (implied row) text

end FaultTriage.Scan.X86
