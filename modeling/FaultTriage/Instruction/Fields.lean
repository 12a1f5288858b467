import FaultTriage.Instruction.Line

/-!
# Fields of a line

A debugger prints an instruction as address, opcode bytes, mnemonic and arguments, with runs of
ASCII blanks between them.  A line is split into these fields and the blanks between them, so that
joining the pieces gives the line back.
-/

set_option autoImplicit false

namespace FaultTriage

namespace Fields

/--
Reads one field after the characters `soFar` of it.  A blank ends the field unless the text up to
it is one of the attached words: then the whole run of blanks belongs to the field and reading goes
on.  While `absorbing`, a run of blanks is being taken in.
-/
def readField (attached : List (List Char)) (absorbing : Bool) (soFar : List Char) :
    List Char → List Char × List Char
  | [] => (soFar, [])
  | character :: rest =>
      if Text.isAsciiBlank character then
        if absorbing || attached.contains soFar then
          readField attached true (soFar ++ [character]) rest
        else
          (soFar, character :: rest)
      else
        readField attached false (soFar ++ [character]) rest

structure Next where
  field : List Char
  gap : List Char
  rest : List Char

def next (attached : List (List Char)) (characters : List Char) : Next :=
  let split := readField attached false [] characters
  ⟨split.1, split.2.takeWhile Text.isAsciiBlank, split.2.dropWhile Text.isAsciiBlank⟩

/--
Reads one field from a byte offset on: the span of the field, and the offset of what follows the
blanks after it.  At or past the end of the text the field is empty.  Inside a character the field
starts with the bytes that remain of it, and so starts with no attached word.
-/
def nextAt (attached : List (List Char)) (text : List Char) (start : Nat) : TextSpan × Nat :=
  let (remainder, characters) := Text.resume start text
  let found := next (if remainder = 0 then attached else []) characters
  let stop := start + remainder + Text.byteLength found.field
  (⟨start, stop⟩, stop + Text.byteLength found.gap)

end Fields

/-- The pieces of a line: its fields and the blanks around them, in order. -/
structure Fields where
  indent : List Char
  address : List Char
  addressGap : List Char
  opcode : List Char
  opcodeGap : List Char
  mnemonic : List Char
  mnemonicGap : List Char
  arguments : List Char
deriving DecidableEq

namespace Fields

def join (fields : Fields) : List Char :=
  fields.indent ++ (fields.address ++ (fields.addressGap ++ (fields.opcode ++ (fields.opcodeGap ++
    (fields.mnemonic ++ (fields.mnemonicGap ++ fields.arguments))))))

/--
Splits a line without its trailing blanks.  There is no result when the address, the opcode or the
mnemonic is missing.
-/
def split? (attached : List (List Char)) (text : List Char) : Option Fields :=
  let line := Text.trimEnd text
  let address := next [] (line.dropWhile Text.isAsciiBlank)
  let opcode := next [] address.rest
  let mnemonic := next attached opcode.rest
  if address.field.isEmpty || opcode.field.isEmpty || mnemonic.field.isEmpty then
    none
  else
    some
      { indent := line.takeWhile Text.isAsciiBlank
        address := address.field
        addressGap := address.gap
        opcode := opcode.field
        opcodeGap := opcode.gap
        mnemonic := mnemonic.field
        mnemonicGap := mnemonic.gap
        arguments := mnemonic.rest }

def spanAfter (before : Nat) (piece : List Char) : TextSpan :=
  ⟨before, before + Text.byteLength piece⟩

def addressSpan (fields : Fields) : TextSpan :=
  spanAfter (Text.byteLength fields.indent) fields.address

def opcodeSpan (fields : Fields) : TextSpan :=
  spanAfter (fields.addressSpan.stop + Text.byteLength fields.addressGap) fields.opcode

def mnemonicSpan (fields : Fields) : TextSpan :=
  spanAfter (fields.opcodeSpan.stop + Text.byteLength fields.opcodeGap) fields.mnemonic

def argumentsSpan (fields : Fields) : TextSpan :=
  spanAfter (fields.mnemonicSpan.stop + Text.byteLength fields.mnemonicGap) fields.arguments

def toLine (fields : Fields) (text : List Char) : Line :=
  { text := String.ofList text
    addressSpan := fields.addressSpan
    opcodeSpan := fields.opcodeSpan
    mnemonicSpan := fields.mnemonicSpan
    argumentsSpan := fields.argumentsSpan }

/-! ## Nothing is lost -/

theorem readField_append (attached : List (List Char)) (absorbing : Bool)
    (soFar characters : List Char) :
    (readField attached absorbing soFar characters).1
      ++ (readField attached absorbing soFar characters).2 = soFar ++ characters := by
  induction characters generalizing absorbing soFar with
  | nil => simp [readField]
  | cons character rest ih =>
      simp only [readField]
      split
      · split
        · rw [ih]; simp
        · rfl
      · rw [ih]; simp

theorem next_append (attached : List (List Char)) (characters : List Char) :
    (next attached characters).field
      ++ ((next attached characters).gap ++ (next attached characters).rest) = characters := by
  simp only [next, List.takeWhile_append_dropWhile]
  simpa using readField_append attached false [] characters

theorem join_of_split? {attached : List (List Char)} {text : List Char} {fields : Fields}
    (found : split? attached text = some fields) : fields.join = Text.trimEnd text := by
  simp only [split?] at found
  split at found
  · exact absurd found (by simp)
  · simp only [Option.some.injEq] at found
    subst found
    simp only [join, next_append, List.takeWhile_append_dropWhile]

end Fields

end FaultTriage
