/-!
# Blanks, words and lines

Two notions of blank meet in a disassembly line.  Fields are separated by the five ASCII blanks;
trimming and splitting into words use every Unicode white-space character.
-/

set_option autoImplicit false

namespace FaultTriage.Text

def isBlank (character : Char) : Bool :=
  let code := character.toNat
  (0x09 ≤ code && code ≤ 0x0D) || code == 0x20 || code == 0x85 || code == 0xA0 || code == 0x1680
    || (0x2000 ≤ code && code ≤ 0x200A) || code == 0x2028 || code == 0x2029 || code == 0x202F
    || code == 0x205F || code == 0x3000

/-- Space, tab, line feed, form feed and carriage return; the vertical tab is not one of them. -/
def isAsciiBlank (character : Char) : Bool :=
  character == ' ' || character == '\t' || character == '\n' || character == '\x0c'
    || character == '\r'

def trimStart (characters : List Char) : List Char :=
  characters.dropWhile isBlank

def trimEnd (characters : List Char) : List Char :=
  (characters.reverse.dropWhile isBlank).reverse

def trim (characters : List Char) : List Char :=
  trimEnd (trimStart characters)

/-- The first word: what stands before the first blank once leading blanks are gone. -/
def firstWord (characters : List Char) : List Char :=
  (trimStart characters).takeWhile fun character => !isBlank character

/--
Splits at every occurrence of a separator.  The parts hold no separator, and there is one part more
than there are separators.
-/
def splitAt {Symbol : Type} [DecidableEq Symbol] (separator : Symbol) :
    List Symbol → List (List Symbol)
  | [] => [[]]
  | symbol :: rest =>
      match splitAt separator rest with
      | [] => [[symbol]]
      | part :: parts =>
          if symbol = separator then [] :: part :: parts else (symbol :: part) :: parts

def splitFirst? (separator : Char) : List Char → Option (List Char × List Char)
  | [] => none
  | character :: rest =>
      if character = separator then
        some ([], rest)
      else
        (splitFirst? separator rest).map fun parts => (character :: parts.1, parts.2)

def splitLast? (separator : Char) : List Char → Option (List Char × List Char)
  | [] => none
  | character :: rest =>
      match splitLast? separator rest with
      | some parts => some (character :: parts.1, parts.2)
      | none => if character = separator then some ([], rest) else none

def dropReturn (line : List Char) : List Char :=
  match line.reverse with
  | '\r' :: rest => rest.reverse
  | _ => line

/--
The lines of a text.  A line ends at a line feed, which may follow a carriage return; the text after
the last line feed is a line only if it is not empty, and then keeps its carriage return.
-/
def lines (characters : List Char) : List (List Char) :=
  let parts := splitAt '\n' characters
  let ended := parts.dropLast.map dropReturn
  match parts.getLast? with
  | some [] => ended
  | some last => ended ++ [last]
  | none => ended

def stripStart? : List Char → List Char → Option (List Char)
  | [], characters => some characters
  | _ :: _, [] => none
  | expected :: start, character :: rest =>
      if expected = character then stripStart? start rest else none

def stripLast? (last : Char) (characters : List Char) : Option (List Char) :=
  match characters.reverse with
  | [] => none
  | character :: rest => if character = last then some rest.reverse else none

def containsRun (run : List Char) : List Char → Bool
  | [] => run.isEmpty
  | character :: rest => run.isPrefixOf (character :: rest) || containsRun run rest

theorem stripStart?_append (start rest : List Char) :
    stripStart? start (start ++ rest) = some rest := by
  induction start with
  | nil => cases rest <;> rfl
  | cons expected start ih => simp [stripStart?, ih]

theorem stripStart?_eq_some_iff (start characters rest : List Char) :
    stripStart? start characters = some rest ↔ characters = start ++ rest := by
  constructor
  · intro found
    induction start generalizing characters with
    | nil =>
        cases characters <;> simpa [stripStart?] using found
    | cons expected start ih =>
        cases characters with
        | nil => simp [stripStart?] at found
        | cons character tail =>
            by_cases same : expected = character
            · simp only [stripStart?, same, if_true] at found
              simp [ih tail found, same]
            · simp [stripStart?, same] at found
  · rintro rfl
    exact stripStart?_append start rest

end FaultTriage.Text
