import FaultTriage.Text.Lowercase.Mapping
import FaultTriage.Text.Lowercase.Context

/-!
# Lowercase text

Disassembly text is normalised to lowercase by the rules of Unicode; names of registers, modes and
flags are compared by ASCII letter case only.
-/

set_option autoImplicit false

namespace FaultTriage.Text

def asciiLower (character : Char) : Char :=
  if 0x41 ≤ character.toNat && character.toNat ≤ 0x5A then
    Char.ofNat (character.toNat + 0x20)
  else
    character

def asciiLowercase (characters : List Char) : List Char :=
  characters.map asciiLower

def asciiLowercaseText (text : String) : String :=
  String.ofList (asciiLowercase text.toList)

namespace Lowercase

/--
The lowercase form of one character between its neighbours: `before` holds the characters in front
of it, nearest first.  A capital sigma that ends a word takes its final form, and the capital I with
a dot above becomes two characters.
-/
def lowered (before : List Char) (character : Char) (after : List Char) : List Char :=
  if character.toNat < 0x80 then
    [asciiLower character]
  else if character.toNat = 0x3A3 then
    if meetsCased before && !meetsCased after then ['ς'] else ['σ']
  else if character.toNat = 0x130 then
    ['i', '\u0307']
  else
    [Char.ofNat (counterpart character.toNat)]

/-- Lowercases the characters that follow those of `before`, which stand nearest first. -/
def loweredFrom (before : List Char) : List Char → List Char
  | [] => []
  | character :: after => lowered before character after ++ loweredFrom (character :: before) after

end Lowercase

def lowercase (characters : List Char) : List Char :=
  Lowercase.loweredFrom [] characters

theorem Lowercase.loweredFrom_of_ascii (before characters : List Char)
    (ascii : ∀ character ∈ characters, character.toNat < 0x80) :
    Lowercase.loweredFrom before characters = asciiLowercase characters := by
  induction characters generalizing before with
  | nil => rfl
  | cons character after ih =>
      have small := ascii character (by simp)
      have rest := ih (character :: before) fun other member => ascii other (by simp [member])
      simp [Lowercase.loweredFrom, Lowercase.lowered, small, rest, asciiLowercase]

theorem lowercase_of_ascii (characters : List Char)
    (ascii : ∀ character ∈ characters, character.toNat < 0x80) :
    lowercase characters = asciiLowercase characters :=
  Lowercase.loweredFrom_of_ascii [] characters ascii

end FaultTriage.Text
