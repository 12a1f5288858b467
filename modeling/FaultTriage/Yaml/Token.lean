/-!
# Tokens of YAML text

Between text and values stand tokens: scalars, indicators, and the starts and ends that the layout
of lines implies.  Characters are told apart here by their role in the layout.
-/

set_option autoImplicit false

namespace FaultTriage.Yaml

inductive Token where
  | scalar (text : String) (plain : Bool)
  | blockSequence
  | blockMapping
  | blockEnd
  | openSequence
  | closeSequence
  | openMapping
  | closeMapping
  | dash
  | comma
  | key
  | value
  | documentStart
  | documentEnd
deriving DecidableEq

/-- A place in a text: its line, its column in that line, and its distance from the start. -/
structure Mark where
  line : Nat
  column : Nat
  index : Nat
deriving DecidableEq

def Mark.start : Mark := ⟨0, 0, 0⟩

def Mark.forward (mark : Mark) (characters : Nat) : Mark :=
  { mark with column := mark.column + characters, index := mark.index + characters }

def Mark.nextLine (mark : Mark) (characters : Nat) : Mark :=
  ⟨mark.line + 1, 0, mark.index + characters⟩

def isSpace (character : Char) : Bool :=
  character = ' ' || character = '\t'

def isBreak (character : Char) : Bool :=
  character = '\n' || character = '\r' || character = '\u0085' || character = '\u2028'
    || character = '\u2029'

/-- The character that stands for a line end in a scalar: all ends but two are line feeds. -/
def breakValue (character : Char) : Char :=
  if character = '\u2028' || character = '\u2029' then character else '\n'

def isGap (character : Char) : Bool :=
  isSpace character || isBreak character

/-- Whether what follows starts with a blank, a line end, or not at all. -/
def gapFollows (rest : List Char) : Bool :=
  rest.head?.all isGap

def isFlowIndicator (character : Char) : Bool :=
  [',', '[', ']', '\x7b', '\x7d'].contains character

def documentMark? : List Char → Option Token
  | '-' :: '-' :: '-' :: rest => if gapFollows rest then some .documentStart else none
  | '.' :: '.' :: '.' :: rest => if gapFollows rest then some .documentEnd else none
  | _ => none

def isPermitted (character : Char) : Bool :=
  let code := character.toNat
  code = 0x09 || code = 0x0A || code = 0x0D || (0x20 ≤ code && code ≤ 0x7E) || code = 0x85
    || (0xA0 ≤ code && code ≤ 0xFFFD) || 0x10000 ≤ code

end FaultTriage.Yaml
