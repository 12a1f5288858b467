import FaultTriage.Json
import FaultTriage.Text.Decode
import FaultTriage.Text.Hex

/-!
# Reading JSON

Reading takes two passes, each of which walks its input once: characters are gathered into tokens,
and tokens into a value.  A place of the input that holds no character is allowed inside a string
only and makes that string unreadable.
-/

set_option autoImplicit false

namespace FaultTriage.Json

/-! ## Strings and numbers -/

/-- A piece of a string: a character, half of a character given by an escape, or no character. -/
inductive Piece where
  | scalar (character : Char)
  | surrogate (code : Nat)
  | malformed

/-- The text that pieces denote, if every half of a character has its counterpart. -/
def textOf? : List Piece → Option (List Char)
  | [] => some []
  | .scalar character :: rest => (textOf? rest).map (character :: ·)
  | .surrogate high :: .surrogate low :: rest =>
      if high < 0xDC00 && 0xDC00 ≤ low then
        (textOf? rest).map (Char.ofNat (0x10000 + (high - 0xD800) * 0x400 + (low - 0xDC00)) :: ·)
      else
        none
  | .surrogate _ :: _ => none
  | .malformed :: _ => none

def pieceOf (code : Nat) : Piece :=
  if 0xD800 ≤ code && code < 0xE000 then .surrogate code else .scalar (Char.ofNat code)

def escapedChar? : Char → Option Char
  | '"' => some '"'
  | '\\' => some '\\'
  | '/' => some '/'
  | 'b' => some '\x08'
  | 'f' => some '\x0c'
  | 'n' => some '\n'
  | 'r' => some '\r'
  | 't' => some '\t'
  | _ => none

def dropDigits? (characters : List Char) : Option (List Char) :=
  if characters.head?.any Char.isDigit then some (characters.dropWhile Char.isDigit) else none

def isNumberTail (characters : List Char) : Bool :=
  let afterFraction :=
    match characters with
    | '.' :: rest => dropDigits? rest
    | _ => some characters
  match afterFraction with
  | none => false
  | some [] => true
  | some (mark :: rest) =>
      if mark = 'e' || mark = 'E' then
        let digits :=
          match rest with
          | '+' :: digits => digits
          | '-' :: digits => digits
          | _ => rest
        dropDigits? digits == some []
      else
        false

def decimalValue (digits : List Char) : Nat :=
  digits.foldl (fun value digit => 10 * value + (digit.toNat - 0x30)) 0

def magnitude? (negative : Bool) (characters : List Char) : Option Json :=
  let digits := characters.takeWhile Char.isDigit
  let tail := characters.dropWhile Char.isDigit
  let wellFormed :=
    match digits with
    | [] => false
    | ['0'] => true
    | first :: _ => first != '0'
  if wellFormed && isNumberTail tail then
    let value := decimalValue digits
    if !tail.isEmpty then some .fraction
    else if !negative then some (.integer value)
    else if value = 0 then some .fraction
    else some (.integer (-value))
  else
    none

def scalarOf? (run : List Char) : Option Json :=
  if run = "null".toList then some .null
  else if run = "true".toList then some (.bool true)
  else if run = "false".toList then some (.bool false)
  else
    match run with
    | '-' :: rest => magnitude? true rest
    | _ => magnitude? false run

/-! ## Tokens -/

inductive Token where
  | openArray
  | closeArray
  | openObject
  | closeObject
  | comma
  | colon
  | scalar (value : Json)
  | text (value : Option String)

inductive Mode where
  | between
  | run (reversed : List Char)
  | quoted (reversed : List Piece)
  | escape (reversed : List Piece)
  /-- A string within a four-digit escape: the code so far and the digits still missing. -/
  | code (reversed : List Piece) (value missing : Nat)

/-- The tokens so far, last one first, and what is being gathered. -/
structure Lexing where
  tokens : List Token
  mode : Mode

def punctuation? : Char → Option Token
  | '[' => some .openArray
  | ']' => some .closeArray
  | '\x7b' => some .openObject
  | '\x7d' => some .closeObject
  | ',' => some .comma
  | ':' => some .colon
  | _ => none

def startToken (tokens : List Token) (character : Char) : Lexing :=
  if character = ' ' || character = '\t' || character = '\n' || character = '\r' then
    ⟨tokens, .between⟩
  else if character = '"' then
    ⟨tokens, .quoted []⟩
  else
    match punctuation? character with
    | some token => ⟨token :: tokens, .between⟩
    | none => ⟨tokens, .run [character]⟩

def endsRun (character : Char) : Bool :=
  character = ' ' || character = '\t' || character = '\n' || character = '\r' || character = '"'
    || (punctuation? character).isSome

def lexStep (state : Lexing) (place : Option Char) : Option Lexing :=
  match state.mode, place with
  | .between, some character => some (startToken state.tokens character)
  | .between, none => none
  | .run reversed, some character =>
      if endsRun character then
        (scalarOf? reversed.reverse).map fun value =>
          startToken (.scalar value :: state.tokens) character
      else
        some { state with mode := .run (character :: reversed) }
  | .run _, none => none
  | .quoted reversed, some character =>
      if character = '"' then
        some ⟨.text ((textOf? reversed.reverse).map String.ofList) :: state.tokens, .between⟩
      else if character = '\\' then
        some { state with mode := .escape reversed }
      else if character.toNat < 0x20 then
        none
      else
        some { state with mode := .quoted (.scalar character :: reversed) }
  | .quoted reversed, none => some { state with mode := .quoted (.malformed :: reversed) }
  | .escape reversed, some character =>
      if character = 'u' then
        some { state with mode := .code reversed 0 4 }
      else
        (escapedChar? character).map fun meant =>
          { state with mode := .quoted (.scalar meant :: reversed) }
  | .escape _, none => none
  | .code reversed value missing, some character =>
      (Text.hexValue? character).map fun digit =>
        let next := 16 * value + digit
        if missing ≤ 1 then { state with mode := .quoted (pieceOf next :: reversed) }
        else { state with mode := .code reversed next (missing - 1) }
  | .code _ _ _, none => none

def tokens? (input : List (Option Char)) : Option (List Token) := do
  let state ← input.foldlM lexStep ⟨[], .between⟩
  match state.mode with
  | .between => some state.tokens.reverse
  | .run reversed =>
      let value ← scalarOf? reversed.reverse
      some (.scalar value :: state.tokens).reverse
  | _ => none

/-! ## Values -/

/-- An array or object that is still open, with what it holds so far, last one first. -/
inductive Open where
  | items (reversed : List Json)
  | fields (reversed : List (Option String × Json)) (key : Option String)

inductive Expected where
  | value
  /-- A value, or the end of an array. -/
  | firstItem
  /-- A key, or the end of an object. -/
  | firstKey
  | key
  | colon
  | separator
  | nothing

structure Parsing where
  stack : List Open
  expected : Expected
  result : Json

def deliver (stack : List Open) (value : Json) : Parsing :=
  match stack with
  | [] => ⟨[], .nothing, value⟩
  | .items reversed :: rest => ⟨.items (value :: reversed) :: rest, .separator, .null⟩
  | .fields reversed key :: rest =>
      ⟨.fields ((key, value) :: reversed) none :: rest, .separator, .null⟩

def close? (stack : List Open) (token : Token) : Option Parsing :=
  match stack, token with
  | .items reversed :: rest, .closeArray => some (deliver rest (.array reversed.reverse))
  | .fields reversed _ :: rest, .closeObject => some (deliver rest (.object reversed.reverse))
  | _, _ => none

def startValue? (stack : List Open) (token : Token) : Option Parsing :=
  match token with
  | .scalar value => some (deliver stack value)
  | .text (some text) => some (deliver stack (.string text))
  | .text none => some (deliver stack .unreadable)
  | .openArray => some ⟨.items [] :: stack, .firstItem, .null⟩
  | .openObject => some ⟨.fields [] none :: stack, .firstKey, .null⟩
  | _ => none

def takeKey? (stack : List Open) (token : Token) : Option Parsing :=
  match stack, token with
  | .fields reversed _ :: rest, .text key => some ⟨.fields reversed key :: rest, .colon, .null⟩
  | _, _ => none

def parseStep (state : Parsing) (token : Token) : Option Parsing :=
  match state.expected with
  | .value => startValue? state.stack token
  | .firstItem => (close? state.stack token).or (startValue? state.stack token)
  | .firstKey => (close? state.stack token).or (takeKey? state.stack token)
  | .key => takeKey? state.stack token
  | .colon =>
      match token with
      | .colon => some { state with expected := .value }
      | _ => none
  | .separator =>
      match token, state.stack with
      | .comma, .items _ :: _ => some { state with expected := .value }
      | .comma, .fields _ _ :: _ => some { state with expected := .key }
      | _, _ => close? state.stack token
  | .nothing => none

def read? (input : List (Option Char)) : Option Json := do
  let tokens ← tokens? input
  let state ← tokens.foldlM parseStep ⟨[], .value, .null⟩
  match state.expected with
  | .nothing => some state.result
  | _ => none

def parse? (text : String) : Option Json :=
  read? (text.toList.map some)

end FaultTriage.Json
