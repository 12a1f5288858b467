import FaultTriage.Text.Hex
import FaultTriage.Yaml.Token

/-!
# Scalars of YAML text

A scalar may go on over several lines.  A single line end between words then counts as a space, and
of more line ends all but the first are kept; blanks around line ends do not count.
-/

set_option autoImplicit false

namespace FaultTriage.Yaml

inductive Space where
  | none
  /-- Blanks of one line, the last one first. -/
  | blanks (characters : List Char)
  /-- Line ends: the first, unless it was escaped, and those after it, the last one first. -/
  | lines (first : Option Char) (more : List Char)

namespace Space

/-- What the space adds to the text of a scalar, the last character first. -/
def folded : Space → List Char
  | .none => []
  | .blanks characters => characters
  | .lines Option.none more => more
  | .lines (some first) more =>
      if first = '\n' then (if more.isEmpty then [' '] else more) else more ++ [first]

def addBlank (space : Space) (character : Char) : Space :=
  match space with
  | .none => .blanks [character]
  | .blanks characters => .blanks (character :: characters)
  | .lines first more => .lines first more

def addBreak (space : Space) (character : Char) : Space :=
  match space with
  | .none | .blanks _ => .lines (some (breakValue character)) []
  | .lines first more => .lines first (breakValue character :: more)

def hasBreak : Space → Bool
  | .lines _ _ => true
  | _ => false

def isPresent : Space → Bool
  | .none => false
  | _ => true

end Space

structure Scanned where
  text : List Char
  mark : Mark
  rest : List Char
  lineEnded : Bool

/-! ## Plain scalars -/

def endsPlain (flow : Bool) (character : Char) (rest : List Char) : Bool :=
  (character = ':' && gapFollows rest) || (flow && isFlowIndicator character)

def isMisplacedColon (flow : Bool) (character : Char) (rest : List Char) : Bool :=
  flow && character = ':' && rest.head?.any fun next => isFlowIndicator next || next = '?'

/--
Reads the rest of a plain scalar.  `text` holds what has been read, the last character first, and
`space` what stands after it.  In block layout the lines of a scalar have to start in column
`indent` or further right.
-/
def scanPlain (flow : Bool) (indent : Nat) (text : List Char) (space : Space) (mark : Mark) :
    List Char → Option Scanned
  | [] => some ⟨text.reverse, mark, [], space.hasBreak⟩
  | '\r' :: '\n' :: rest =>
      scanPlain flow indent text (space.addBreak '\n') (mark.nextLine 2) rest
  | character :: rest =>
      let stop := some ⟨text.reverse, mark, character :: rest, space.hasBreak⟩
      if isBreak character then
        scanPlain flow indent text (space.addBreak character) (mark.nextLine 1) rest
      else if isSpace character then
        if space.hasBreak && mark.column < indent && character = '\t' then none
        else scanPlain flow indent text (space.addBlank character) (mark.forward 1) rest
      else if space.isPresent && ((!flow && mark.column < indent) || character = '#'
          || (mark.column = 0 && (documentMark? (character :: rest)).isSome)) then
        stop
      else if isMisplacedColon flow character rest then
        none
      else if endsPlain flow character rest then
        stop
      else
        scanPlain flow indent (character :: space.folded ++ text) .none (mark.forward 1) rest

def startsPlain (flow : Bool) (character : Char) (rest : List Char) : Bool :=
  if character = '-' then !gapFollows rest
  else if character = '?' || character = ':' then !flow && !gapFollows rest
  else
    !isGap character && !isFlowIndicator character
      && !(['#', '&', '*', '!', '|', '>', '\x27', '"', '%', '@', '\x60'].contains character)

/-! ## Quoted scalars -/

def meetsDocument (mark : Mark) (characters : List Char) : Bool :=
  mark.column = 0 && (documentMark? characters).isSome

/-- Reads the rest of a single-quoted scalar, in which a quote is written twice. -/
def scanSingle (text : List Char) (space : Space) (mark : Mark) : List Char → Option Scanned
  | [] => none
  | '\x27' :: '\x27' :: rest =>
      scanSingle ('\x27' :: space.folded ++ text) .none (mark.forward 2) rest
  | '\r' :: '\n' :: rest => scanSingle text (space.addBreak '\n') (mark.nextLine 2) rest
  | character :: rest =>
      if meetsDocument mark (character :: rest) then
        none
      else if character = '\x27' then
        some ⟨(space.folded ++ text).reverse, mark.forward 1, rest, false⟩
      else if isBreak character then
        scanSingle text (space.addBreak character) (mark.nextLine 1) rest
      else if isSpace character then
        scanSingle text (space.addBlank character) (mark.forward 1) rest
      else
        scanSingle (character :: space.folded ++ text) .none (mark.forward 1) rest

def escapedChar? : Char → Option Char
  | '0' => some '\x00'
  | 'a' => some '\x07'
  | 'b' => some '\x08'
  | 't' => some '\t'
  | '\t' => some '\t'
  | 'n' => some '\n'
  | 'v' => some '\x0b'
  | 'f' => some '\x0c'
  | 'r' => some '\r'
  | 'e' => some '\x1b'
  | ' ' => some ' '
  | '"' => some '"'
  | '/' => some '/'
  | '\\' => some '\\'
  | 'N' => some '\u0085'
  | '_' => some '\u00a0'
  | 'L' => some '\u2028'
  | 'P' => some '\u2029'
  | _ => none

def escapeWidth? : Char → Option Nat
  | 'x' => some 2
  | 'u' => some 4
  | 'U' => some 8
  | _ => none

inductive QuoteMode where
  | plain
  | escape
  | code (value missing : Nat)

def scanDouble (mode : QuoteMode) (text : List Char) (space : Space) (mark : Mark) :
    List Char → Option Scanned
  | [] => none
  | '\r' :: '\n' :: rest =>
      match mode with
      | .plain => scanDouble .plain text (space.addBreak '\n') (mark.nextLine 2) rest
      | .escape => scanDouble .plain text (.lines none []) (mark.nextLine 2) rest
      | .code _ _ => none
  | character :: rest =>
      match mode with
      | .plain =>
          if meetsDocument mark (character :: rest) then
            none
          else if character = '"' then
            some ⟨(space.folded ++ text).reverse, mark.forward 1, rest, false⟩
          else if isBreak character then
            scanDouble .plain text (space.addBreak character) (mark.nextLine 1) rest
          else if isSpace character then
            scanDouble .plain text (space.addBlank character) (mark.forward 1) rest
          else if character = '\\' then
            scanDouble .escape (space.folded ++ text) .none (mark.forward 1) rest
          else
            scanDouble .plain (character :: space.folded ++ text) .none (mark.forward 1) rest
      | .escape =>
          if isBreak character then
            scanDouble .plain text (.lines none []) (mark.nextLine 1) rest
          else
            match escapeWidth? character with
            | some width => scanDouble (.code 0 width) text .none (mark.forward 1) rest
            | none =>
                match escapedChar? character with
                | some meant => scanDouble .plain (meant :: text) .none (mark.forward 1) rest
                | none => none
      | .code value missing =>
          match Text.hexValue? character with
          | none => none
          | some digit =>
              let next := 16 * value + digit
              if 1 < missing then
                scanDouble (.code next (missing - 1)) text .none (mark.forward 1) rest
              else if next.isValidChar then
                scanDouble .plain (Char.ofNat next :: text) .none (mark.forward 1) rest
              else
                none

end FaultTriage.Yaml
