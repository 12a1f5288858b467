import FaultTriage.Yaml.Scalar

/-!
# Layout of YAML text

The layout of lines says where block sequences and mappings start and end: an entry further right
than the ones before starts a new one, and a line further left ends those that started right of it.
That a scalar or a flow collection is a key is only known at the colon after it, so the place where
a key may have started is kept until then.

Anchors, tags, directives, block scalars and keys behind a question mark are refused.
-/

set_option autoImplicit false

namespace FaultTriage.Yaml

structure KeyPlace where
  /-- Number of tokens in front of the key. -/
  position : Nat
  mark : Mark
  /-- Whether nothing but a key may start here. -/
  required : Bool

/-- The greatest number of characters from the start of a key to its colon. -/
def maxKeyLength : Nat := 1024

def KeyPlace.reaches (place : KeyPlace) (mark : Mark) : Bool :=
  place.mark.line = mark.line && mark.index ≤ place.mark.index + maxKeyLength

structure Layout where
  tokens : List Token
  /-- The columns of the open block collections, the innermost first. -/
  columns : List Nat
  blockKey : Option KeyPlace
  /-- The same in each open flow collection, the innermost first. -/
  flowKeys : List (Option KeyPlace)
  /-- Whether a key or an entry of a block collection may start here. -/
  fresh : Bool

namespace Layout

def start : Layout := ⟨[], [], none, [], true⟩

def inFlow (layout : Layout) : Bool := !layout.flowKeys.isEmpty

def add (layout : Layout) (token : Token) : Layout :=
  { layout with tokens := token :: layout.tokens }

/-- Puts tokens, the last one first, behind the given number of tokens. -/
def insertAt (layout : Layout) (position : Nat) (tokens : List Token) : Layout :=
  let later := layout.tokens.length - position
  { layout with tokens := layout.tokens.take later ++ tokens ++ layout.tokens.drop later }

/-! ## Keys -/

def key? (layout : Layout) : Option KeyPlace :=
  match layout.flowKeys with
  | [] => layout.blockKey
  | key :: _ => key

def setKey (layout : Layout) (key : Option KeyPlace) : Layout :=
  match layout.flowKeys with
  | [] => { layout with blockKey := key }
  | _ :: outer => { layout with flowKeys := key :: outer }

/-- Gives up a possible key, which is an error if there has to be one. -/
def dropKey? (layout : Layout) : Option Layout :=
  if layout.key?.any KeyPlace.required then none else some (layout.setKey none)

def dropStaleKey? (mark : Mark) (key : Option KeyPlace) : Option (Option KeyPlace) :=
  match key with
  | none => some none
  | some place =>
      if place.reaches mark then some key else if place.required then none else some none

def dropStaleKeys? (layout : Layout) (mark : Mark) : Option Layout := do
  let blockKey ← dropStaleKey? mark layout.blockKey
  let flowKeys ← layout.flowKeys.mapM (dropStaleKey? mark)
  some { layout with blockKey := blockKey, flowKeys := flowKeys }

def markKey? (layout : Layout) (mark : Mark) : Option Layout :=
  if layout.fresh then do
    let dropped ← layout.dropKey?
    let required := !layout.inFlow && layout.columns.head? = some mark.column
    some (dropped.setKey (some ⟨layout.tokens.length, mark, required⟩))
  else
    some layout

/-! ## Block collections -/

def opensAt (layout : Layout) (column : Nat) : Bool :=
  !layout.inFlow && layout.columns.head?.all (· < column)

def openAt (layout : Layout) (column : Nat) (token : Token) : Layout :=
  if layout.opensAt column then
    { layout.add token with columns := column :: layout.columns }
  else
    layout

def close (layout : Layout) (ended : Nat → Bool) : Layout :=
  let closed := layout.columns.takeWhile ended
  { layout with
    tokens := closed.map (fun _ => Token.blockEnd) ++ layout.tokens
    columns := layout.columns.dropWhile ended }

/-- Ends the block collections that started right of a column; flow layout has no columns. -/
def closeTo (layout : Layout) (column : Nat) : Layout :=
  if layout.inFlow then layout else layout.close (column < ·)

def closeAll (layout : Layout) : Layout :=
  if layout.inFlow then layout else layout.close fun _ => true

/-! ## Tokens -/

def addDocumentMark? (layout : Layout) (token : Token) : Option Layout := do
  let closed ← layout.closeAll.dropKey?
  some { closed.add token with fresh := false }

def openFlow? (layout : Layout) (mark : Mark) (token : Token) : Option Layout := do
  let marked ← layout.markKey? mark
  some { marked.add token with flowKeys := none :: marked.flowKeys, fresh := true }

def closeFlow? (layout : Layout) (token : Token) : Option Layout := do
  let dropped ← layout.dropKey?
  some { dropped.add token with flowKeys := dropped.flowKeys.drop 1, fresh := false }

def addComma? (layout : Layout) : Option Layout := do
  some { (← layout.dropKey?).add .comma with fresh := true }

/-- Adds the dash of an entry; outside flow collections an entry has to be allowed to start. -/
def addDash? (layout : Layout) (mark : Mark) : Option Layout :=
  if layout.inFlow || layout.fresh then do
    let dropped ← (layout.openAt mark.column .blockSequence).dropKey?
    some { dropped.add .dash with fresh := true }
  else
    none

/--
Adds the colon in front of a value.  If a key was kept, the tokens in front of it are only now
known; otherwise the colon stands like an entry.
-/
def addColon? (layout : Layout) (mark : Mark) : Option Layout :=
  match layout.key?.filter (·.reaches mark) with
  | some place =>
      let column := place.mark.column
      let cleared := { layout.setKey none with fresh := false }
      let keyed :=
        if layout.opensAt column then
          { cleared.insertAt place.position [.key, .blockMapping] with
            columns := column :: cleared.columns }
        else
          cleared.insertAt place.position [.key]
      some (keyed.add .value)
  | none =>
      if layout.inFlow || layout.fresh then
        some { (layout.openAt mark.column .blockMapping).add .value with fresh := !layout.inFlow }
      else
        none

def addScalar? (layout : Layout) (mark : Mark) (plain : Bool) (found : Scanned) :
    Option Layout := do
  let marked ← layout.markKey? mark
  some { marked.add (.scalar (String.ofList found.text) plain) with fresh := found.lineEnded }

def finish? (layout : Layout) : Option (List Token) :=
  layout.closeAll.dropKey?.map fun closed => closed.tokens.reverse

end Layout

/-! ## Reading a text -/

/--
Passes over blanks, comments and line ends; `fresh` says whether a key may start, which it may
after every line end outside flow collections.  Tabs do not count as blanks where a key may start in
block layout, and a byte order mark may stand at the very start.
-/
def skipGap (flow comment fresh : Bool) (mark : Mark) : List Char → Bool × Mark × List Char
  | [] => (fresh, mark, [])
  | '\r' :: '\n' :: rest => skipGap flow false (fresh || !flow) (mark.nextLine 2) rest
  | character :: rest =>
      if isBreak character then
        skipGap flow false (fresh || !flow) (mark.nextLine 1) rest
      else if comment || character = ' ' || (character = '\t' && (flow || !fresh))
          || (character = '\ufeff' && mark.index = 0) then
        skipGap flow comment fresh (mark.forward 1) rest
      else if character = '#' then
        skipGap flow true fresh (mark.forward 1) rest
      else
        (fresh, mark, character :: rest)

def addToken? (layout : Layout) (mark : Mark) (character : Char) (rest : List Char) :
    Option (Layout × Mark × List Char) :=
  let flow := layout.inFlow
  let single (changed : Option Layout) : Option (Layout × Mark × List Char) :=
    changed.map (·, mark.forward 1, rest)
  let scalar (plain : Bool) (found : Option Scanned) : Option (Layout × Mark × List Char) := do
    let found ← found
    some (← layout.addScalar? mark plain found, found.mark, found.rest)
  match (if mark.column = 0 then documentMark? (character :: rest) else none) with
  | some token => (layout.addDocumentMark? token).map (·, mark.forward 3, rest.drop 2)
  | none =>
      if character = '[' then single (layout.openFlow? mark .openSequence)
      else if character = '\x7b' then single (layout.openFlow? mark .openMapping)
      else if character = ']' then single (layout.closeFlow? .closeSequence)
      else if character = '\x7d' then single (layout.closeFlow? .closeMapping)
      else if character = ',' then single layout.addComma?
      else if character = '-' && gapFollows rest then single (layout.addDash? mark)
      else if character = ':' && (flow || gapFollows rest) then single (layout.addColon? mark)
      else if character = '\x27' then scalar false (scanSingle [] .none (mark.forward 1) rest)
      else if character = '"' then scalar false (scanDouble .plain [] .none (mark.forward 1) rest)
      else if startsPlain flow character rest then
        let indent := layout.columns.head?.elim 0 (· + 1)
        scalar true (scanPlain flow indent [] .none mark (character :: rest))
      else none

/-- Reads tokens; `fuel` bounds their number, which is at most that of the characters. -/
def readTokens? : Nat → Layout → Mark → List Char → Option (List Token)
  | 0, _, _, _ => none
  | fuel + 1, layout, mark, characters => do
      let (fresh, mark, characters) := skipGap layout.inFlow false layout.fresh mark characters
      match characters with
      | [] => (← { layout with fresh := fresh }.dropStaleKeys? mark).finish?
      | character :: rest =>
          let current ← { layout with fresh := fresh }.dropStaleKeys? mark
          let (next, mark, remaining) ←
            addToken? (current.closeTo mark.column) mark character rest
          readTokens? fuel next mark remaining

def tokens? (text : List Char) : Option (List Token) :=
  if text.all isPermitted then readTokens? (text.length + 1) .start .start text else none

end FaultTriage.Yaml
