import FaultTriage.Triage.Host

/-!
# Listings

A listing is a recorded session.  Instruction lines start with an address; a line such as
`module!symbol+0x10:` labels the instruction after it; blank lines are ignored.  The next address of
an instruction is the address on the following instruction line.
-/

set_option autoImplicit false

namespace FaultTriage

/-- The instruction lines of a listing in order, and its symbols in the order of their recording. -/
structure Listing where
  lines : List (Address × String)
  symbols : List (Address × String)

namespace Listing

def empty : Listing := ⟨[], []⟩

inductive LineRole where
  | blank
  | label (frame : Frame)
  | instruction (address : Address)
  | invalid

/-- The frame that a label names: the text before the final colon. -/
def labelOf? (line : List Char) : Option Frame :=
  (Text.stripLast? ':' line).bind fun label => Frame.ofTrimmed? (Text.trim label)

def roleOf (line : List Char) : LineRole :=
  if line.isEmpty then
    .blank
  else
    match labelOf? line with
    | some frame => .label frame
    | none =>
        match Address.parse? (Text.firstWord line) with
        | some address => .instruction address
        | none => .invalid

/--
The symbol that a label gives to the instruction after it.  It starts below the instruction by the
displacement of the label, and addresses wrap around; a label without a symbol gives none.
-/
def symbolAt (label : Option Frame) (address : Address) : List (Address × String) :=
  match label with
  | some ⟨some name, displacement⟩ => [(address - displacement, name)]
  | _ => []

def prepend (listing : Listing) (address : Address) (text : String)
    (symbols : List (Address × String)) : Listing :=
  ⟨(address, text) :: listing.lines, symbols ++ listing.symbols⟩

/-- Reads lines, the first of which has the given number, after a label that waits for its line. -/
def readLines (number : Nat) (label : Option Frame) :
    List (List Char) → Except HostError Listing
  | [] => .ok empty
  | raw :: rest =>
      let line := Text.trim raw
      match roleOf line with
      | .blank => readLines (number + 1) label rest
      | .label frame => readLines (number + 1) (some frame) rest
      | .instruction address =>
          (readLines (number + 1) none rest).map fun listing =>
            listing.prepend address (String.ofList line) (symbolAt label address)
      | .invalid => .error (.invalidListingLine number (String.ofList line))

def parse (text : String) : Except HostError Listing :=
  readLines 1 none (Text.lines text.toList)

/-- Records a further symbol, which replaces an earlier one at the same address. -/
def withSymbol (listing : Listing) (address : Address) (name : String) : Listing :=
  { listing with symbols := listing.symbols ++ [(address, name)] }

def firstAddress? (listing : Listing) : Option Address :=
  listing.lines.head?.map (·.1)

def size (listing : Listing) : Nat :=
  listing.lines.length

def isEmpty (listing : Listing) : Bool :=
  listing.lines.isEmpty

/-- The first line at an address, with the address of the line after it. -/
def findLine? (address : Address) : List (Address × String) → Option FetchedLine
  | [] => none
  | (start, text) :: rest =>
      if start = address then some ⟨text, rest.head?.map (·.1)⟩ else findLine? address rest

def fetch (listing : Listing) (address : Address) : Except HostError FetchedLine :=
  match findLine? address listing.lines with
  | some line => .ok line
  | none => .error (.noInstruction address)

/-- The better of two symbols for an address: one at or below it, nearest, recorded last. -/
def nearer (address : Address) (best : Option (Address × String)) (symbol : Address × String) :
    Option (Address × String) :=
  if address < symbol.1 then
    best
  else
    match best with
    | none => some symbol
    | some found => if symbol.1 < found.1 then best else some symbol

def resolve (listing : Listing) (address : Address) : Option (String × UInt64) :=
  (listing.symbols.foldl (nearer address) none).map fun found => (found.2, address - found.1)

def toHost (listing : Listing) (architecture : Architecture) (flags : ProcessorFlags) : Host :=
  ⟨architecture, flags, listing.fetch, listing.resolve⟩

end Listing

end FaultTriage
