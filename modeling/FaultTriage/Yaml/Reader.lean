import FaultTriage.Yaml
import FaultTriage.Yaml.Layout

/-!
# Reading YAML

Tokens are gathered into one value.  The tokens already say where block collections start and end;
only a sequence that is the value of a key may do without that, when its dashes stand in the column
of the key.
-/

set_option autoImplicit false

namespace FaultTriage.Yaml

abbrev Parsed := Option (Yaml × List Token)

def goesOn (tokens : List Token) (expected : List Token) : Bool :=
  tokens.head?.any expected.contains

mutual

/--
Reads a value.  Block collections only stand outside flow collections, and entries without a start
only as a value or key of a block mapping.
-/
def node : Nat → Bool → Bool → List Token → Parsed
  | 0, _, _, _ => none
  | fuel + 1, block, bare, tokens =>
      match tokens with
      | .scalar text plain :: rest => some (.scalar text plain, rest)
      | .openSequence :: rest => flowItems fuel true [] rest
      | .openMapping :: rest => flowEntries fuel true [] rest
      | .blockSequence :: rest => if block then blockItems fuel [] rest else none
      | .blockMapping :: rest => if block then blockEntries fuel [] rest else none
      | .dash :: _ => if bare then bareItems fuel [] tokens else none
      | _ => none

def nodeOrNothing : Nat → Bool → Bool → List Token → List Token → Parsed
  | 0, _, _, _, _ => none
  | fuel + 1, block, bare, ends, tokens =>
      if goesOn tokens ends then some (Yaml.nothing, tokens) else node fuel block bare tokens

/-- Reads the entries of a block sequence; `items` holds those before, the last one first. -/
def blockItems : Nat → List Yaml → List Token → Parsed
  | 0, _, _ => none
  | fuel + 1, items, tokens =>
      match tokens with
      | .dash :: rest => do
          let (item, after) ← nodeOrNothing fuel true false [.dash, .blockEnd] rest
          blockItems fuel (item :: items) after
      | .blockEnd :: rest => some (.sequence items.reverse, rest)
      | _ => none

/-- Reads the entries of a sequence in the column of its key. -/
def bareItems : Nat → List Yaml → List Token → Parsed
  | 0, _, _ => none
  | fuel + 1, items, tokens =>
      match tokens with
      | .dash :: rest => do
          let (item, after) ← nodeOrNothing fuel true false [.dash, .key, .value, .blockEnd] rest
          bareItems fuel (item :: items) after
      | _ => some (.sequence items.reverse, tokens)

def blockEntries : Nat → List (Yaml × Yaml) → List Token → Parsed
  | 0, _, _ => none
  | fuel + 1, entries, tokens =>
      match tokens with
      | .key :: rest => do
          let ends : List Token := [.key, .value, .blockEnd]
          let (key, afterKey) ← nodeOrNothing fuel true true ends rest
          match afterKey with
          | .value :: more => do
              let (value, after) ← nodeOrNothing fuel true true ends more
              blockEntries fuel ((key, value) :: entries) after
          | _ => blockEntries fuel ((key, Yaml.nothing) :: entries) afterKey
      | .blockEnd :: rest => some (.mapping entries.reverse, rest)
      | _ => none

def flowValue : Nat → Token → List Token → Parsed
  | 0, _, _ => none
  | fuel + 1, last, tokens =>
      match tokens with
      | .value :: rest => nodeOrNothing fuel false false [.comma, last] rest
      | _ => some (Yaml.nothing, tokens)

/-- Reads the items of a flow sequence; an item may be a key with its value. -/
def flowItems : Nat → Bool → List Yaml → List Token → Parsed
  | 0, _, _, _ => none
  | fuel + 1, first, items, tokens =>
      match tokens, first with
      | .closeSequence :: rest, _ => some (.sequence items.reverse, rest)
      | .comma :: rest, false =>
          match rest with
          | .closeSequence :: more => some (.sequence items.reverse, more)
          | _ => flowItem fuel items rest
      | _, true => flowItem fuel items tokens
      | _, false => none

def flowItem : Nat → List Yaml → List Token → Parsed
  | 0, _, _ => none
  | fuel + 1, items, tokens =>
      match tokens with
      | .key :: rest => do
          let (key, afterKey) ← node fuel false false rest
          let (value, after) ← flowValue fuel .closeSequence afterKey
          flowItems fuel false (.mapping [(key, value)] :: items) after
      | _ => do
          let (item, after) ← node fuel false false tokens
          flowItems fuel false (item :: items) after

def flowEntries : Nat → Bool → List (Yaml × Yaml) → List Token → Parsed
  | 0, _, _, _ => none
  | fuel + 1, first, entries, tokens =>
      match tokens, first with
      | .closeMapping :: rest, _ => some (.mapping entries.reverse, rest)
      | .comma :: rest, false =>
          match rest with
          | .closeMapping :: more => some (.mapping entries.reverse, more)
          | _ => flowEntry fuel entries rest
      | _, true => flowEntry fuel entries tokens
      | _, false => none

def flowEntry : Nat → List (Yaml × Yaml) → List Token → Parsed
  | 0, _, _ => none
  | fuel + 1, entries, tokens =>
      match tokens with
      | .key :: rest => do
          let (key, afterKey) ← node fuel false false rest
          let (value, after) ← flowValue fuel .closeMapping afterKey
          flowEntries fuel false ((key, value) :: entries) after
      | _ => do
          let (key, after) ← node fuel false false tokens
          flowEntries fuel false ((key, Yaml.nothing) :: entries) after

end

def dropEnds (tokens : List Token) : List Token :=
  tokens.dropWhile (· = .documentEnd)

/-- Reads the only document of a text; a text without one holds nothing. -/
def document? (tokens : List Token) : Option Yaml := do
  let fuel := 4 * tokens.length + 4
  let (value, rest) ←
    match tokens with
    | [] => some (Yaml.nothing, [])
    | .documentStart :: rest =>
        if rest.isEmpty || goesOn rest [.documentStart, .documentEnd] then
          some (Yaml.nothing, rest)
        else
          node fuel true false rest
    | _ => node fuel true false tokens
  if (dropEnds rest).isEmpty then some value else none

def parse? (text : List Char) : Option Yaml :=
  (tokens? text).bind document?

end FaultTriage.Yaml
