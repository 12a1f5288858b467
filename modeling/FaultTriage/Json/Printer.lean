import FaultTriage.Json
import FaultTriage.Text.Hex

/-!
# Writing JSON

Two layouts: the compact one on a single line without blanks, and the indented one with a line for
every item and every field.  Characters beyond ASCII are written as they are.
-/

set_option autoImplicit false

namespace FaultTriage.Json

def escaped (character : Char) : List Char :=
  if character = '"' then ['\\', '"']
  else if character = '\\' then ['\\', '\\']
  else if character = '\x08' then ['\\', 'b']
  else if character = '\x0c' then ['\\', 'f']
  else if character = '\n' then ['\\', 'n']
  else if character = '\r' then ['\\', 'r']
  else if character = '\t' then ['\\', 't']
  else if character.toNat < 0x20 then '\\' :: 'u' :: Text.paddedHexDigits 4 character.toNat
  else [character]

def quoted (text : String) : List Char :=
  '"' :: text.toList.flatMap escaped ++ ['"']

def integerText (value : Int) : List Char :=
  match value with
  | .ofNat magnitude => Nat.toDigits 10 magnitude
  | .negSucc magnitude => '-' :: Nat.toDigits 10 (magnitude + 1)

def separated : List (List Char) → List Char
  | [] => []
  | [part] => part
  | part :: parts => part ++ ',' :: separated parts

/-- How a key is written; an unreadable one is written as an empty string. -/
def keyText (key : Option String) : List Char :=
  quoted (key.getD "")

mutual

def compact : Json → List Char
  | .null => "null".toList
  | .bool value => (if value then "true" else "false").toList
  | .integer value => integerText value
  | .fraction => "0.0".toList
  | .string value => quoted value
  | .unreadable => quoted ""
  | .array items => '[' :: separated (compactItems items) ++ [']']
  | .object fields => '\x7b' :: separated (compactFields fields) ++ ['\x7d']

def compactItems : List Json → List (List Char)
  | [] => []
  | item :: rest => compact item :: compactItems rest

def compactFields : List (Option String × Json) → List (List Char)
  | [] => []
  | (key, value) :: rest => (keyText key ++ ':' :: compact value) :: compactFields rest

end

def lineBreak (depth : Nat) : List Char :=
  '\n' :: List.replicate (2 * depth) ' '

/-- Parts on lines of their own between two delimiters; without parts the delimiters touch. -/
def enclosed (depth : Nat) (opening closing : Char) (parts : List (List Char)) : List Char :=
  match parts with
  | [] => [opening, closing]
  | _ =>
      opening :: separated (parts.map (lineBreak (depth + 1) ++ ·)) ++ lineBreak depth ++ [closing]

mutual

def indented (depth : Nat) : Json → List Char
  | .array items => enclosed depth '[' ']' (indentedItems (depth + 1) items)
  | .object fields => enclosed depth '\x7b' '\x7d' (indentedFields (depth + 1) fields)
  | value => compact value

def indentedItems (depth : Nat) : List Json → List (List Char)
  | [] => []
  | item :: rest => indented depth item :: indentedItems depth rest

def indentedFields (depth : Nat) : List (Option String × Json) → List (List Char)
  | [] => []
  | (key, value) :: rest =>
      (keyText key ++ ':' :: ' ' :: indented depth value) :: indentedFields depth rest

end

def render (json : Json) : String :=
  String.ofList json.compact

def renderIndented (json : Json) : String :=
  String.ofList (json.indented 0)

end FaultTriage.Json
