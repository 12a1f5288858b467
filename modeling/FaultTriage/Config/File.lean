import FaultTriage.Config.Format
import FaultTriage.Json.Reader
import FaultTriage.Text.Lowercase
import FaultTriage.Workspace
import FaultTriage.Yaml.Reader

/-!
# Configuration files

A configuration file holds JSON or YAML; the extension of its name decides which.  The file is read
before its extension is looked at, and the settings are checked last.
-/

set_option autoImplicit false

namespace FaultTriage

inductive ConfigError where
  | unreadable (path : FilePath) (error : FileError)
  | invalidJson
  | invalidYaml
  | unsupportedFormat (path : FilePath)
  | emptyBlockLimit
deriving DecidableEq

def ConfigError.message : ConfigError → String
  | .unreadable path error => "Failed to read config file " ++ path ++ ": " ++ error.message
  | .invalidJson => "Failed to parse JSON config"
  | .invalidYaml => "Failed to parse YAML config"
  | .unsupportedFormat path =>
      "Unsupported config file extension for " ++ path ++ " (expected .json, .yaml or .yml)"
  | .emptyBlockLimit => "max_block_instructions must be at least 1"

namespace Config

def yamlBool? (text : String) : Option Bool :=
  if text ∈ ["true", "True", "TRUE"] then some true
  else if text ∈ ["false", "False", "FALSE"] then some false
  else none

def baseNumber? (base : Nat) (digits : List Char) : Option Nat :=
  if digits.isEmpty then
    none
  else
    digits.foldlM (fun value digit =>
      if digit.isDigit && digit.toNat - 0x30 < base then
        some (base * value + (digit.toNat - 0x30))
      else
        none) 0

/-- Whether decimal digits start with a zero that is not the number itself. -/
def hasIdleZero (digits : List Char) : Bool :=
  match digits with
  | '0' :: _ :: _ => digits.all Char.isDigit
  | _ => false

/--
The number that the digits of a plain scalar stand for: decimal without idle zeros in front, or
hexadecimal, octal or binary after its marker.
-/
def yamlNumber? (digits : List Char) : Option Nat :=
  match digits with
  | '0' :: 'x' :: rest => if rest.isEmpty then none else Text.hexNumberFrom? 0 rest
  | '0' :: 'o' :: rest => baseNumber? 8 rest
  | '0' :: 'b' :: rest => baseNumber? 2 rest
  | _ => if hasIdleZero digits then none else baseNumber? 10 digits

/--
The count that a plain scalar stands for.  One plus sign may stand in front, and a minus sign may
stand in front of zero.
-/
def yamlCount? (text : String) : Option UInt64 :=
  let number :=
    match text.toList with
    | '+' :: digits => yamlNumber? digits
    | '-' :: digits => (yamlNumber? digits).filter (· = 0)
    | digits => yamlNumber? digits
  (number.filter (· < UInt64.size)).map UInt64.ofNat

def entryFields? (entries : List (Yaml × Yaml)) : Option (List (String × Yaml)) :=
  entries.mapM fun entry =>
    match entry.1 with
    | .scalar text _ => some (text, entry.2)
    | _ => none

/--
YAML values.  Any scalar is a text and may be a choice; truth values and counts have to be plain;
a record is a mapping and never a list; and where nothing is written there may be an empty list or a
record without fields.
-/
def yamlFormat : Format Yaml where
  bool?
    | .scalar text true => yamlBool? text
    | _ => none
  count?
    | .scalar text true => yamlCount? text
    | _ => none
  text?
    | .scalar text _ => some text
    | _ => none
  choice?
    | .scalar text _ => some text
    | _ => none
  items?
    | .sequence items => some items
    | .scalar "" true => some []
    | _ => none
  record?
    | .mapping entries => (entryFields? entries).map .byName
    | .scalar "" true => some (.byName [])
    | _ => none

def ofJsonBytes? (bytes : List UInt8) : Option AnalysisConfig :=
  (Json.read? (Text.decode bytes)).bind jsonFormat.config?

def ofYamlBytes? (bytes : List UInt8) : Option AnalysisConfig :=
  ((Text.decodeAll? bytes).bind Yaml.parse?).bind yamlFormat.config?

def validate (config : AnalysisConfig) : Except ConfigError AnalysisConfig :=
  if config.maxBlockInstructions = 0 then .error .emptyBlockLimit else .ok config

/-- Reads a configuration file, given its path and what reading the file gave. -/
def load (path : FilePath) (content : Except FileError (List UInt8)) :
    Except ConfigError AnalysisConfig := do
  let bytes ← content.mapError (.unreadable path)
  let config ←
    match path.extension?.map Text.asciiLowercaseText with
    | some "json" => (ofJsonBytes? bytes).elim (throw .invalidJson) pure
    | some "yaml" | some "yml" => (ofYamlBytes? bytes).elim (throw .invalidYaml) pure
    | _ => throw (.unsupportedFormat path)
  validate config

end Config

end FaultTriage
