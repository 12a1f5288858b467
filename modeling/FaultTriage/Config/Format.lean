import FaultTriage.Config
import FaultTriage.Json

/-!
# Reading a configuration

A configuration is a record whose fields all have defaults.  It is read from the values of some
format, which says how its values are taken as a truth value, a count, a text, a choice, a list or a
record.  Unknown fields are ignored, a repeated field is refused, and a format may allow a record to
be given as the list of its fields in order.
-/

set_option autoImplicit false

namespace FaultTriage.Config

/-- A record as it is written: by field names, or by position. -/
inductive RecordValue (Value : Type) where
  | byName (fields : List (String × Value))
  | byPosition (values : List Value)

structure Format (Value : Type) where
  bool? : Value → Option Bool
  count? : Value → Option UInt64
  text? : Value → Option String
  /-- The name of a choice, before it is known to be one. -/
  choice? : Value → Option String
  items? : Value → Option (List Value)
  record? : Value → Option (RecordValue Value)

/-- The fields of a record with the given field names; more values than names are refused. -/
def RecordValue.named? {Value : Type} (names : List String) :
    RecordValue Value → Option (List (String × Value))
  | .byName fields => some fields
  | .byPosition values => if values.length ≤ names.length then some (names.zip values) else none

/-- Reads one field, or takes its default when it is absent.  A repeated field is refused. -/
def fieldOr {Value Result : Type} (fields : List (String × Value)) (name : String)
    (absent : Result) (read? : Value → Option Result) : Option Result :=
  match fields.filter (·.1 == name) with
  | [] => some absent
  | [field] => read? field.2
  | _ => none

def Format.oneOf? {Value Result : Type} (format : Format Value) (all : List Result)
    (nameOf : Result → String) (value : Value) : Option Result :=
  (format.choice? value).bind fun name => all.find? fun candidate => nameOf candidate == name

def Format.flags? {Value : Type} (format : Format Value) (value : Value) :
    Option ProcessorFlags := do
  let record ← format.record? value
  let fields ← record.named? ["valid", "zero", "carry", "overflow", "sign", "parity", "aux"]
  let flag (name : String) : Option Bool := fieldOr fields name false format.bool?
  some
    { valid := ← flag "valid"
      zero := ← flag "zero"
      carry := ← flag "carry"
      overflow := ← flag "overflow"
      sign := ← flag "sign"
      parity := ← flag "parity"
      aux := ← flag "aux" }

def Format.texts? {Value : Type} (format : Format Value) (value : Value) : Option (List String) :=
  (format.items? value).bind (·.mapM format.text?)

def Format.config? {Value : Type} (format : Format Value) (value : Value) :
    Option AnalysisConfig := do
  let record ← format.record? value
  let fields ← record.named? ["architecture", "taint_destination_pointers", "flags",
    "max_block_instructions", "hash_mode", "excluded_symbols"]
  let standard := AnalysisConfig.standard
  some
    { architecture := ← fieldOr fields "architecture" standard.architecture
        (format.oneOf? Architecture.all Architecture.name)
      taintDestinationPointers := ← fieldOr fields "taint_destination_pointers"
        standard.taintDestinationPointers format.bool?
      flags := ← fieldOr fields "flags" standard.flags format.flags?
      maxBlockInstructions := ← fieldOr fields "max_block_instructions"
        standard.maxBlockInstructions format.count?
      hashMode := ← fieldOr fields "hash_mode" standard.hashMode
        (format.oneOf? HashMode.all HashMode.name)
      excludedSymbols := ← fieldOr fields "excluded_symbols" standard.excludedSymbols
        format.texts? }

def objectFields? (fields : List (Option String × Json)) : Option (List (String × Json)) :=
  fields.mapM fun field => field.1.map (·, field.2)

/--
JSON values.  A choice is its name, or an object with that name as its only key and null as its
value; a record is an object or the list of its fields; a null never stands for a default.
-/
def jsonFormat : Format Json where
  bool?
    | .bool value => some value
    | _ => none
  count?
    | .integer (.ofNat value) => if value < UInt64.size then some (UInt64.ofNat value) else none
    | _ => none
  text?
    | .string value => some value
    | _ => none
  choice?
    | .string value => some value
    | .object [(key, .null)] => key
    | _ => none
  items?
    | .array items => some items
    | _ => none
  record?
    | .object fields => (objectFields? fields).map .byName
    | .array items => some (.byPosition items)
    | _ => none

end FaultTriage.Config
