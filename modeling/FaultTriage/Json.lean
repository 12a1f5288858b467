/-!
# JSON values

Values as reports and configuration files need them.  Objects keep their fields in order and may
repeat a key.  Numbers that are no integers appear without their value, and a string whose escapes
or bytes denote no text appears as unreadable: both are well-formed, and no field takes them.
-/

set_option autoImplicit false

namespace FaultTriage

inductive Json where
  | null
  | bool (value : Bool)
  | integer (value : Int)
  /-- A number with a fraction or an exponent, or minus zero. -/
  | fraction
  | string (value : String)
  /-- A string that denotes no text. -/
  | unreadable
  | array (items : List Json)
  /-- Fields in order; an unreadable key is `none`. -/
  | object (fields : List (Option String × Json))

namespace Json

instance : Inhabited Json := ⟨.null⟩

def count (value : Nat) : Json := .integer value

def record (fields : List (String × Json)) : Json :=
  .object (fields.map fun field => (some field.1, field.2))

def strings (texts : List String) : Json :=
  .array (texts.map .string)

end Json

end FaultTriage
