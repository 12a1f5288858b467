/-!
# YAML values

The plain part of YAML that configuration files use: scalars, sequences and mappings, in block or in
flow layout.  A scalar keeps its text and whether it was written without quotes, because only then
may it stand for a truth value or a number.
-/

set_option autoImplicit false

namespace FaultTriage

inductive Yaml where
  | scalar (text : String) (plain : Bool)
  | sequence (items : List Yaml)
  | mapping (entries : List (Yaml × Yaml))

def Yaml.nothing : Yaml := .scalar "" true

end FaultTriage
