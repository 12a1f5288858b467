import FaultTriage.Register.Family
import FaultTriage.Text.Bytes
import FaultTriage.Text.Blank

/-!
# ARM conditions and mnemonic suffixes

After its root an ARM mnemonic may carry the letter `s`, which makes the instruction set the flags,
and then a two-letter condition code.
-/

set_option autoImplicit false

namespace FaultTriage

inductive Condition where
  | equal
  | notEqual
  | carrySet
  | carryClear
  | negative
  | nonNegative
  | overflowSet
  | overflowClear
  | higher
  | lowerOrSame
  | greaterOrEqual
  | less
  | greater
  | lessOrEqual
  | always
deriving DecidableEq

namespace Condition

/-- The condition codes with their conditions; two conditions have two codes each. -/
def codes : List (String × Condition) :=
  [("eq", .equal), ("ne", .notEqual), ("cs", .carrySet), ("hs", .carrySet), ("cc", .carryClear),
    ("lo", .carryClear), ("mi", .negative), ("pl", .nonNegative), ("vs", .overflowSet),
    ("vc", .overflowClear), ("hi", .higher), ("ls", .lowerOrSame), ("ge", .greaterOrEqual),
    ("lt", .less), ("gt", .greater), ("le", .lessOrEqual), ("al", .always)]

def ofCode? (code : List Char) : Option Condition :=
  (codes.find? (·.1.toList == code)).map (·.2)

open Register

def flagsRead : Condition → List Operand
  | .equal | .notEqual => [zeroFlag]
  | .carrySet | .carryClear => [carryFlag]
  | .negative | .nonNegative => [signFlag]
  | .overflowSet | .overflowClear => [overflowFlag]
  | .higher | .lowerOrSame => [carryFlag, zeroFlag]
  | .greaterOrEqual | .less => [signFlag, overflowFlag]
  | .greater | .lessOrEqual => [zeroFlag, signFlag, overflowFlag]
  | .always => []

def holds (flags : ProcessorFlags) : Condition → Bool
  | .equal => flags.zero
  | .notEqual => !flags.zero
  | .carrySet => flags.carry
  | .carryClear => !flags.carry
  | .negative => flags.sign
  | .nonNegative => !flags.sign
  | .overflowSet => flags.overflow
  | .overflowClear => !flags.overflow
  | .higher => flags.carry && !flags.zero
  | .lowerOrSame => !flags.carry || flags.zero
  | .greaterOrEqual => flags.sign == flags.overflow
  | .less => flags.sign != flags.overflow
  | .greater => !flags.zero && flags.sign == flags.overflow
  | .lessOrEqual => flags.zero || flags.sign != flags.overflow
  | .always => true

end Condition

structure MnemonicSuffix where
  setsFlags : Bool
  condition : Option Condition
deriving DecidableEq

namespace MnemonicSuffix

def none : MnemonicSuffix := ⟨false, Option.none⟩

/-- The condition whose code makes up the first two bytes. -/
def leadingCondition? (characters : List Char) : Option Condition :=
  (Text.takeBytes? 2 characters).bind Condition.ofCode?

def ofRest (rest : List Char) : MnemonicSuffix :=
  match rest with
  | 's' :: after => ⟨true, leadingCondition? after⟩
  | _ => ⟨false, leadingCondition? rest⟩

/--
The suffix of a mnemonic whose root takes the first `rootLength` bytes.  A mnemonic of one byte and
a root that is no leading part of the mnemonic have none.
-/
def parse (mnemonic : List Char) (rootLength : Nat) : MnemonicSuffix :=
  match Text.dropBytes? rootLength mnemonic with
  | Option.none => none
  | some rest =>
      if Text.byteLength mnemonic ≤ 1 || rest.isEmpty then none else ofRest rest

end MnemonicSuffix

end FaultTriage
