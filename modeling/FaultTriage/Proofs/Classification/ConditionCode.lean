import FaultTriage.Instruction
import FaultTriage.Proofs.Classification.RowOrder

/-!
# Condition codes of ARM mnemonics

An ARM mnemonic followed by a condition code is understood as such when the row of the mnemonic gets
it, that is, when no earlier row of the table takes the longer mnemonic for one of its own.  With four
exceptions none does.  The exceptions are `ldr` and `str` followed by `hi` or `hs`: the rows of the
halfword forms `ldrh` and `strh` stand earlier and apply to them.
-/

set_option autoImplicit false

namespace FaultTriage

/-! ## The order of the rows -/

namespace TableRow

theorem applies_mnemonic_append {row : TableRow} (extensible : row.rowMatch ≠ .exact) {code : List Char}
    {condition : Condition} (isCode : Condition.ofCode? code = some condition) :
    row.applies (row.mnemonic.toList ++ code) = true := by
  unfold TableRow.applies
  cases matching : row.rowMatch with
  | leading => simp
  | exact => exact absurd matching extensible
  | conditional => simp [Text.stripStart?_append, isCode]

/-- A mnemonic with a condition code that reads as a halfword form with a letter after it. -/
def ReadsAsHalfword (row : TableRow) (code : List Char) : Prop :=
  row.mnemonic ∈ ["ldr", "str"] ∧ code ∈ ["hi".toList, "hs".toList]

instance (row : TableRow) (code : List Char) : Decidable (row.ReadsAsHalfword code) :=
  inferInstanceAs (Decidable (_ ∧ _))

/--
An earlier row does not apply to the mnemonic of a later one, alone or with a condition code.  Only
rows of which one starts like the other have to be looked at.
-/
def LeavesTo (earlier later : TableRow) : Prop :=
  earlier.mnemonic.toList <+: later.mnemonic.toList ∨
      later.mnemonic.toList <+: earlier.mnemonic.toList →
    earlier.applies later.mnemonic.toList = false ∧
    ∀ entry ∈ Condition.codes, entry.2 ≠ .always → ¬ later.ReadsAsHalfword entry.1.toList →
      earlier.applies (later.mnemonic.toList ++ entry.1.toList) = false

instance : DecidableRel LeavesTo := fun earlier later =>
  inferInstanceAs (Decidable
    (earlier.mnemonic.toList <+: later.mnemonic.toList ∨
        later.mnemonic.toList <+: earlier.mnemonic.toList →
      earlier.applies later.mnemonic.toList = false ∧
      ∀ entry ∈ Condition.codes, entry.2 ≠ .always → ¬ later.ReadsAsHalfword entry.1.toList →
        earlier.applies (later.mnemonic.toList ++ entry.1.toList) = false))

end TableRow

namespace Table

open TableRow

theorem leavesTo_arm : Arm.rows.Pairwise LeavesTo := by decide +kernel

/-- A row is found if it applies and no row that leaves it something does. -/
theorem lookup?_arm_of_leavesTo {row : TableRow} (listed : row ∈ rows .arm) {mnemonic : List Char}
    (applies : row.applies mnemonic = true)
    (left : ∀ earlier ∈ rows .arm, LeavesTo earlier row → earlier.applies mnemonic = false) :
    lookup? .arm mnemonic = some row := by
  obtain ⟨before, after, split⟩ := List.append_of_mem listed
  have ordered : (before ++ row :: after).Pairwise LeavesTo := split ▸ leavesTo_arm
  refine List.find?_eq_some_iff_append.mpr ⟨applies, before, after, split, ?_⟩
  intro earlier member
  have leaves := (List.pairwise_append.mp ordered).2.2 earlier member row List.mem_cons_self
  simp [left earlier (split ▸ List.mem_append_left _ member) leaves]

theorem lookup?_arm_mnemonic_append {row : TableRow} (listed : row ∈ rows .arm)
    (extensible : row.rowMatch ≠ .exact) {code : List Char} {condition : Condition}
    (isCode : Condition.ofCode? code = some condition) (binding : condition ≠ .always)
    (distinct : ¬ row.ReadsAsHalfword code) :
    lookup? .arm (row.mnemonic.toList ++ code) = some row := by
  refine lookup?_arm_of_leavesTo listed (applies_mnemonic_append extensible isCode)
    fun earlier _ leaves => ?_
  obtain ⟨entry, member, rfl, rfl⟩ := Condition.mem_codes_of_ofCode? isCode
  cases applies : earlier.applies (row.mnemonic.toList ++ entry.1.toList) with
  | false => rfl
  | true =>
      have near := List.prefix_or_prefix_of_prefix (prefix_of_applies applies)
        (List.prefix_append row.mnemonic.toList entry.1.toList)
      rw [← applies, (leaves near).2 entry member binding distinct]

end Table

/-! ## The suffix -/

namespace MnemonicSuffix

theorem ofRest_code {code : List Char} {condition : Condition}
    (isCode : Condition.ofCode? code = some condition) : ofRest code = ⟨false, some condition⟩ := by
  have checked : ∀ entry ∈ Condition.codes, ofRest entry.1.toList = ⟨false, some entry.2⟩ := by
    decide +kernel
  obtain ⟨entry, member, rfl, rfl⟩ := Condition.mem_codes_of_ofCode? isCode
  exact checked entry member

theorem parse_append_code (root : List Char) {code : List Char} {condition : Condition}
    (isCode : Condition.ofCode? code = some condition) :
    parse (root ++ code) (Text.byteLength root) = ⟨false, some condition⟩ := by
  have checked : ∀ entry ∈ Condition.codes, Text.byteLength entry.1.toList = 2 := by decide +kernel
  obtain ⟨entry, member, rfl, rfl⟩ := Condition.mem_codes_of_ofCode? isCode
  have long := checked entry member
  have notEmpty : entry.1.toList.isEmpty = false := by
    cases letters : entry.1.toList with
    | nil => simp [letters] at long
    | cons => rfl
  have notShort : ¬ Text.byteLength (root ++ entry.1.toList) ≤ 1 := by
    rw [Text.byteLength_append]
    omega
  simp only [parse, Text.dropBytes?_append, notShort, notEmpty, decide_false, Bool.or_self,
    Bool.false_eq_true, if_false]
  exact ofRest_code isCode

theorem parse_self (root : List Char) : parse root (Text.byteLength root) = none := by
  have whole := Text.dropBytes?_append root []
  rw [List.append_nil] at whole
  simp [parse, whole]

end MnemonicSuffix

/-! ## Classification -/

namespace Classification

/--
The instruction is of a kind if it executes, and executes under a condition: the flags decide on it,
and it is unpredictable when they are not known.
-/
structure ExecutesUnder (condition : Condition) (flagsValid : Bool) (flags : ProcessorFlags)
    (kind : InstructionKind) (classification : Classification) : Prop where
  executed : classification.executedKind = kind
  reads : ∀ flag ∈ condition.flagsRead, flag ∈ classification.source
  unknown : flagsValid = false → classification.kind = .unpredictable
  unmet : flagsValid = true → condition.holds flags = false → classification.kind = .noop
  met : flagsValid = true → condition.holds flags = true → classification.kind = kind

theorem named_of_mem_flagsRead {condition : Condition} {flag : Operand}
    (read : flag ∈ condition.flagsRead) : flag ≠ "" := by
  rintro rfl
  cases condition <;> revert read <;> decide

theorem executedKind_ofText (flagsValid : Bool) (flags : ProcessorFlags)
    {root : List Char} {row : TableRow} (found : Table.lookup? .arm root = some row)
    (arguments : List Char) :
    (ofText .arm flagsValid flags root arguments).executedKind =
      (rowEffect .arm row arguments).kind := by
  simp [ofText, found]

theorem toEffect_ofText (flagsValid : Bool) (flags : ProcessorFlags)
    {root : List Char} {row : TableRow} (found : Table.lookup? .arm root = some row)
    (arguments : List Char) :
    (ofText .arm flagsValid flags root arguments).toEffect =
      applySuffix (.parse root (Text.byteLength row.mnemonic.toList)) flagsValid flags
        (rowEffect .arm row arguments) := by
  simp [ofText, found]

theorem toEffect_ofText_mnemonic (flagsValid : Bool) (flags : ProcessorFlags) {row : TableRow}
    (listed : row ∈ Table.rows .arm) (arguments : List Char) :
    (ofText .arm flagsValid flags row.mnemonic.toList arguments).toEffect =
      rowEffect .arm row arguments := by
  rw [toEffect_ofText flagsValid flags (Table.lookup?_mnemonic listed),
    MnemonicSuffix.parse_self]
  rfl

theorem executesUnder_of_lookup? (flagsValid : Bool) (flags : ProcessorFlags)
    {code : List Char} {row : TableRow} {condition : Condition}
    (found : Table.lookup? .arm (row.mnemonic.toList ++ code) = some row)
    (isCode : Condition.ofCode? code = some condition) (binding : condition ≠ .always)
    (arguments : List Char) :
    ExecutesUnder condition flagsValid flags (rowEffect .arm row arguments).kind
      (ofText .arm flagsValid flags (row.mnemonic.toList ++ code) arguments) := by
  have effect := toEffect_ofText flagsValid flags found arguments
  rw [MnemonicSuffix.parse_append_code _ isCode] at effect
  simp only [applySuffix, Bool.false_eq_true, if_false] at effect
  constructor
  case executed => exact executedKind_ofText flagsValid flags found arguments
  case reads =>
    intro flag read
    simp [effect, read, named_of_mem_flagsRead read]
  case unknown =>
    rintro rfl
    simp [effect, conditionalKind, binding]
  case unmet =>
    rintro rfl fails
    simp [effect, conditionalKind, binding, fails]
  case met =>
    rintro rfl holds
    simp [effect, conditionalKind, binding, holds]

end Classification

open Classification

/-- The four mnemonics that read as halfword forms are taken to execute in any case. -/
theorem unconditional_of_readsAsHalfword {row : TableRow} {code : List Char}
    (halfword : row.ReadsAsHalfword code) :
    ∃ instruction : Instruction, instruction.flagsValid = false ∧
      instruction.rootMnemonic = row.mnemonic.toList ++ code ∧
      (instruction.classify .arm .unknown).kind = .dataMove := by
  have checked : ∀ mnemonic ∈ ["ldr", "str"], ∀ code ∈ ["hi".toList, "hs".toList],
      (Instruction.ofLine (.bare (mnemonic.toList ++ code) []) 0 none false).rootMnemonic =
          mnemonic.toList ++ code ∧
        ((Instruction.ofLine (.bare (mnemonic.toList ++ code) []) 0 none false).classify .arm
          .unknown).kind = .dataMove := by decide +kernel
  exact ⟨_, rfl, checked row.mnemonic halfword.1 code halfword.2⟩

/--
An ARM mnemonic of the table followed by a condition code executes under the condition, whatever its
arguments and the flags, unless it reads as a halfword form.  The kind that it has when it executes
is the one that the mnemonic alone gives to the same arguments.
-/
theorem executesUnder_condition_iff (row : TableRow) (listed : row ∈ Table.rows .arm)
    (extensible : row.rowMatch ≠ .exact) (code : List Char) (condition : Condition)
    (isCode : Condition.ofCode? code = some condition) (binding : condition ≠ .always) :
    (∀ (instruction : Instruction) (flags : ProcessorFlags),
      instruction.rootMnemonic = row.mnemonic.toList ++ code →
      ExecutesUnder condition instruction.flagsValid flags
        (ofText .arm instruction.flagsValid flags row.mnemonic.toList
          instruction.arguments).executedKind
        (instruction.classify .arm flags).toClassification) ↔
    ¬ row.ReadsAsHalfword code := by
  constructor
  · intro recognised halfword
    obtain ⟨instruction, invalid, root, kind⟩ := unconditional_of_readsAsHalfword halfword
    have unpredictable := (recognised instruction .unknown root).unknown invalid
    rw [kind] at unpredictable
    cases unpredictable
  · intro distinct instruction flags root
    have found := Table.lookup?_arm_mnemonic_append listed extensible isCode binding distinct
    have alone := Table.lookup?_mnemonic listed
    rw [executedKind_ofText _ _ alone]
    have executes := executesUnder_of_lookup? instruction.flagsValid flags found isCode binding
      instruction.arguments
    rwa [← root] at executes

def branchIfLess : Instruction :=
  .ofLine (.bare "blt".toList "00401010".toList) 0 none false

theorem branchIfLess_is_unpredictable_branch :
    (branchIfLess.classify .arm .unknown).kind = .unpredictable ∧
      (branchIfLess.classify .arm .unknown).executedKind = .branch ∧
      Register.signFlag ∈ (branchIfLess.classify .arm .unknown).source ∧
      Register.overflowFlag ∈ (branchIfLess.classify .arm .unknown).source := by
  have row : ∃ row ∈ Table.rows .arm, row.rowMatch ≠ .exact ∧ row.mnemonic = "b" := by
    decide +kernel
  obtain ⟨row, listed, extensible, mnemonic⟩ := row
  have recognised := executesUnder_condition_iff row listed extensible "lt".toList .less
    (by decide +kernel) (by decide)
  rw [TableRow.ReadsAsHalfword, mnemonic] at recognised
  have executes := recognised.mpr (by decide +kernel) branchIfLess .unknown (by decide +kernel)
  refine ⟨executes.unknown rfl, executes.executed.trans (by decide +kernel), ?_, ?_⟩
  · exact executes.reads _ (by decide +kernel)
  · exact executes.reads _ (by decide +kernel)

def loadIfHigher : Instruction :=
  .bare .arm false .unknown "ldrhi".toList "r0,[r1]".toList

theorem loadIfHigher_executes_in_any_case :
    (∃ row ∈ Table.rows .arm, row.rowMatch = .leading ∧ row.mnemonic = "ldr" ∧
      loadIfHigher.rootMnemonic = row.mnemonic.toList ++ "hi".toList) ∧
    Condition.ofCode? "hi".toList = some .higher ∧
    loadIfHigher.flagsValid = false ∧ loadIfHigher.kind = .dataMove ∧
    ∀ flag ∈ Condition.higher.flagsRead, flag ∉ loadIfHigher.source := by
  decide +kernel

end FaultTriage
