import FaultTriage.Proofs.Classification.ConditionCode
import FaultTriage.Proofs.Scan.RegisterList

/-!
# Transfers of several registers

A push, a pop, a load and a store move the registers that their list denotes, however the list is
written.  The commas inside the list leave the side as it is; the one behind the base of a load or a
store changes it.
-/

set_option autoImplicit false

namespace FaultTriage

namespace Scan

theorem file_nil (shape : OperandShape) (inSource indirect : Bool) (operands : Operands) :
    file shape inSource indirect [] operands = operands := by
  simp only [file]
  repeat' split
  all_goals rfl

namespace Arm

open Register

/-! ## What a list denotes -/

/-- An item stands for the register it names, or for all from its first to its last one. -/
def ListItem.Denotes (name : Operand) : ListItem → Prop
  | single register => name = register
  | range first last =>
      name ∈ coreRegisters ∧ coreRegisters.idxOf first ≤ coreRegisters.idxOf name ∧
        coreRegisters.idxOf name ≤ coreRegisters.idxOf last

def denoted (items : List ListItem) : OperandSet :=
  .ofList (items.flatMap ListItem.registers)

theorem mem_drop_take_iff {names : List Operand} (distinct : names.Nodup) (name : Operand)
    (low high : Nat) :
    name ∈ (names.take (high + 1)).drop low ↔
      name ∈ names ∧ low ≤ names.idxOf name ∧ names.idxOf name ≤ high := by
  rw [List.mem_drop_iff_getElem]
  constructor
  · rintro ⟨offset, bounded, rfl⟩
    rw [List.length_take] at bounded
    rw [List.getElem_take, distinct.idxOf_getElem]
    exact ⟨List.getElem_mem _, by omega, by omega⟩
  · rintro ⟨member, above, below⟩
    have inside := List.idxOf_lt_length_iff.mpr member
    refine ⟨names.idxOf name - low, by rw [List.length_take]; omega, ?_⟩
    simp only [List.getElem_take, Nat.add_sub_cancel' above, List.getElem_idxOf]

theorem mem_registers_iff (item : ListItem) (name : Operand) :
    name ∈ item.registers ↔ item.Denotes name := by
  cases item with
  | single register => exact List.mem_singleton
  | range first last => exact mem_drop_take_iff (by decide +kernel) name _ _

theorem mem_denoted_iff {items : List ListItem} (valid : ∀ item ∈ items, item.Valid)
    (name : Operand) : name ∈ denoted items ↔ ∃ item ∈ items, item.Denotes name := by
  have spelled : "" ∉ armRegisters := by decide +kernel
  simp only [denoted, OperandSet.mem_ofList, List.mem_flatMap, mem_registers_iff]
  refine and_iff_left_of_imp ?_
  rintro ⟨item, member, denotes⟩ rfl
  have validItem := valid item member
  cases item with
  | single register =>
      cases denotes
      exact spelled validItem
  | range => exact spelled (mem_armRegisters_of_core denotes.1)

inductive Braced : List ListItem → List Char → Prop where
  | empty : Braced [] ['\x7b', '\x7d']
  | listed {items : List ListItem} {text : List Char} :
      WritesList items text → Braced items text

theorem Braced.valid {items : List ListItem} {text : List Char} (braced : Braced items text) :
    ∀ item ∈ items, item.Valid := by
  cases braced with
  | empty => exact List.forall_mem_nil _
  | listed written => exact written.1

def based (base : Operand) (writtenBack : Bool) (list : List Char) : List Char :=
  base.toList ++ if writtenBack then '!' :: ',' :: list else ',' :: list

/-! ## Reading a list and its base -/

section

variable (shape : OperandShape) (inSource : Bool) (operands : Operands)

theorem read_braced (operandsFound : Nat) {items : List ListItem} {text : List Char}
    (braced : Braced items text) :
    read shape (.outside inSource operandsFound operands) text =
      .outside inSource operandsFound
        (file shape inSource false (items.flatMap ListItem.registers) operands) := by
  cases braced with
  | empty =>
      rw [List.flatMap_nil, file_nil]
      rfl
  | listed written => exact read_list shape inSource operandsFound operands written

/-- The comma behind the base ends the operands of the initial side. -/
theorem cross_comma (single : shape.dualInitial = false) (word : List Char) :
    (State.outside inSource 0 operands).cross shape ⟨word, some ','⟩ =
      .outside (sideAfterComma shape) 1 operands := by
  simp [State.outside, State.cross, initialOperands, single]

theorem step_baseComma (single : shape.dualInitial = false) {base : Operand}
    (register : base ∈ armRegisters) :
    step shape (.outside inSource 0 operands) ⟨base.toList, some ','⟩ =
      .outside (sideAfterComma shape) 1 (file shape inSource false [base] operands) := by
  have named : named none base.toList = [base] := by simp [named]
  simp only [step, cross_comma shape inSource operands single, roleOf_toList register]
  simp [State.outside, named]

theorem step_baseMark {base : Operand} (register : base ∈ armRegisters) :
    step shape (.outside inSource 0 operands) ⟨base.toList, some '!'⟩ =
      .outside inSource 0 (file shape inSource false [base] operands) := by
  have named : named none base.toList = [base] := by simp [named]
  simp only [step, roleOf_toList register]
  simp [State.outside, State.cross, named]

theorem step_comma (single : shape.dualInitial = false) :
    step shape (.outside inSource 0 operands) ⟨[], some ','⟩ =
      .outside (sideAfterComma shape) 1 operands := by
  simp only [step, cross_comma shape inSource operands single]
  rfl

theorem read_based (single : shape.dualInitial = false) {base : Operand}
    (register : base ∈ armRegisters) (writtenBack : Bool) (text : List Char) :
    read shape (.outside inSource 0 operands) (based base writtenBack text) =
      read shape
        (.outside (sideAfterComma shape) 1 (file shape inSource false [base] operands)) text := by
  cases writtenBack with
  | false =>
      rw [based, if_neg Bool.false_ne_true, read_word_append shape register (by decide),
        step_baseComma shape inSource operands single register]
  | true =>
      rw [based, if_pos rfl, read_word_append shape register (by decide),
        step_baseMark shape inSource operands register, read_cons shape (by decide),
        step_comma shape inSource _ single]

end

theorem operands_braced (row : TableRow) (takes : row.shape.isEmpty = false)
    {items : List ListItem} {text : List Char} (braced : Braced items text) :
    Arm.operands row text =
      file row.shape (initialSide row.shape) false (items.flatMap ListItem.registers)
        (implied row) := by
  rw [Arm.operands, if_neg (by simp [takes])]
  exact congrArg State.operands (read_braced row.shape _ _ 0 braced)

theorem operands_based (row : TableRow) (takes : row.shape.isEmpty = false)
    (single : row.shape.dualInitial = false) {base : Operand} (register : base ∈ armRegisters)
    (writtenBack : Bool) {items : List ListItem} {text : List Char} (braced : Braced items text) :
    Arm.operands row (based base writtenBack text) =
      file row.shape (sideAfterComma row.shape) false (items.flatMap ListItem.registers)
        (file row.shape (initialSide row.shape) false [base] (implied row)) := by
  have read := read_based row.shape (initialSide row.shape) (implied row) single register
    writtenBack text
  rw [read_braced row.shape _ _ 1 braced] at read
  rw [Arm.operands, if_neg (by simp [takes])]
  exact congrArg State.operands read

end Arm

end Scan

/-! ## Adjustments of transfers -/

namespace Adjustment

open Register

variable (arguments : List Char) (effect : Effect)

theorem toOperands_writeBack :
    (apply arguments effect .writeBack).toOperands = effect.toOperands := by
  simp only [apply]
  split <;> rfl

/-- A load that branches keeps its operands; only a pop reads from the stack what it branches to. -/
theorem toOperands_branchByLoad (load : effect.kind = .dataMove) :
    (apply arguments effect .branchByLoad).toOperands = effect.toOperands := by
  simp only [apply, load]
  split <;> rfl

theorem toOperands_branchByPop (pop : effect.kind = .stackPop) :
    (apply arguments effect .branchByLoad).toOperands =
      if programCounter ∈ effect.destination then
        { effect.toOperands with source := effect.source.insert stackContents }
      else
        effect.toOperands := by
  simp only [apply, pop]
  split <;> rfl

end Adjustment

namespace Classification

open Register Scan Scan.Arm

def operandsOf (flagsValid : Bool) (flags : ProcessorFlags) (mnemonic : String)
    (arguments : List Char) : Operands :=
  (ofText .arm flagsValid flags mnemonic.toList arguments).toOperands

theorem operandsOf_mnemonic (flagsValid : Bool) (flags : ProcessorFlags) {row : TableRow}
    (listed : row ∈ Table.rows .arm) (arguments : List Char) :
    operandsOf flagsValid flags row.mnemonic arguments =
      (rowEffect .arm row arguments).toOperands :=
  congrArg Effect.toOperands (toEffect_ofText_mnemonic flagsValid flags listed arguments)

section

variable (flagsValid : Bool) (flags : ProcessorFlags) {items : List ListItem} {text : List Char}
  (braced : Braced items text)

include braced

theorem operandsOf_push :
    operandsOf flagsValid flags "push" text =
      { (∅ : Operands) with source := denoted items, explicit := denoted items } := by
  have listed : .starting "push" .stackPush Table.Arm.registersRead ∈ Table.rows .arm := by
    decide +kernel
  refine (operandsOf_mnemonic flagsValid flags listed text).trans ?_
  exact operands_braced (.starting "push" .stackPush Table.Arm.registersRead) rfl braced

theorem operandsOf_pop :
    operandsOf flagsValid flags "pop" text =
      { (∅ : Operands) with
        source := if programCounter ∈ denoted items then .ofList [stackContents] else ∅
        destination := denoted items
        explicit := denoted items } := by
  let row : TableRow :=
    { TableRow.starting "pop" .stackPop Table.Arm.registersWritten with
      adjustments := [.branchByLoad] }
  have listed : row ∈ Table.rows .arm := by decide +kernel
  have found : Arm.operands row text =
      { (∅ : Operands) with destination := denoted items, explicit := denoted items } :=
    operands_braced row rfl braced
  refine (operandsOf_mnemonic flagsValid flags listed text).trans ?_
  refine (Adjustment.toOperands_branchByPop text { Arm.operands row text with kind := .stackPop }
    rfl).trans ?_
  rw [found]
  split <;> rfl

variable {base : Operand} (register : base ∈ armRegisters) (writtenBack : Bool)

include register

theorem operandsOf_ldm :
    operandsOf flagsValid flags "ldm" (based base writtenBack text) =
      { (∅ : Operands) with
        source := .ofList [base]
        destination := denoted items
        explicit := .ofList (base :: items.flatMap ListItem.registers) } := by
  let row : TableRow :=
    { TableRow.starting "ldm" .dataMove .loadMultiple with
      adjustments := Table.Arm.loadAdjustments }
  have listed : row ∈ Table.rows .arm := by decide +kernel
  refine (operandsOf_mnemonic flagsValid flags listed _).trans ?_
  refine (Adjustment.toOperands_writeBack _ _).trans ?_
  refine (Adjustment.toOperands_branchByLoad _ { Arm.operands row _ with kind := .dataMove }
    rfl).trans ?_
  exact operands_based row rfl rfl register writtenBack braced

theorem operandsOf_stm :
    operandsOf flagsValid flags "stm" (based base writtenBack text) =
      { (∅ : Operands) with
        source := denoted items
        destinationPointer := .ofList [base]
        explicit := .ofList (base :: items.flatMap ListItem.registers) } := by
  let row : TableRow :=
    { TableRow.starting "stm" .dataMove .storeMultiple with adjustments := [.writeBack] }
  have listed : row ∈ Table.rows .arm := by decide +kernel
  refine (operandsOf_mnemonic flagsValid flags listed _).trans ?_
  refine (Adjustment.toOperands_writeBack _ { Arm.operands row _ with kind := .dataMove }).trans ?_
  exact operands_based row rfl rfl register writtenBack braced

end

/--
A push reads and a pop writes what the list denotes, whatever singles and ranges it is made of; a
load of several registers writes it and reads the base; a store of several registers reads it and
writes through the base.  A pop into the program counter reads the stack.
-/
theorem register_lists_transferred (flagsValid : Bool) (flags : ProcessorFlags)
    {items : List ListItem} {text : List Char} (braced : Braced items text) {base : Operand}
    (register : base ∈ armRegisters) (writtenBack : Bool) :
    (∀ name, name ∈ denoted items ↔ ∃ item ∈ items, item.Denotes name) ∧
      operandsOf flagsValid flags "push" text =
        { (∅ : Operands) with source := denoted items, explicit := denoted items } ∧
      operandsOf flagsValid flags "pop" text =
        { (∅ : Operands) with
          source := if programCounter ∈ denoted items then .ofList [stackContents] else ∅
          destination := denoted items
          explicit := denoted items } ∧
      operandsOf flagsValid flags "ldm" (based base writtenBack text) =
        { (∅ : Operands) with
          source := .ofList [base]
          destination := denoted items
          explicit := .ofList (base :: items.flatMap ListItem.registers) } ∧
      operandsOf flagsValid flags "stm" (based base writtenBack text) =
        { (∅ : Operands) with
          source := denoted items
          destinationPointer := .ofList [base]
          explicit := .ofList (base :: items.flatMap ListItem.registers) } :=
  ⟨mem_denoted_iff braced.valid, operandsOf_push flagsValid flags braced,
    operandsOf_pop flagsValid flags braced,
    operandsOf_ldm flagsValid flags braced register writtenBack,
    operandsOf_stm flagsValid flags braced register writtenBack⟩

def savedRegisters : List ListItem := [.range "r4" "r7", .single "r11", .single "pc"]

theorem savedRegisters_transferred :
    let text := "\x7br4-r7, r11,pc\x7d".toList
    Braced savedRegisters text ∧ "sp" ∈ armRegisters ∧
      denoted savedRegisters = .ofList ["r4", "r5", "r6", "r7", "r11", "pc"] ∧
      (operandsOf false .unknown "pop" text).source = .ofList [stackContents] ∧
      (operandsOf false .unknown "ldm" ("sp!,".toList ++ text)).destination =
        denoted savedRegisters ∧
      (operandsOf false .unknown "stm" ("sp!,".toList ++ text)).destinationPointer =
        .ofList ["sp"] := by
  intro text
  have joined : Joined savedRegisters "r4-r7, r11,pc".toList :=
    .commaSpace (.range "r4" "r7") (.comma (.single "r11") (.last (.single "pc")))
  have braced : Braced savedRegisters text :=
    .listed ⟨by decide +kernel, _, joined, by decide +kernel⟩
  have listed : "sp" ∈ armRegisters := by decide +kernel
  obtain ⟨-, -, pop, ldm, stm⟩ :=
    register_lists_transferred false .unknown braced listed true
  have returns : programCounter ∈ denoted savedRegisters := by decide +kernel
  refine ⟨braced, listed, by decide +kernel, ?_, congrArg Operands.destination ldm,
    congrArg Operands.destinationPointer stm⟩
  rw [pop]
  simp only [returns, if_true]

end Classification

end FaultTriage
