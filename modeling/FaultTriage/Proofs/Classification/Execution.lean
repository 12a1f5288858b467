import FaultTriage.Disassembly
import FaultTriage.Proofs.Classification.ConditionCode

/-!
# What the processor flags decide

The flags before an instruction only decide whether it executes.  A line is an instruction under all
flags or under none, with the same operands and the same kind when it executes.  Only on ARM the
kind itself depends on the flags, and only where the mnemonic has a condition code after it: then
the instruction may be idle, or it is unpredictable because the flags are not known.
-/

set_option autoImplicit false

namespace FaultTriage

namespace Classification

/-! ## Kinds of rows -/

def adjustedKinds : List InstructionKind := [.branch, .returning, .blockDataMove]

theorem kind_apply_cases (arguments : List Char) (effect : Effect) (adjustment : Adjustment) :
    (adjustment.apply arguments effect).kind = effect.kind ∨
      (adjustment.apply arguments effect).kind ∈ adjustedKinds := by
  cases adjustment <;> simp only [Adjustment.apply] <;> repeat' split
  all_goals simp [adjustedKinds]

theorem kind_applyAll_cases (arguments : List Char) (effect : Effect)
    (adjustments : List Adjustment) :
    (Adjustment.applyAll arguments effect adjustments).kind = effect.kind ∨
      (Adjustment.applyAll arguments effect adjustments).kind ∈ adjustedKinds := by
  induction adjustments generalizing effect with
  | nil => exact .inl rfl
  | cons adjustment rest ih =>
      rcases ih (adjustment.apply arguments effect) with same | adjusted
      · rcases kind_apply_cases arguments effect adjustment with kept | adjusted
        · exact .inl (same.trans kept)
        · exact .inr (same ▸ adjusted)
      · exact .inr adjusted

theorem kind_of_kind_rowEffect {architecture : Architecture} {row : TableRow}
    {arguments : List Char} {kind : InstructionKind} (unadjusted : kind ∉ adjustedKinds)
    (same : (rowEffect architecture row arguments).kind = kind) : row.kind = kind := by
  unfold rowEffect at same
  rcases kind_applyAll_cases arguments _ row.adjustments with kept | adjusted
  · exact kept.symm.trans same
  · exact absurd (same ▸ adjusted) unadjusted

theorem kind_rowEffect_ne_unpredictable {row : TableRow} (listed : row ∈ Table.rows .arm)
    (arguments : List Char) : (rowEffect .arm row arguments).kind ≠ .unpredictable := by
  have checked : ∀ row ∈ Table.rows .arm, row.kind ≠ .unpredictable := by decide +kernel
  intro same
  exact checked row listed (kind_of_kind_rowEffect (by decide) same)

/-! ## Suffixes -/

theorem toOperands_applySuffix (suffix : MnemonicSuffix) (flagsValid otherValid : Bool)
    (flags otherFlags : ProcessorFlags) (effect : Effect) :
    (applySuffix suffix flagsValid flags effect).toOperands =
      (applySuffix suffix otherValid otherFlags effect).toOperands := by
  unfold applySuffix
  cases suffix.condition <;> rfl

theorem kind_applySuffix_of_none {suffix : MnemonicSuffix} (unconditional : suffix.condition = none)
    (flagsValid : Bool) (flags : ProcessorFlags) (effect : Effect) :
    (applySuffix suffix flagsValid flags effect).kind = effect.kind := by
  simp only [applySuffix, unconditional]
  split <;> rfl

theorem kind_applySuffix_of_some {suffix : MnemonicSuffix} {condition : Condition}
    (conditional : suffix.condition = some condition) (flagsValid : Bool) (flags : ProcessorFlags)
    (effect : Effect) :
    (applySuffix suffix flagsValid flags effect).kind =
      conditionalKind condition flagsValid flags effect.kind := by
  simp only [applySuffix, conditional]
  split <;> rfl

theorem conditionalKind_cases (condition : Condition) (flagsValid : Bool) (flags : ProcessorFlags)
    (kind : InstructionKind) :
    conditionalKind condition flagsValid flags kind = kind ∨
      condition ≠ .always ∧
        ((flagsValid = false ∧ conditionalKind condition flagsValid flags kind = .unpredictable) ∨
          (flagsValid = true ∧ condition.holds flags = false ∧
            conditionalKind condition flagsValid flags kind = .noop)) := by
  by_cases always : condition = .always
  · exact .inl (by simp [conditionalKind, always])
  · cases flagsValid with
    | false => exact .inr ⟨always, .inl ⟨rfl, by simp [conditionalKind, always]⟩⟩
    | true =>
        cases met : condition.holds flags with
        | true => exact .inl (by simp [conditionalKind, met])
        | false => exact .inr ⟨always, .inr ⟨rfl, rfl, by simp [conditionalKind, always, met]⟩⟩

end Classification

/-! ## Condition codes in mnemonics -/

/--
The mnemonic has the code of a condition other than `al` after the mnemonic of its row; only the
letter that sets the flags may stand between them.
-/
def CarriesCondition (mnemonic : List Char) : Prop :=
  ∃ row setter code rest condition, Table.lookup? .arm mnemonic = some row ∧
    mnemonic = row.mnemonic.toList ++ (setter ++ (code ++ rest)) ∧
    (setter = [] ∨ setter = ['s']) ∧ Condition.ofCode? code = some condition ∧
    condition ≠ .always

namespace MnemonicSuffix

theorem exists_code_of_leadingCondition? {characters : List Char} {condition : Condition}
    (found : leadingCondition? characters = some condition) :
    ∃ code rest, characters = code ++ rest ∧ Condition.ofCode? code = some condition := by
  obtain ⟨code, taken, isCode⟩ := Option.bind_eq_some_iff.mp found
  obtain ⟨rest, rfl⟩ := Text.prefix_of_takeBytes? taken
  exact ⟨code, rest, rfl, isCode⟩

theorem exists_code_of_ofRest {characters : List Char} {condition : Condition}
    (found : (ofRest characters).condition = some condition) :
    ∃ setter code rest, characters = setter ++ (code ++ rest) ∧
      (setter = [] ∨ setter = ['s']) ∧ Condition.ofCode? code = some condition := by
  unfold ofRest at found
  split at found
  · obtain ⟨code, rest, rfl, isCode⟩ := exists_code_of_leadingCondition? found
    exact ⟨['s'], code, rest, rfl, .inr rfl, isCode⟩
  · obtain ⟨code, rest, rfl, isCode⟩ := exists_code_of_leadingCondition? found
    exact ⟨[], code, rest, rfl, .inl rfl, isCode⟩

theorem carriesCondition_of_parse {mnemonic : List Char} {row : TableRow}
    (found : Table.lookup? .arm mnemonic = some row) {condition : Condition}
    (parsed : (parse mnemonic (Text.byteLength row.mnemonic.toList)).condition = some condition)
    (binding : condition ≠ .always) : CarriesCondition mnemonic := by
  obtain ⟨suffix, same⟩ := TableRow.prefix_of_applies (Table.applies_of_lookup? found)
  rw [parse, ← same, Text.dropBytes?_append] at parsed
  simp only at parsed
  split at parsed
  · cases parsed
  · obtain ⟨setter, code, rest, rfl, sets, isCode⟩ := exists_code_of_ofRest parsed
    exact ⟨row, setter, code, rest, condition, found, same.symm, sets, isCode, binding⟩

end MnemonicSuffix

/-- Without a condition code the flags decide nothing. -/
theorem Classification.ofText_arm_cases (flagsValid : Bool) (flags : ProcessorFlags)
    (root arguments : List Char) :
    (ofText .arm flagsValid flags root arguments).executedKind ≠ .unpredictable ∧
      ((ofText .arm flagsValid flags root arguments).kind =
          (ofText .arm flagsValid flags root arguments).executedKind ∨
        CarriesCondition root ∧
          ((flagsValid = false ∧
              (ofText .arm flagsValid flags root arguments).kind = .unpredictable) ∨
            (ofText .arm flagsValid flags root arguments).kind = .noop)) := by
  cases found : Table.lookup? .arm root with
  | none => simp [ofText, found, unknownEffect]
  | some row =>
      have executed := executedKind_ofText flagsValid flags found arguments
      have kind := congrArg Effect.kind (toEffect_ofText flagsValid flags found arguments)
      rw [executed, kind]
      refine ⟨kind_rowEffect_ne_unpredictable (List.mem_of_find?_eq_some found) arguments, ?_⟩
      generalize suffix_eq :
        MnemonicSuffix.parse root (Text.byteLength row.mnemonic.toList) = suffix
      cases parsed : suffix.condition with
      | none => exact .inl (kind_applySuffix_of_none parsed flagsValid flags _)
      | some condition =>
          rw [kind_applySuffix_of_some parsed]
          rw [← suffix_eq] at parsed
          rcases conditionalKind_cases condition flagsValid flags
              (rowEffect .arm row arguments).kind
            with kept | ⟨binding, unknown | ⟨_, _, idle⟩⟩
          · exact .inl kept
          · exact .inr ⟨MnemonicSuffix.carriesCondition_of_parse found parsed binding, .inl unknown⟩
          · exact .inr ⟨MnemonicSuffix.carriesCondition_of_parse found parsed binding, .inr idle⟩

/-! ## Two readings of a line -/

/-- Two instructions that may only differ in whether they execute and in what is known of it. -/
structure SameApartFromExecution (left right : Instruction) : Prop where
  line : left.toLine = right.toLine
  address : left.address = right.address
  nextAddress : left.nextAddress = right.nextAddress
  executedKind : left.executedKind = right.executedKind
  operands : left.toOperands = right.toOperands
  taintedInput : left.taintedInput = right.taintedInput

structure ExecutionDecided (flagsValid : Bool) (instruction : Instruction) : Prop where
  kind_cases : instruction.kind = instruction.executedKind ∨ instruction.kind = .noop ∨
    instruction.kind = .unpredictable
  unknown_flags : instruction.kind = .unpredictable → flagsValid = false
  conditional : instruction.kind ≠ instruction.executedKind →
    CarriesCondition instruction.rootMnemonic

namespace Instruction

theorem classify_sameApartFromExecution (architecture : Architecture) (instruction : Instruction)
    (flagsValid otherValid : Bool) (flags otherFlags : ProcessorFlags) :
    SameApartFromExecution
      ({ instruction with flagsValid := flagsValid }.classify architecture flags)
      ({ instruction with flagsValid := otherValid }.classify architecture otherFlags) := by
  refine ⟨rfl, rfl, rfl, ?_, ?_, rfl⟩
  · simp only [classify, Classification.ofText]
    cases Table.lookup? architecture instruction.rootMnemonic <;> rfl
  · simp only [classify, Classification.ofText]
    cases Table.lookup? architecture instruction.rootMnemonic with
    | none => rfl
    | some row =>
        cases architecture with
        | arm => exact Classification.toOperands_applySuffix _ _ _ _ _ _
        | _ => rfl

theorem executionDecided_classify (instruction : Instruction) (flags : ProcessorFlags) :
    ExecutionDecided instruction.flagsValid (instruction.classify .arm flags) := by
  obtain ⟨possible, same | ⟨carries, ⟨invalid, unpredictable⟩ | idle⟩⟩ :=
    Classification.ofText_arm_cases instruction.flagsValid flags instruction.rootMnemonic
      instruction.arguments
  · exact ⟨.inl same, fun impossible => absurd (same.symm.trans impossible) possible,
      fun different => absurd same different⟩
  · exact ⟨.inr (.inr unpredictable), fun _ => invalid, fun _ => carries⟩
  · refine ⟨.inr (.inl idle), fun impossible => ?_, fun _ => carries⟩
    cases idle.symm.trans impossible

end Instruction

theorem disassemble_eq_map (architecture : Architecture) (line : String)
    (nextAddress : Option Address) (flagsValid otherValid : Bool)
    (flags otherFlags : ProcessorFlags) :
    disassemble architecture line nextAddress flagsValid flags =
      (disassemble architecture line nextAddress otherValid otherFlags).map fun instruction =>
        { instruction with flagsValid := flagsValid }.classify architecture flags := by
  simp only [disassemble]
  repeat' split
  all_goals rfl

theorem exists_ofLine_of_disassemble {architecture : Architecture} {line : String}
    {nextAddress : Option Address} {flagsValid : Bool} {flags : ProcessorFlags}
    {instruction : Instruction}
    (read : disassemble architecture line nextAddress flagsValid flags = .ok instruction) :
    ∃ unclassified : Instruction, unclassified.flagsValid = flagsValid ∧
      instruction = unclassified.classify architecture flags := by
  simp only [disassemble] at read
  repeat' split at read
  all_goals cases read
  exact ⟨_, rfl, rfl⟩

/--
Under different notions of the flags a line is refused for the same reason, or it is read as the
same instruction apart from its execution.  On x86 and x64 the kind does not change either, and on
ARM it only tells what the flags decide.
-/
theorem flags_decide_execution_only (architecture : Architecture) (line : String)
    (nextAddress : Option Address) (flagsValid otherValid : Bool)
    (flags otherFlags : ProcessorFlags) :
    match disassemble architecture line nextAddress flagsValid flags,
      disassemble architecture line nextAddress otherValid otherFlags with
    | .error error, .error other => error = other
    | .ok left, .ok right =>
        SameApartFromExecution left right ∧
          match architecture with
          | .x86 | .x64 => left.kind = right.kind ∧ left.flagsModified = right.flagsModified
          | .arm => ExecutionDecided flagsValid left ∧ ExecutionDecided otherValid right
    | _, _ => False := by
  rw [disassemble_eq_map architecture line nextAddress otherValid flagsValid otherFlags flags]
  cases read : disassemble architecture line nextAddress flagsValid flags with
  | error error => rfl
  | ok left =>
      obtain ⟨unclassified, rfl, rfl⟩ := exists_ofLine_of_disassemble read
      refine ⟨unclassified.classify_sameApartFromExecution architecture unclassified.flagsValid
        otherValid flags otherFlags, ?_⟩
      cases architecture with
      | arm =>
          exact ⟨unclassified.executionDecided_classify flags,
            { unclassified with flagsValid := otherValid }.executionDecided_classify otherFlags⟩
      | x86 => exact ⟨rfl, rfl⟩
      | x64 => exact ⟨rfl, rfl⟩

end FaultTriage
