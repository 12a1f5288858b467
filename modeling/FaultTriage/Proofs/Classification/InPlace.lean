import FaultTriage.Proofs.Taint.DeclaredInputs

/-!
# Classification in place

An instruction can be classified again after it has been classified before and taint has passed
through it.  It is then reset and built up in place: its row, its text, its adjustments and its
suffix add to what the instruction already holds.  Whatever has happened to the instruction, the
result is that of classifying a fresh one.
-/

set_option autoImplicit false

namespace FaultTriage

/-! ## Building up in place -/

namespace Operands

def addImplied (row : TableRow) (operands : Operands) : Operands :=
  let added := ((operands.addSources row.reads).addDestinations row.writes).addDestinationPointers
    row.writesThrough
  { added with passedOrReturned := added.passedOrReturned.insertAll row.passes }

def addNamed (architecture : Architecture) (shape : OperandShape) (arguments : List Char)
    (operands : Operands) : Operands :=
  if shape.isEmpty then
    operands
  else
    match architecture with
    | .x86 | .x64 =>
        Scan.X86.readFrom architecture shape (Scan.initialSide shape) operands arguments
    | .arm => Scan.Arm.readFrom shape (Scan.initialSide shape) operands arguments

theorem addImplied_empty (row : TableRow) : (∅ : Operands).addImplied row = Scan.implied row := rfl

end Operands

namespace Instruction

/-- Forgets everything but the text, the addresses and the note on the flags. -/
def reset (instruction : Instruction) : Instruction :=
  { instruction with
    kind := .unknown
    executedKind := .unknown
    flagsModified := false
    source := ∅
    destination := ∅
    destinationPointer := ∅
    passedOrReturned := ∅
    explicit := ∅
    compound := ∅
    taintedInput := ∅ }

def scan (architecture : Architecture) (row : TableRow) (instruction : Instruction) :
    Instruction :=
  { instruction with
    kind := row.kind
    toOperands := (instruction.toOperands.addImplied row).addNamed architecture row.shape
      instruction.arguments }

def resolveSuffix (flags : ProcessorFlags) (row : TableRow) (instruction : Instruction) :
    Instruction :=
  let suffix := MnemonicSuffix.parse instruction.rootMnemonic
    (Text.byteLength row.mnemonic.toList)
  { instruction with
    toEffect := Classification.applySuffix suffix instruction.flagsValid flags
      instruction.toEffect }

/-- Applies a row, with the kind noted that the instruction has before its suffix is looked at. -/
def applyRow (architecture : Architecture) (flags : ProcessorFlags) (row : TableRow)
    (instruction : Instruction) : Instruction :=
  let adjusted := row.adjustments.foldl adjust (instruction.scan architecture row)
  let executed := { adjusted with executedKind := adjusted.kind }
  match architecture with
  | .arm => executed.resolveSuffix flags row
  | .x86 | .x64 => executed

def update (architecture : Architecture) (flags : ProcessorFlags) (instruction : Instruction) :
    Instruction :=
  let applied :=
    match Table.lookup? architecture instruction.rootMnemonic with
    | none => instruction
    | some row => instruction.applyRow architecture flags row
  { applied with flagsModified := Classification.modifiesFlags applied.toEffect }

def reclassify (architecture : Architecture) (flags : ProcessorFlags) (instruction : Instruction) :
    Instruction :=
  instruction.reset.update architecture flags

theorem foldl_adjust (adjustments : List Adjustment) (instruction : Instruction) :
    adjustments.foldl adjust instruction =
      { instruction with
        toEffect :=
          Adjustment.applyAll instruction.arguments instruction.toEffect adjustments } := by
  induction adjustments generalizing instruction with
  | nil => rfl
  | cons adjustment rest ih =>
      rw [List.foldl_cons, ih]
      rfl

theorem toOperands_scan_reset (architecture : Architecture) (row : TableRow)
    (instruction : Instruction) :
    (instruction.reset.scan architecture row).toOperands =
      match architecture with
      | .x86 | .x64 => Scan.X86.operands architecture row instruction.arguments
      | .arm => Scan.Arm.operands row instruction.arguments := by
  have implied : instruction.reset.toOperands.addImplied row = Scan.implied row :=
    Operands.addImplied_empty row
  cases architecture with
  | x86 | x64 =>
      simp only [scan, implied, Operands.addNamed, Scan.X86.operands]
      rfl
  | arm =>
      simp only [scan, implied, Operands.addNamed, Scan.Arm.operands]
      rfl

theorem applyAll_scan_reset (architecture : Architecture) (row : TableRow)
    (instruction : Instruction) :
    Adjustment.applyAll instruction.arguments (instruction.reset.scan architecture row).toEffect
        row.adjustments =
      Classification.rowEffect architecture row instruction.arguments := by
  have effect : (instruction.reset.scan architecture row).toEffect =
      { (instruction.reset.scan architecture row).toOperands with kind := row.kind } := rfl
  rw [effect, toOperands_scan_reset]
  cases architecture <;> rfl

theorem adjusted_reset (architecture : Architecture) (row : TableRow) (instruction : Instruction) :
    row.adjustments.foldl adjust (instruction.reset.scan architecture row) =
      { instruction.reset with
        toEffect := Classification.rowEffect architecture row instruction.arguments } := by
  rw [foldl_adjust, ← applyAll_scan_reset]
  rfl

theorem reclassify_eq_classify (architecture : Architecture) (flags : ProcessorFlags)
    (instruction : Instruction) :
    instruction.reclassify architecture flags = instruction.classify architecture flags := by
  have root : instruction.reset.rootMnemonic = instruction.rootMnemonic := rfl
  simp only [reclassify, update, root, classify, Classification.ofText]
  cases found : Table.lookup? architecture instruction.rootMnemonic with
  | none => rfl
  | some row =>
      cases architecture with
      | x86 | x64 =>
          simp only [applyRow, adjusted_reset]
          rfl
      | arm =>
          simp only [applyRow, adjusted_reset]
          rfl

/-- Without the reset, the flags that x86 writes would remain. -/
example :
    let used := bare .x86 false .unknown "sub".toList "ip,sp".toList
    used.update .arm .unknown ≠ used.classify .arm .unknown := by
  decide +kernel

/-! ## What has happened to an instruction -/

/-- What can become of an instruction at a line through notes, classifications and taint passes. -/
inductive History (line : Line) (address : Address) (nextAddress : Option Address) :
    Instruction → Prop where
  | fresh (flagsValid : Bool) :
      History line address nextAddress (ofLine line address nextAddress flagsValid)
  | noted {used : Instruction} (flagsValid : Bool) :
      History line address nextAddress used →
      History line address nextAddress { used with flagsValid := flagsValid }
  | classified {used : Instruction} (architecture : Architecture) (flags : ProcessorFlags) :
      History line address nextAddress used →
      History line address nextAddress (used.reclassify architecture flags)
  | passed {used after : Instruction} (architecture : Architecture) (taintPointers : Bool)
      {block : List Instruction} {position : Nat} :
      History line address nextAddress used → block[position]? = some used →
      (Taint.propagate architecture taintPointers block).block[position]? = some after →
      History line address nextAddress after

section

variable {line : Line} {address : Address} {nextAddress : Option Address} {used : Instruction}

theorem History.text_and_addresses (history : History line address nextAddress used) :
    used.toLine = line ∧ used.address = address ∧ used.nextAddress = nextAddress := by
  induction history with
  | fresh => exact ⟨rfl, rfl, rfl⟩
  | noted _ _ ih => exact ih
  | @classified used architecture flags _ ih =>
      rw [reclassify_eq_classify]
      exact ih
  | passed architecture taintPointers _ located found ih =>
      have edited := (Taint.edited_at_propagate architecture taintPointers located found).1
      cases edited with
      | recorded inputs => exact ih
      | poppedToMemory inputs => exact ih

theorem History.classify_eq (history : History line address nextAddress used) (flagsValid : Bool)
    (architecture : Architecture) (flags : ProcessorFlags) :
    classify architecture flags { used with flagsValid := flagsValid } =
      (ofLine line address nextAddress flagsValid).classify architecture flags := by
  obtain ⟨rfl, rfl, rfl⟩ := history.text_and_addresses
  rfl

end

end Instruction

open Instruction in
/--
Whatever has happened to an instruction, classifying it gives what classifying a fresh one with the
same text, addresses and note on the flags gives.  This holds in place and from the text alone, and
the two ways agree.
-/
theorem classification_forgets_history (line : Line) (address : Address)
    (nextAddress : Option Address) (used : Instruction)
    (history : History line address nextAddress used) (flagsValid : Bool)
    (architecture : Architecture) (flags : ProcessorFlags) :
    let noted := { used with flagsValid := flagsValid }
    let fresh := ofLine line address nextAddress flagsValid
    noted.reclassify architecture flags = fresh.reclassify architecture flags ∧
      noted.classify architecture flags = fresh.classify architecture flags ∧
      fresh.reclassify architecture flags = fresh.classify architecture flags := by
  have forgotten := history.classify_eq flagsValid architecture flags
  refine ⟨?_, forgotten, reclassify_eq_classify architecture flags _⟩
  rw [reclassify_eq_classify, reclassify_eq_classify]
  exact forgotten

def subtractLine : Line := .bare "subne".toList "ip,sp".toList

def usedSubtract : Instruction :=
  Taint.recordInputs (.ofList ["ip", "sp"])
    ((Instruction.ofLine subtractLine 0 none false).reclassify .x86 .unknown)

theorem usedSubtract_forgotten :
    usedSubtract.taintedInput = .ofList ["ip", "sp"] ∧
      Instruction.reclassify .arm .known { usedSubtract with flagsValid := true } =
        (Instruction.ofLine subtractLine 0 none true).classify .arm .known := by
  let classified := (Instruction.ofLine subtractLine 0 none false).reclassify .x86 .unknown
  have located : [classified][0]? = some classified := rfl
  have found : (Taint.propagate .x86 false [classified]).block[0]? = some usedSubtract := by
    decide +kernel
  have history : Instruction.History subtractLine 0 none usedSubtract :=
    .passed .x86 false (.classified .x86 .unknown (.fresh false)) located found
  have forgotten := classification_forgets_history subtractLine 0 none usedSubtract history true
    .arm .known
  exact ⟨by decide +kernel, forgotten.1.trans forgotten.2.2⟩

end FaultTriage
