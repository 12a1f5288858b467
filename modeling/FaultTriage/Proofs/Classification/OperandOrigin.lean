import Mathlib.Data.List.Basic
import FaultTriage.Proofs.Classification.Execution
import FaultTriage.Proofs.Scan.NameOrigin
import FaultTriage.Proofs.Triage.ListingAddress

/-!
# Where operands come from

No operand of a classified instruction is invented: each is implied by the row, named by the text or
added on ARM for the suffix, a return or a pop.  What the text names is written there, except for a
range that is carried past its place.
-/

set_option autoImplicit false

namespace FaultTriage

open Register

structure Additions where
  reads : List Operand
  writes : List Operand
  passes : List Operand

/-- On ARM a suffix adds flags, a pop reads the stack, and a return hands over registers. -/
def Additions.possible (architecture : Architecture) (suffix : MnemonicSuffix) : Additions :=
  match architecture with
  | .x86 | .x64 => ⟨[], [], []⟩
  | .arm =>
      { reads := [flags, stackContents] ++ suffix.condition.elim [] Condition.flagsRead
        writes := [flags]
        passes := returnRegisters }

/-- Every operand is implied by the row, named by the text or one of the additions. -/
structure Operands.Accounted (row : TableRow) (additions : Additions) (operands : Operands) :
    Prop where
  source : ∀ name ∈ operands.source,
    name ∈ row.reads ∨ name ∈ operands.explicit ∨ name ∈ additions.reads
  destination : ∀ name ∈ operands.destination,
    name ∈ row.writes ∨ name ∈ operands.explicit ∨ name ∈ additions.writes
  destinationPointer : ∀ name ∈ operands.destinationPointer,
    name ∈ row.writesThrough ∨ name ∈ operands.explicit
  passedOrReturned : ∀ name ∈ operands.passedOrReturned,
    name ∈ row.passes ∨ name ∈ additions.passes
  compound : ∀ name ∈ operands.compound, name ∈ operands.explicit

namespace Operands.Accounted

variable {row : TableRow} {additions : Additions} {operands : Operands}

theorem addSources (accounted : operands.Accounted row additions) {names : List Operand}
    (possible : ∀ name ∈ names, name ∈ additions.reads) :
    (operands.addSources names).Accounted row additions := by
  refine { accounted with source := fun name member => ?_ }
  rcases (OperandSet.mem_insertAll _ _ name).mp member with ⟨added, -⟩ | read
  · exact .inr (.inr (possible name added))
  · exact accounted.source name read

theorem addDestinations (accounted : operands.Accounted row additions) {names : List Operand}
    (possible : ∀ name ∈ names, name ∈ additions.writes) :
    (operands.addDestinations names).Accounted row additions := by
  refine { accounted with destination := fun name member => ?_ }
  rcases (OperandSet.mem_insertAll _ _ name).mp member with ⟨added, -⟩ | written
  · exact .inr (.inr (possible name added))
  · exact accounted.destination name written

end Operands.Accounted

namespace Scan

open Operands

variable {row : TableRow} {additions : Additions} {operands : Operands}

theorem accounted_implied (row : TableRow) (additions : Additions) :
    Accounted row additions (implied row) := by
  constructor
  case source => exact fun name member => .inl ((OperandSet.mem_ofList _ name).mp member).1
  case destination => exact fun name member => .inl ((OperandSet.mem_ofList _ name).mp member).1
  case destinationPointer =>
    exact fun name member => .inl ((OperandSet.mem_ofList _ name).mp member).1
  case passedOrReturned =>
    exact fun name member => .inl ((OperandSet.mem_ofList _ name).mp member).1
  case compound => exact fun name member => absurd member (OperandSet.not_mem_empty name)

theorem accounted_file (shape : OperandShape) (inSource indirect : Bool) (names : List Operand)
    (accounted : Accounted row additions operands) :
    Accounted row additions (file shape inSource indirect names operands) := by
  obtain ⟨source, destination, pointer, passed, compound⟩ := accounted
  -- Wherever the shape files the names, they become explicit as well.
  simp only [file]
  repeat' split
  all_goals
    constructor <;>
      simp only [addSources, addDestinations, addDestinationPointers, addExplicit,
        OperandSet.mem_insertAll] <;>
      grind

theorem accounted_fileCompound (shape : OperandShape) (markers : List Char) (inSource : Bool)
    (expression : List Char) (accounted : Accounted row additions operands) :
    Accounted row additions (fileCompound shape markers inSource expression operands) := by
  obtain ⟨source, destination, pointer, passed, compound⟩ := accounted
  simp only [fileCompound]
  repeat' split
  all_goals
    constructor <;>
      simp only [addSources, addDestinations, addExplicit, addCompound,
        OperandSet.mem_insertAll] <;>
      grind

theorem X86.accounted_step (architecture : Architecture) (shape : OperandShape) (state : State)
    (token : Token) (accounted : Accounted row additions state.operands) :
    Accounted row additions (step architecture shape state token).operands := by
  simp only [step]
  split
  case h_1 => exact accounted_fileCompound _ _ _ _ accounted
  case h_2 => rwa [operands_cross]
  case h_3 =>
    cases roleOf architecture token.word with
    | passed | interrupting => rwa [operands_cross]
    | register => exact accounted_file _ _ _ _ accounted

theorem Arm.accounted_step (shape : OperandShape) (state : State) (token : Token)
    (accounted : Accounted row additions state.operands) :
    Accounted row additions (step shape state token).operands := by
  simp only [step]
  split
  case h_1 => exact accounted_fileCompound _ _ _ _ accounted
  case h_2 =>
    split
    case isTrue => rwa [operands_cross]
    case isFalse =>
      cases roleOf .arm token.word with
      | passed | interrupting => rwa [operands_cross]
      | register => exact accounted_file _ _ _ _ accounted

theorem X86.accounted_foldl (architecture : Architecture) (shape : OperandShape)
    (read : List Token) {state : State} (accounted : Accounted row additions state.operands) :
    Accounted row additions (read.foldl (step architecture shape) state).operands := by
  induction read generalizing state with
  | nil => exact accounted
  | cons token read ih => exact ih (accounted_step architecture shape state token accounted)

theorem Arm.accounted_foldl (shape : OperandShape) (read : List Token) {state : State}
    (accounted : Accounted row additions state.operands) :
    Accounted row additions (read.foldl (step shape) state).operands := by
  induction read generalizing state with
  | nil => exact accounted
  | cons token read ih => exact ih (accounted_step shape state token accounted)

theorem X86.accounted_operands (architecture : Architecture) (row : TableRow)
    (additions : Additions) (text : List Char) :
    Accounted row additions (X86.operands architecture row text) := by
  unfold X86.operands
  split
  · exact accounted_implied row additions
  · exact accounted_foldl architecture row.shape _ (accounted_implied row additions)

theorem Arm.accounted_operands (row : TableRow) (additions : Additions) (text : List Char) :
    Accounted row additions (Arm.operands row text) := by
  unfold Arm.operands
  split
  · exact accounted_implied row additions
  · exact accounted_foldl row.shape _ (accounted_implied row additions)

end Scan

namespace Classification

open Operands

variable {architecture : Architecture} {row : TableRow}

/-- Outside ARM operands are only taken away after the text is read. -/
theorem selfCancelling_of_mem_adjustments (notArm : architecture ≠ .arm)
    (listed : row ∈ Table.rows architecture) :
    ∀ adjustment ∈ row.adjustments, adjustment = .selfCancelling := by
  have checked : ∀ row ∈ Table.rows architecture, ∀ adjustment ∈ row.adjustments,
      adjustment = .selfCancelling := by
    cases architecture with
    | x86 | x64 => decide +kernel
    | arm => exact absurd rfl notArm
  exact checked row listed

theorem accounted_apply {adjustment : Adjustment} (suffix : MnemonicSuffix)
    (only : architecture ≠ .arm → adjustment = .selfCancelling) (arguments : List Char)
    {effect : Effect}
    (accounted : Accounted row (.possible architecture suffix) effect.toOperands) :
    Accounted row (.possible architecture suffix)
      (adjustment.apply arguments effect).toOperands := by
  have onArm (other : adjustment ≠ .selfCancelling) : architecture = .arm :=
    Classical.not_not.mp (mt only other)
  simp only [Adjustment.apply]
  cases adjustment with
  | selfCancelling =>
      dsimp only
      split
      · exact { accounted with source := fun name member => absurd member (by simp) }
      · exact accounted
  | returnThroughLink =>
      obtain rfl := onArm (by decide)
      dsimp only
      split
      · refine { accounted with passedOrReturned := fun name member => ?_ }
        rcases (OperandSet.mem_insertAll _ _ name).mp member with ⟨returned, -⟩ | passed
        · exact .inr returned
        · exact accounted.passedOrReturned name passed
      · exact accounted
  | branchByLoad =>
      obtain rfl := onArm (by decide)
      dsimp only
      split
      · split
        · exact accounted
        · have possible : ∀ name ∈ [stackContents],
              name ∈ (Additions.possible .arm suffix).reads := by simp [Additions.possible]
          exact accounted.addSources possible
        · exact accounted
      · exact accounted
  | writeBack =>
      dsimp only
      split <;> exact accounted

theorem accounted_applyAll (suffix : MnemonicSuffix) {adjustments : List Adjustment}
    (only : architecture ≠ .arm → ∀ adjustment ∈ adjustments, adjustment = .selfCancelling)
    (arguments : List Char) {effect : Effect}
    (accounted : Accounted row (.possible architecture suffix) effect.toOperands) :
    Accounted row (.possible architecture suffix)
      (Adjustment.applyAll arguments effect adjustments).toOperands := by
  induction adjustments generalizing effect with
  | nil => exact accounted
  | cons adjustment adjustments ih =>
      refine ih (fun notArm other later => only notArm other (List.mem_cons_of_mem _ later)) ?_
      exact accounted_apply suffix (fun notArm => only notArm adjustment List.mem_cons_self)
        arguments accounted

theorem accounted_rowEffect (suffix : MnemonicSuffix) (listed : row ∈ Table.rows architecture)
    (arguments : List Char) :
    Accounted row (.possible architecture suffix)
      (rowEffect architecture row arguments).toOperands := by
  refine accounted_applyAll suffix
    (fun notArm => selfCancelling_of_mem_adjustments notArm listed) arguments ?_
  cases architecture with
  | x86 | x64 => exact Scan.X86.accounted_operands _ row _ arguments
  | arm => exact Scan.Arm.accounted_operands row _ arguments

theorem accounted_applySuffix (suffix : MnemonicSuffix) (flagsValid : Bool)
    (flags : ProcessorFlags) {effect : Effect}
    (accounted : Accounted row (.possible .arm suffix) effect.toOperands) :
    Accounted row (.possible .arm suffix)
      (applySuffix suffix flagsValid flags effect).toOperands := by
  have flagged : Accounted row (.possible .arm suffix)
      (applySuffix ⟨suffix.setsFlags, none⟩ flagsValid flags effect).toOperands := by
    simp only [applySuffix]
    split
    · have reads : ∀ name ∈ [Register.flags], name ∈ (Additions.possible .arm suffix).reads := by
        simp [Additions.possible]
      have writes : ∀ name ∈ [Register.flags], name ∈ (Additions.possible .arm suffix).writes := by
        simp [Additions.possible]
      exact (accounted.addSources reads).addDestinations writes
    · exact accounted
  obtain ⟨setsFlags, condition⟩ := suffix
  cases condition with
  | none => exact flagged
  | some condition =>
      exact flagged.addSources fun name read => List.mem_append_right _ read

/-! ## What the text names -/

theorem explicit_applySuffix (suffix : MnemonicSuffix) (flagsValid : Bool)
    (flags : ProcessorFlags) (effect : Effect) :
    (applySuffix suffix flagsValid flags effect).explicit = effect.explicit := by
  simp only [applySuffix]
  repeat' split
  all_goals rfl

theorem explicit_rowEffect_of_isEmpty (empty : row.shape.isEmpty = true) (arguments : List Char) :
    (rowEffect architecture row arguments).explicit = ∅ := by
  unfold rowEffect
  rw [Scan.explicit_applyAll]
  cases architecture with
  | x86 | x64 => rw [Scan.X86.operands, if_pos empty]; rfl
  | arm => rw [Scan.Arm.operands, if_pos empty]; rfl

end Classification

open Classification Scan

structure Originates (architecture : Architecture) (row : TableRow) (root arguments : List Char)
    (operands : Operands) : Prop where
  accounted : operands.Accounted row
    (.possible architecture (.parse root (Text.byteLength row.mnemonic.toList)))
  named : ∀ name ∈ operands.explicit,
    Written architecture arguments name ∨ Carried architecture row arguments name
  carried : row.shape.isEmpty = false →
    ∀ name, Carried architecture row arguments name → name ∈ operands.explicit
  written : (architecture = .arm → EndsRanges arguments) →
    ∀ name ∈ operands.explicit, Written architecture arguments name

theorem originates_ofText {architecture : Architecture} {root : List Char} {row : TableRow}
    (found : Table.lookup? architecture root = some row) (flagsValid : Bool)
    (flags : ProcessorFlags) (arguments : List Char) :
    Originates architecture row root arguments
      (ofText architecture flagsValid flags root arguments).toOperands := by
  have listed : row ∈ Table.rows architecture := List.mem_of_find?_eq_some found
  have accounted := accounted_rowEffect
    (.parse root (Text.byteLength row.mnemonic.toList)) listed arguments
  have explicit : (ofText architecture flagsValid flags root arguments).explicit =
      (rowEffect architecture row arguments).explicit := by
    simp only [ofText, found]
    cases architecture with
    | x86 | x64 => rfl
    | arm => exact explicit_applySuffix _ _ _ _
  have named : ∀ name ∈ (ofText architecture flagsValid flags root arguments).explicit,
      Written architecture arguments name ∨ Carried architecture row arguments name := by
    intro name member
    rw [explicit] at member
    cases empty : row.shape.isEmpty with
    | true =>
        rw [explicit_rowEffect_of_isEmpty empty] at member
        exact absurd member (OperandSet.not_mem_empty name)
    | false =>
        rw [explicit_rowEffect empty] at member
        exact written_or_carried member
  refine ⟨?_, named, ?_, ?_⟩
  · simp only [ofText, found]
    cases architecture with
    | x86 | x64 => exact accounted
    | arm => exact accounted_applySuffix _ _ _ accounted
  · intro shaped name carried
    rw [explicit, explicit_rowEffect shaped]
    exact mem_explicitAfter_of_carried carried
  · intro ends name member
    exact (named name member).resolve_right (not_carried_of_endsRanges ends)

/--
Without a row an instruction has no operands.  With one, each of them is implied by the row, named
by the text or added on ARM; and the text names what is written in it and what is carried.  Where
every range ends behind its dash nothing is carried, so that all named operands are written.
-/
theorem operands_originate (architecture : Architecture) (line : String)
    (nextAddress : Option Address) (flagsValid : Bool) (flags : ProcessorFlags)
    (instruction : Instruction)
    (read : disassemble architecture line nextAddress flagsValid flags = .ok instruction) :
    instruction.taintedInput = ∅ ∧
      (∀ set ∈ [instruction.source, instruction.destination, instruction.destinationPointer,
        instruction.passedOrReturned, instruction.explicit, instruction.compound], "" ∉ set) ∧
      match Table.lookup? architecture instruction.rootMnemonic with
      | none => instruction.toOperands = ∅
      | some row =>
          Originates architecture row instruction.rootMnemonic instruction.arguments
            instruction.toOperands := by
  obtain ⟨unclassified, -, rfl⟩ := exists_ofLine_of_disassemble read
  refine ⟨rfl, fun set _ => set.named, ?_⟩
  have kept : (unclassified.classify architecture flags).rootMnemonic =
      unclassified.rootMnemonic := rfl
  rw [kept]
  cases found : Table.lookup? architecture unclassified.rootMnemonic with
  | none =>
      simp only [Instruction.classify, ofText, found]
      rfl
  | some row => exact originates_ofText found unclassified.flagsValid flags unclassified.arguments

theorem Scan.IsRun.parts_of_dash {isDelimiter : Char → Bool}
    {left right before first after : List Char}
    (run : IsRun isDelimiter (left ++ '-' :: right) before first ('-' :: after))
    (noLeft : '-' ∉ left) (noRight : '-' ∉ right) : left = before ++ first ∧ right = after := by
  have split := run.split
  rw [← List.append_assoc] at split
  obtain ⟨before, -, after⟩ := (List.append_cons_inj_of_notMem noLeft noRight).mp split
  exact ⟨before, after⟩

def saveRange : String := "00001000 b4f0 push \x7br4-r7,lr\x7d"

theorem saveRange_names_written_only :
    ∃ instruction, disassemble .arm saveRange none false .unknown = .ok instruction ∧
      instruction.explicit = .ofList ["r4", "r5", "r6", "r7", "lr"] ∧
      ∀ name ∈ instruction.explicit, Written .arm instruction.arguments name := by
  have shown : (disassemble .arm saveRange none false .unknown).toOption.map
      (fun instruction => (instruction.rootMnemonic, instruction.arguments, instruction.explicit)) =
      some ("push".toList, "\x7br4".toList ++ '-' :: "r7,lr\x7d".toList,
        .ofList ["r4", "r5", "r6", "r7", "lr"]) := by
    decide +kernel
  obtain ⟨instruction, read, same⟩ := Block.exists_eq_ok_of_toOption shown
  obtain ⟨root, same⟩ := Prod.mk.inj same
  obtain ⟨arguments, explicit⟩ := Prod.mk.inj same
  obtain ⟨-, -, origin⟩ := operands_originate .arm saveRange none false .unknown instruction read
  have found : Table.lookup? .arm instruction.rootMnemonic =
      some (.starting "push" .stackPush Table.Arm.registersRead) := by
    rw [root]
    decide +kernel
  rw [found] at origin
  refine ⟨instruction, read, explicit, origin.written fun _ => ?_⟩
  rw [arguments]
  intro before first after run _
  obtain ⟨-, rfl⟩ := run.parts_of_dash (by decide) (by decide)
  exact ⟨[], "r7".toList, ",lr\x7d".toList, by decide +kernel, List.forall_mem_nil _,
    by decide +kernel, by decide +kernel, by decide +kernel⟩

/-- The range of the list has no end in it; the register behind the list ends it. -/
def unendedRange : String := "00001000 b490 push \x7br4-\x7d,r7"

theorem unendedRange_names_unwritten :
    ∃ instruction, disassemble .arm unendedRange none false .unknown = .ok instruction ∧
      "r5" ∈ instruction.explicit ∧ ¬ Written .arm instruction.arguments "r5" := by
  have shown : (disassemble .arm unendedRange none false .unknown).toOption.map
      (fun instruction => (instruction.arguments, instruction.explicit)) =
      some ("\x7br4".toList ++ '-' :: "\x7d,r7".toList, .ofList ["r4", "r5", "r6", "r7"]) := by
    decide +kernel
  obtain ⟨instruction, read, same⟩ := Block.exists_eq_ok_of_toOption shown
  obtain ⟨arguments, explicit⟩ := Prod.mk.inj same
  refine ⟨instruction, read, explicit ▸ by decide +kernel, ?_⟩
  rw [arguments]
  generalize spelled : "r5" = name
  intro written
  cases written with
  | @register before word after run =>
      have inWord : '5' ∈ word := by
        rw [← String.toList_ofList (l := word), ← spelled]
        decide
      have inText : '5' ∈ "\x7br4".toList ++ '-' :: "\x7d,r7".toList := by
        rw [run.split]
        exact List.mem_append_right _ (List.mem_append_left _ inWord)
      revert inText
      decide
  | @expression before word more after run =>
      have inText : ']' ∈ "\x7br4".toList ++ '-' :: "\x7d,r7".toList := by
        rw [run.split]
        simp
      revert inText
      decide
  | @range before first last after name lists run register behindDash =>
      obtain ⟨earlier, gap, dashed, spaces, -⟩ := behindDash
      obtain ⟨-, behind⟩ := (run.enclosing dashed).parts_of_dash (by decide) (by decide)
      -- What stands behind the dash is the brace, which is neither a space nor part of a register.
      cases gap with
      | cons space gap =>
          obtain rfl := spaces space List.mem_cons_self
          cases (List.cons.inj behind).1
      | nil =>
          obtain ⟨letter, others, rfl⟩ :=
            List.exists_cons_of_ne_nil (isRegisterWord_of_isRegister register).spelled
          have brace : '\x7d' = letter := (List.cons.inj behind).1
          have plain := run.plain letter List.mem_cons_self
          rw [← brace] at plain
          cases plain

end FaultTriage
