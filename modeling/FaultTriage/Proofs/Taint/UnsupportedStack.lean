import FaultTriage.Proofs.Taint.Action

/-!
# Unsupported stack operands

A pass refuses pops only, and the shape of their operands decides: ARM does not pop to memory, and
x86 and x64 do not pop several operands at once.  Operands that the table row implies are never
refused, and neither is a single destination.  A pass ends with a refusal exactly at the first
instruction of such a shape, unless taint has run out there or before.
-/

set_option autoImplicit false

namespace FaultTriage.Taint

/-- A pop to memory on ARM, or a pop of several operands on x86 or x64. -/
structure UnsupportedPop (architecture : Architecture) (instruction : Instruction) : Prop where
  pops : instruction.kind = .stackPop
  unimplied : instruction.explicit.isEmpty = false ∨
    ∀ row, Table.lookup? architecture instruction.rootMnemonic = some row → row.writes = []
  unsingle : instruction.destination.size ≠ 1
  unsupported :
    (architecture = .arm ∧ instruction.destinationPointer.isEmpty = false) ∨
      (architecture ≠ .arm ∧ instruction.destinationPointer.isEmpty = true ∧
        2 ≤ instruction.destination.size)

def stateBefore (architecture : Architecture) (taintPointers : Bool) (block : List Instruction)
    (position : Nat) : State :=
  (block.take position).foldl (stateAfter architecture) (.seeded (seeds taintPointers block))

/-- Taint is left up to the index, and the first pop of an unsupported shape stands there. -/
structure RefusedAt (architecture : Architecture) (taintPointers : Bool) (block : List Instruction)
    (index : Nat) : Prop where
  tainted : ∀ position ≤ index,
    (stateBefore architecture taintPointers block position).exhausted = false
  unrefused : ∀ position < index, ∀ earlier, block[position]? = some earlier →
    ¬ UnsupportedPop architecture earlier
  refused : ∃ instruction, block[index]? = some instruction ∧
    UnsupportedPop architecture instruction

/-! ## One instruction -/

theorem stackOperandsImplied_eq_false_iff (architecture : Architecture)
    (instruction : Instruction) :
    stackOperandsImplied instruction (rowOperands architecture (·.writes) instruction) = false ↔
      instruction.explicit.isEmpty = false ∨
        ∀ row, Table.lookup? architecture instruction.rootMnemonic = some row → row.writes = [] := by
  rw [stackOperandsImplied, Bool.and_eq_false_iff, Bool.not_eq_false', List.isEmpty_iff, rowOperands]
  cases Table.lookup? architecture instruction.rootMnemonic with
  | none => simp
  | some row => simp

theorem popAction?_eq_none_iff {architecture : Architecture} {instruction : Instruction}
    (unimplied : stackOperandsImplied instruction
      (rowOperands architecture (·.writes) instruction) = false) :
    popAction? architecture instruction = none ↔
      instruction.destination.size ≠ 1 ∧
        ((architecture = .arm ∧ instruction.destinationPointer.isEmpty = false) ∨
          (architecture ≠ .arm ∧ instruction.destinationPointer.isEmpty = true ∧
            2 ≤ instruction.destination.size)) := by
  simp only [popAction?, unimplied, Bool.false_eq_true, if_false, OperandSet.size]
  cases instruction.destination.names with
  | nil =>
      cases instruction.destinationPointer.isEmpty <;> cases architecture <;>
        simp [Architecture.allowsMemoryStackOperands]
  | cons first others =>
      cases others with
      | nil => simp
      | cons second rest =>
          cases instruction.destinationPointer.isEmpty <;> cases architecture <;>
            simp [Architecture.allowsMemoryStackOperands, Register.inPopOrder?]

theorem action?_eq_none_iff {architecture : Architecture} {instruction : Instruction} :
    action? architecture instruction = none ↔ UnsupportedPop architecture instruction := by
  constructor
  · intro refused
    have pops : instruction.kind = .stackPop := by
      cases kind : instruction.kind with
      | stackPop => rfl
      | _ => simp [action?, kind] at refused
    rw [action?, pops] at refused
    have unimplied : stackOperandsImplied instruction
        (rowOperands architecture (·.writes) instruction) = false := by
      refine Bool.eq_false_iff.mpr fun implied => ?_
      simp [popAction?, implied] at refused
    obtain ⟨unsingle, unsupported⟩ := (popAction?_eq_none_iff unimplied).mp refused
    exact ⟨pops, (stackOperandsImplied_eq_false_iff _ _).mp unimplied, unsingle, unsupported⟩
  · rintro ⟨pops, unimplied, unsingle, unsupported⟩
    rw [action?, pops]
    have named := (stackOperandsImplied_eq_false_iff _ _).mpr unimplied
    exact (popAction?_eq_none_iff named).mpr ⟨unsingle, unsupported⟩

theorem step?_eq_none_iff_unsupportedPop {architecture : Architecture} {state : State}
    {instruction : Instruction} :
    step? architecture state instruction = none ↔ UnsupportedPop architecture instruction :=
  step?_eq_none_iff.trans action?_eq_none_iff

/-! ## A run -/

section

variable {architecture : Architecture} {taintPointers : Bool} {block processed changed : List Instruction}
  {final : State}

theorem Run.stateBefore_eq
    (run : Run architecture (.seeded (seeds taintPointers block)) processed changed final)
    (leading : processed <+: block) :
    stateBefore architecture taintPointers block processed.length = final := by
  rw [run.final_eq, stateBefore, ← List.prefix_iff_eq_take.mp leading]

/-- Before every instruction that a run has processed there was taint, and it was not refused. -/
theorem Run.reached
    (run : Run architecture (.seeded (seeds taintPointers block)) processed changed final)
    (leading : processed <+: block) {position : Nat} (within : position < processed.length) :
    (stateBefore architecture taintPointers block position).exhausted = false ∧
      ∀ instruction, block[position]? = some instruction →
        ¬ UnsupportedPop architecture instruction := by
  have located := List.getElem?_eq_getElem within
  have same : block[position]? = processed[position]? := by
    obtain ⟨rest, rfl⟩ := leading
    exact List.getElem?_append_left within
  obtain ⟨state, after, next, earlier, remaining, stepped, _⟩ := run.step_at located
  have arrived := earlier.stateBefore_eq ((List.take_prefix position processed).trans leading)
  rw [List.length_take_of_le (Nat.le_of_lt within)] at arrived
  refine ⟨arrived ▸ remaining, fun instruction there unsupported => ?_⟩
  rw [same, located] at there
  cases there
  rw [step?_eq_none_iff_unsupportedPop.mpr unsupported] at stepped
  cases stepped

theorem refusedAt_of_status {index : Nat}
    (stopped : (propagate architecture taintPointers block).outcome.status =
      .unsupportedStack index) : RefusedAt architecture taintPointers block index := by
  obtain ⟨processed, changed, unprocessed, left, final, status, rfl, run, halt, passed⟩ :=
    propagate_eq architecture taintPointers block
  have leading : processed <+: processed ++ unprocessed := List.prefix_append _ _
  rw [passed] at stopped
  cases halt with
  | completed => cases stopped
  | exhausted => cases stopped
  | @unsupported refused rest remaining refusal =>
      cases stopped
      refine ⟨fun position bounded => ?_, fun position within => (run.reached leading within).2,
        refused, by simp, step?_eq_none_iff_unsupportedPop.mp refusal⟩
      rcases Nat.lt_or_eq_of_le bounded with within | same
      · exact (run.reached leading within).1
      · rw [same, run.stateBefore_eq leading]
        exact remaining

theorem status_of_refusedAt {index : Nat}
    (refusedAt : RefusedAt architecture taintPointers block index) :
    (propagate architecture taintPointers block).outcome.status = .unsupportedStack index := by
  obtain ⟨tainted, unrefused, instruction, located, unsupported⟩ := refusedAt
  obtain ⟨processed, changed, unprocessed, left, final, status, rfl, run, halt, passed⟩ :=
    propagate_eq architecture taintPointers block
  have leading : processed <+: processed ++ unprocessed := List.prefix_append _ _
  have bounded : processed.length ≤ index :=
    Nat.le_of_not_lt fun within => (run.reached leading within).2 instruction located unsupported
  rw [passed]
  -- The pass gets as far as the index; before it, no reason to halt is left.
  cases halt with
  | completed =>
      have within := (List.getElem?_eq_some_iff.mp located).1
      rw [List.append_nil] at within
      omega
  | exhausted empty =>
      have remaining := tainted processed.length bounded
      rw [run.stateBefore_eq leading, empty] at remaining
      cases remaining
  | @unsupported refused rest remaining refusal =>
      rcases Nat.lt_or_eq_of_le bounded with beyond | same
      · have there : (processed ++ refused :: rest)[processed.length]? = some refused := by simp
        exact absurd (step?_eq_none_iff_unsupportedPop.mp refusal)
          (unrefused processed.length beyond refused there)
      · exact congrArg Status.unsupportedStack same

end

/--
A pass is refused at an index exactly if a pop of an unsupported shape stands there and none before
it, and taint is left at every position up to there.  A push is never refused, in whatever state.
-/
theorem refused_exactly_at_unsupported_pop (architecture : Architecture) (taintPointers : Bool)
    (block : List Instruction) :
    (∀ index,
      (propagate architecture taintPointers block).outcome.status = .unsupportedStack index ↔
        RefusedAt architecture taintPointers block index) ∧
    ∀ state instruction, instruction.kind = .stackPush →
      (step? architecture state instruction).isSome = true := by
  refine ⟨fun index => ⟨refusedAt_of_status, status_of_refusedAt⟩,
    fun state instruction pushes => Option.isSome_iff_ne_none.mpr fun refused => ?_⟩
  have pops := (step?_eq_none_iff_unsupportedPop.mp refused).pops
  rw [pushes] at pops
  cases pops

def pushPair : Instruction := .bare .arm false .unknown "push".toList "{r1,r3}".toList

def loadPushPairPopToMemory : List Instruction :=
  [.bare .arm false .unknown "ldr".toList "r1,[r2]".toList, pushPair,
    .bare .arm false .unknown "pop".toList "[r2]".toList]

theorem loadPushPairPopToMemory_refused_at_pop :
    (propagate .arm false loadPushPairPopToMemory).outcome.status = .unsupportedStack 2 ∧
      (step? .arm (stateBefore .arm false loadPushPairPopToMemory 1) pushPair).isSome = true := by
  obtain ⟨refused, pushed⟩ := refused_exactly_at_unsupported_pop .arm false loadPushPairPopToMemory
  refine ⟨(refused 2).mpr ⟨by decide +kernel, ?_, ⟨_, rfl, ?_⟩⟩, pushed _ _ (by decide +kernel)⟩
  · intro position within earlier located unsupported
    have noPop : ∀ position < 2, ∀ earlier,
        loadPushPairPopToMemory[position]? = some earlier → earlier.kind ≠ .stackPop := by
      decide +kernel
    exact noPop position within earlier located unsupported.pops
  · exact ⟨by decide +kernel, .inl (by decide +kernel), by decide +kernel,
      .inl ⟨rfl, by decide +kernel⟩⟩

end FaultTriage.Taint
