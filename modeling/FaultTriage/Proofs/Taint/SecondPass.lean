import FaultTriage.Proofs.Taint.DeclaredInputs

/-!
# A second pass

A pass writes into the block that it reads: tainted inputs, and the stack as a source of a pop to
memory.  A second pass over the block that a first one has left is not led astray by these notes.
It starts from the same seeds, takes the same action at every instruction, reaches the same states,
and finds everything recorded that it would record.
-/

set_option autoImplicit false

namespace FaultTriage.Taint

open Register

/-! ## Notes that are there already -/

theorem readPopped_eq_self {instruction : Instruction} (read : stackContents ∈ instruction.source)
    (recorded : stackContents ∈ instruction.taintedInput) :
    readPopped true instruction = instruction := by
  rw [readPopped, if_pos rfl, OperandSet.insert_eq_self read, OperandSet.insert_eq_self recorded]

theorem recordInputs_recordInputs (tainted : OperandSet) (instruction : Instruction) :
    recordInputs tainted (recordInputs tainted instruction) = recordInputs tainted instruction :=
  recordInputs_eq_self fun name input suspect =>
    (mem_taintedInput_recordInputs tainted instruction name).mpr (.inr ⟨input, suspect⟩)

/-! ## One step -/

section

variable (popped : Bool) (tainted : OperandSet) (instruction : Instruction)

@[simp] theorem kind_readPopped : (readPopped popped instruction).kind = instruction.kind := by
  cases popped <;> rfl

@[simp] theorem popAction?_readPopped (architecture : Architecture) :
    popAction? architecture (readPopped popped instruction) =
      popAction? architecture instruction := by
  cases popped <;> rfl

@[simp] theorem action?_recordInputs (architecture : Architecture) :
    action? architecture (recordInputs tainted instruction) = action? architecture instruction :=
  rfl

/-- The stack is the one input that popping adds, and popping records it. -/
theorem mem_inputs_readPopped_cases {name : Operand}
    (input : name ∈ inputs (readPopped popped instruction)) :
    name ∈ inputs instruction ∨ name ∈ (readPopped popped instruction).taintedInput := by
  cases popped with
  | false => exact .inl input
  | true =>
      rcases mem_inputs.mp input with source | others
      · rcases (OperandSet.mem_insert _ _ _).mp source with added | earlier
        · exact .inr ((OperandSet.mem_insert _ _ _).mpr (.inl added))
        · exact .inl (mem_inputs.mpr (.inl earlier))
      · exact .inl (mem_inputs.mpr (.inr others))

theorem taintedInput_subset_readPopped {name : Operand} (recorded : name ∈ instruction.taintedInput) :
    name ∈ (readPopped popped instruction).taintedInput := by
  cases popped with
  | false => exact recorded
  | true => exact (OperandSet.mem_insert _ _ _).mpr (.inr recorded)

theorem recordInputs_readPopped :
    recordInputs tainted (readPopped popped (recordInputs tainted instruction)) =
      readPopped popped (recordInputs tainted instruction) := by
  refine recordInputs_eq_self fun name input suspect => ?_
  rcases mem_inputs_readPopped_cases popped _ input with earlier | recorded
  · refine taintedInput_subset_readPopped popped _ ?_
    exact (mem_taintedInput_recordInputs tainted instruction name).mpr (.inr ⟨earlier, suspect⟩)
  · exact recorded

theorem readPopped_readPopped :
    readPopped popped (readPopped popped instruction) = readPopped popped instruction := by
  have added : ∀ set : OperandSet, stackContents ∈ set.insert stackContents :=
    fun set => (OperandSet.mem_insert _ _ _).mpr (.inl ⟨rfl, by decide⟩)
  cases popped with
  | false => rfl
  | true => exact readPopped_eq_self (added instruction.source) (added instruction.taintedInput)

end

namespace Action

variable (architecture : Architecture) (state : State) (instruction : Instruction)

theorem instructionAfter_again (action : Action) :
    action.instructionAfter architecture state
        (action.instructionAfter architecture state instruction) =
      action.instructionAfter architecture state instruction := by
  cases action with
  | skip => rfl
  | popToMemory =>
      simp only [instructionAfter]
      rw [recordInputs_readPopped, readPopped_readPopped]
  | _ => exact recordInputs_recordInputs _ instruction

theorem stateAfter_again (action : Action) :
    action.stateAfter architecture state (action.instructionAfter architecture state instruction) =
      action.stateAfter architecture state instruction := by
  cases action <;> rfl

variable {architecture instruction} in
/-- The notes that an action makes do not change which action the instruction calls for. -/
theorem action?_again {action : Action} (decided : action? architecture instruction = some action) :
    action? architecture (action.instructionAfter architecture state instruction) = some action := by
  cases action with
  | popToMemory =>
      obtain ⟨kind, pops⟩ := kind_of_action? decided
      rw [instructionAfter, action?, kind_readPopped, kind_recordInputs, kind]
      rw [← pops]
      exact popAction?_readPopped _ _ architecture
  | _ => exact decided

end Action

theorem step?_again {architecture : Architecture} {state next : State}
    {instruction after : Instruction}
    (stepped : step? architecture state instruction = some (after, next)) :
    step? architecture state after = some (after, next) := by
  obtain ⟨action, decided, rfl, rfl⟩ := step?_eq_some_iff.mp stepped
  rw [step?_of_action state (Action.action?_again state decided), Action.instructionAfter_again,
    Action.stateAfter_again]

theorem step?_recordInputs_eq_none {architecture : Architecture} {state : State}
    {instruction : Instruction} (refused : step? architecture state instruction = none)
    (tainted : OperandSet) : step? architecture state (recordInputs tainted instruction) = none := by
  rw [step?_eq_none_iff, action?_recordInputs]
  exact step?_eq_none_iff.mp refused

/-! ## A whole pass -/

/-- A run over the instructions that a run has left leaves them and its states as they are. -/
theorem Run.again {architecture : Architecture} {start final : State}
    {processed changed : List Instruction}
    (run : Run architecture start processed changed final) :
    Run architecture start changed changed final := by
  induction run with
  | start => exact .start
  | step _ remaining stepped ih => exact ih.step remaining (step?_again stepped)

theorem Halt.again {architecture : Architecture} {state : State} {rest left : List Instruction}
    {status : Nat → Status} (halt : Halt architecture state rest left status) :
    Halt architecture state left left status := by
  cases halt with
  | completed => exact .completed
  | exhausted empty => exact .exhausted empty
  | @unsupported instruction rest remaining refused =>
      have repeated : Halt architecture state
          (recordInputs (state.expanded architecture) instruction :: rest) _ _ :=
        .unsupported remaining (step?_recordInputs_eq_none refused _)
      rwa [recordInputs_recordInputs] at repeated

/-- Nothing has been pushed before the first instruction, so no note of the stack is in the seeds. -/
theorem seeds_block_propagate (architecture : Architecture) (taintPointers : Bool)
    (block : List Instruction) :
    seeds taintPointers (propagate architecture taintPointers block).block =
      seeds taintPointers block := by
  cases block with
  | nil => rfl
  | cons first others =>
      have lengths := length_block_propagate architecture taintPointers (first :: others)
      cases passed : (propagate architecture taintPointers (first :: others)).block with
      | nil =>
          rw [passed] at lengths
          cases lengths
      | cons after rest =>
          have located : (first :: others)[0]? = some first := rfl
          have found : (propagate architecture taintPointers (first :: others)).block[0]? =
              some after := by rw [passed]; rfl
          obtain ⟨edited, _⟩ := edited_at_propagate architecture taintPointers located found
          cases edited with
          | recorded => rfl
          | poppedToMemory _ later => exact absurd later (by decide)

/-- A second pass has the outcome of the first one, and leaves every instruction as that left it. -/
theorem propagate_again (architecture : Architecture) (taintPointers : Bool)
    (block : List Instruction) :
    propagate architecture taintPointers (propagate architecture taintPointers block).block =
      propagate architecture taintPointers block := by
  have sameSeeds := seeds_block_propagate architecture taintPointers block
  obtain ⟨processed, changed, unprocessed, left, final, status, rfl, run, halt, passed⟩ :=
    propagate_eq architecture taintPointers block
  rw [passed] at sameSeeds ⊢
  have walked := run.again.walk_eq halt.again 0
  rw [run.length_eq, Nat.zero_add] at walked
  rw [propagate, sameSeeds, walked]

end FaultTriage.Taint
