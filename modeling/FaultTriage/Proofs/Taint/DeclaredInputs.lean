import FaultTriage.Proofs.Taint.Action
import FaultTriage.Proofs.Taint.Causality
import FaultTriage.Proofs.Taint.Flow

/-!
# What a pass writes into a block

A pass writes into the instructions of its block while it walks over them.  Apart from the tainted
inputs it changes one thing only: a tainted value that is popped to memory becomes a source of the
pop.  So the tainted inputs stay among the operands that an instruction declares as its inputs, even
where these are extended while the instruction is processed.
-/

set_option autoImplicit false

namespace FaultTriage.Taint

open Register

def InputsDeclared (instruction : Instruction) : Prop :=
  ∀ name ∈ instruction.taintedInput, name ∈ instruction.source ∨
    name ∈ instruction.destinationPointer ∨ name ∈ instruction.passedOrReturned

inductive Edited (position : Nat) (before : Instruction) : Instruction → Prop where
  | recorded (inputs : OperandSet) : Edited position before { before with taintedInput := inputs }
  | poppedToMemory (inputs : OperandSet) :
      1 ≤ position → before.kind = .stackPop → stackContents ∈ inputs →
      Edited position before
        { before with
          source := before.source.insert stackContents
          taintedInput := inputs }

/-! ## One step -/

theorem inputsDeclared_classify (architecture : Architecture) (flags : ProcessorFlags)
    (instruction : Instruction) : InputsDeclared (instruction.classify architecture flags) :=
  fun name recorded => absurd recorded (OperandSet.not_mem_empty name)

theorem InputsDeclared.recordInputs {instruction : Instruction}
    (declared : InputsDeclared instruction) (tainted : OperandSet) :
    InputsDeclared (recordInputs tainted instruction) := by
  intro name recorded
  rcases (mem_taintedInput_recordInputs _ _ _).mp recorded with earlier | ⟨input, _⟩
  · exact declared name earlier
  · exact mem_inputs.mp input

theorem InputsDeclared.readPopped {instruction : Instruction}
    (declared : InputsDeclared instruction) (tainted : Bool) :
    InputsDeclared (readPopped tainted instruction) := by
  cases tainted with
  | false => exact declared
  | true =>
      intro name recorded
      rcases (OperandSet.mem_insert _ _ _).mp recorded with popped | earlier
      · exact .inl ((OperandSet.mem_insert _ _ _).mpr (.inl popped))
      · exact (declared name earlier).imp_left fun source =>
          (OperandSet.mem_insert _ _ _).mpr (.inr source)

theorem InputsDeclared.of_step {architecture : Architecture} {state next : State}
    {instruction after : Instruction} (declared : InputsDeclared instruction)
    (stepped : step? architecture state instruction = some (after, next)) :
    InputsDeclared after := by
  obtain ⟨action, _, rfl, _⟩ := step?_eq_some_iff.mp stepped
  have recorded := declared.recordInputs (state.expanded architecture)
  cases action with
  | skip => exact declared
  | popToMemory => exact recorded.readPopped _
  | _ => exact recorded

theorem Edited.of_step {architecture : Architecture} {state next : State}
    {instruction after : Instruction} {position : Nat}
    (stepped : step? architecture state instruction = some (after, next))
    (pushed : state.stack.pop.1 = true → 1 ≤ position) : Edited position instruction after := by
  obtain ⟨action, decided, rfl, _⟩ := step?_eq_some_iff.mp stepped
  cases action with
  | skip => exact .recorded instruction.taintedInput
  | popToMemory =>
      rw [Action.instructionAfter]
      cases tainted : state.stack.pop.1 with
      | false => exact .recorded _
      | true =>
          refine .poppedToMemory _ (pushed tainted) (kind_of_action? decided).1 ?_
          exact (OperandSet.mem_insert _ _ _).mpr (.inl ⟨rfl, by decide⟩)
  | _ => exact .recorded _

/-! ## A pass -/

theorem Run.edited_at {architecture : Architecture} {origins : OperandSet}
    {processed changed : List Instruction} {final : State}
    (run : Run architecture (.seeded origins) processed changed final) {position : Nat}
    {before after : Instruction} (located : processed[position]? = some before)
    (found : changed[position]? = some after) :
    Edited position before after ∧ (InputsDeclared before → InputsDeclared after) := by
  obtain ⟨state, reached, next, earlier, _, stepped, same⟩ := run.step_at located
  obtain rfl : after = reached := Option.some.inj (found.symm.trans same)
  refine ⟨.of_step stepped fun tainted => ?_, fun declared => declared.of_step stepped⟩
  rcases Nat.eq_zero_or_pos position with rfl | positive
  · -- Nothing has been pushed before the first instruction.
    obtain ⟨_, rfl⟩ := earlier.eq_start rfl
    cases tainted
  · exact positive

theorem Halt.edited_at {architecture : Architecture} {state : State}
    {rest left : List Instruction} {status : Nat → Status}
    (halt : Halt architecture state rest left status) {index : Nat} (position : Nat)
    {before after : Instruction} (located : rest[index]? = some before)
    (found : left[index]? = some after) :
    Edited position before after ∧ (InputsDeclared before → InputsDeclared after) := by
  have untouched : ∀ instruction : Instruction, Edited position instruction instruction :=
    fun instruction => .recorded instruction.taintedInput
  cases halt with
  | completed => cases located
  | exhausted =>
      obtain rfl : before = after := Option.some.inj (located.symm.trans found)
      exact ⟨untouched before, id⟩
  | unsupported =>
      cases index with
      | zero =>
          cases located
          cases found
          exact ⟨.recorded _, fun declared => declared.recordInputs _⟩
      | succ index =>
          obtain rfl : before = after := Option.some.inj (located.symm.trans found)
          exact ⟨untouched before, id⟩

theorem edited_at_propagate (architecture : Architecture) (taintPointers : Bool)
    {block : List Instruction} {position : Nat} {before after : Instruction}
    (located : block[position]? = some before)
    (found : (propagate architecture taintPointers block).block[position]? = some after) :
    Edited position before after ∧ (InputsDeclared before → InputsDeclared after) := by
  obtain ⟨processed, changed, unprocessed, left, final, status, rfl, run, halt, passed⟩ :=
    propagate_eq architecture taintPointers block
  have lengths := run.length_eq
  rw [passed] at found
  by_cases within : position < processed.length
  · rw [List.getElem?_append_left within] at located
    rw [List.getElem?_append_left (by omega)] at found
    exact run.edited_at located found
  · rw [List.getElem?_append_right (by omega)] at located
    rw [List.getElem?_append_right (by omega), lengths] at found
    exact halt.edited_at position located found

/--
A pass keeps the number of instructions and their order.  Where all tainted inputs are declared, as
they are after classification, which leaves none, they still are when the pass is over, whatever its
status.  Nothing else of an instruction changes, except that a pop after the first position may get
the stack as a source, which then is a tainted input of it.
-/
theorem propagate_records_declared_inputs_only (architecture : Architecture)
    (taintPointers : Bool) (block : List Instruction)
    (declared : ∀ instruction ∈ block, InputsDeclared instruction) :
    (∀ (instruction : Instruction) (flags : ProcessorFlags),
      (instruction.classify architecture flags).taintedInput = ∅ ∧
        InputsDeclared (instruction.classify architecture flags)) ∧
    (propagate architecture taintPointers block).block.length = block.length ∧
    ∀ position before, block[position]? = some before →
      ∃ after, (propagate architecture taintPointers block).block[position]? = some after ∧
        InputsDeclared after ∧ Edited position before after := by
  have lengths := length_block_propagate architecture taintPointers block
  refine ⟨fun instruction flags => ⟨rfl, inputsDeclared_classify architecture flags instruction⟩,
    lengths, ?_⟩
  intro position before located
  have bounded : position < (propagate architecture taintPointers block).block.length :=
    lengths ▸ (List.getElem?_eq_some_iff.mp located).1
  have found := List.getElem?_eq_getElem bounded
  obtain ⟨edited, kept⟩ := edited_at_propagate architecture taintPointers located found
  exact ⟨_, found, kept (declared before (List.mem_of_getElem? located)), edited⟩

def loadPushPopToMemory : List Instruction :=
  [.bare .x86 false .unknown "mov".toList "ecx,dword ptr [eax]".toList,
    .bare .x86 false .unknown "push".toList "ecx".toList,
    .bare .x86 false .unknown "pop".toList "dword ptr [edx]".toList]

theorem loadPushPopToMemory_reads_stack :
    (∀ instruction ∈ loadPushPopToMemory, InputsDeclared instruction) ∧
    ∃ before after, loadPushPopToMemory[2]? = some before ∧
      (propagate .x86 false loadPushPopToMemory).block[2]? = some after ∧
      stackContents ∉ before.source ∧ stackContents ∈ after.source ∧
      stackContents ∈ after.taintedInput ∧ InputsDeclared after ∧ Edited 2 before after := by
  have declared : ∀ instruction ∈ loadPushPopToMemory, InputsDeclared instruction := by
    simp only [loadPushPopToMemory, List.forall_mem_cons, List.not_mem_nil, false_imp_iff,
      implies_true, and_true]
    exact ⟨inputsDeclared_classify _ _ _, inputsDeclared_classify _ _ _,
      inputsDeclared_classify _ _ _⟩
  obtain ⟨_, _, edits⟩ :=
    propagate_records_declared_inputs_only .x86 false loadPushPopToMemory declared
  obtain ⟨after, found, kept, edited⟩ := edits 2 _ rfl
  have gained : ∀ after, (propagate .x86 false loadPushPopToMemory).block[2]? = some after →
      stackContents ∈ after.source ∧ stackContents ∈ after.taintedInput := by decide +kernel
  exact ⟨declared, _, after, rfl, found, by decide +kernel, (gained after found).1,
    (gained after found).2, kept, edited⟩

end FaultTriage.Taint
