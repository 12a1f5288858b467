import FaultTriage.Proofs.Taint.Run
import FaultTriage.Proofs.Taint.State

/-!
# Plain flow

Instructions that neither push, pop nor exchange only pass taint from their sources to their
destinations.  The pass never refuses them, never uses its stack for them, and changes nothing of
them but their tainted inputs.
-/

set_option autoImplicit false

namespace FaultTriage.Taint

open Register

/-- The instruction neither uses the stack nor exchanges operands. -/
def Flows (instruction : Instruction) : Prop :=
  instruction.kind ≠ .stackPush ∧ instruction.kind ≠ .stackPop ∧ instruction.kind ≠ .dataExchange

instance (instruction : Instruction) : Decidable (Flows instruction) :=
  inferInstanceAs (Decidable (_ ∧ _ ∧ _))

def flowed (architecture : Architecture) (state : State) (instruction : Instruction) : State :=
  if instruction.kind = .unpredictable then
    possibleFlow architecture (state.expanded architecture) state instruction
  else
    flow architecture (state.expanded architecture) state instruction

theorem mem_inputs {instruction : Instruction} {name : Operand} :
    name ∈ inputs instruction ↔ name ∈ instruction.source ∨
      name ∈ instruction.destinationPointer ∨ name ∈ instruction.passedOrReturned := by
  simp [inputs, OperandSet.mem_names]

theorem named_of_mem_inputs {instruction : Instruction} {name : Operand}
    (input : name ∈ inputs instruction) : name ≠ "" := by
  rcases mem_inputs.mp input with source | pointer | passed
  · exact named_of_mem source
  · exact named_of_mem pointer
  · exact named_of_mem passed

theorem mem_taintedInput_recordInputs (tainted : OperandSet) (instruction : Instruction)
    (name : Operand) :
    name ∈ (recordInputs tainted instruction).taintedInput ↔
      name ∈ instruction.taintedInput ∨ (name ∈ inputs instruction ∧ name ∈ tainted) := by
  have named : name ∈ tainted → name ≠ "" := named_of_mem
  simp only [recordInputs, OperandSet.mem_insertAll, List.mem_filter, OperandSet.lookup_iff]
  grind

theorem recordInputs_eq_self {tainted : OperandSet} {instruction : Instruction}
    (recorded : ∀ name ∈ inputs instruction, name ∈ tainted → name ∈ instruction.taintedInput) :
    recordInputs tainted instruction = instruction := by
  have present : instruction.taintedInput.insertAll
      ((inputs instruction).filter tainted.lookup) = instruction.taintedInput := by
    refine OperandSet.insertAll_eq_self fun name listed => ?_
    obtain ⟨input, suspect⟩ := List.mem_filter.mp listed
    exact recorded name input ((OperandSet.lookup_iff _ _).mp suspect)
  rw [recordInputs, present]

theorem step?_of_flows (architecture : Architecture) (state : State) {instruction : Instruction}
    (flows : Flows instruction) (active : instruction.kind ≠ .noop) :
    step? architecture state instruction =
      some (recordInputs (state.expanded architecture) instruction,
        flowed architecture state instruction) := by
  obtain ⟨noPush, noPop, noExchange⟩ := flows
  rw [step?_of_not_noop architecture state active, transition?, flowed]
  have kept : (recordInputs (state.expanded architecture) instruction).kind = instruction.kind := rfl
  rw [kept]
  cases same : instruction.kind with
  | stackPush => exact absurd same noPush
  | stackPop => exact absurd same noPop
  | dataExchange => exact absurd same noExchange
  | _ => rfl

theorem step?_flows_cases {architecture : Architecture} {state next : State}
    {instruction after : Instruction} (flows : Flows instruction)
    (stepped : step? architecture state instruction = some (after, next)) :
    (instruction.kind = .noop ∧ after = instruction ∧ next = state) ∨
      (instruction.kind ≠ .noop ∧
        after = recordInputs (state.expanded architecture) instruction ∧
        next = flowed architecture state instruction) := by
  by_cases idle : instruction.kind = .noop
  · rw [step?_of_noop architecture state idle] at stepped
    cases stepped
    exact .inl ⟨idle, rfl, rfl⟩
  · rw [step?_of_flows architecture state flows idle] at stepped
    cases stepped
    exact .inr ⟨idle, rfl, rfl⟩

/-! ## States between plain flows -/

structure State.Settled (state : State) : Prop where
  consistent : state.Consistent
  unpushed : state.stack.hasTainted = false

theorem State.Settled.assignAll {state : State} (settled : state.Settled)
    (architecture : Architecture) (tainted : Bool) (operands : List Operand) :
    (state.assignAll architecture tainted operands).Settled where
  consistent := settled.consistent.assignAll architecture tainted operands
  unpushed := by rw [State.stack_assignAll]; exact settled.unpushed

theorem State.Settled.flowed {state : State} (settled : state.Settled)
    (architecture : Architecture) (instruction : Instruction) :
    (flowed architecture state instruction).Settled := by
  unfold Taint.flowed possibleFlow flow
  split
  · split
    · exact settled.assignAll architecture true _
    · exact settled
  · exact settled.assignAll architecture _ _

theorem Run.settled {architecture : Architecture} {origins : OperandSet}
    {processed changed : List Instruction} {final : State}
    (run : Run architecture (.seeded origins) processed changed final)
    (flows : ∀ instruction ∈ processed, Flows instruction) : final.Settled := by
  refine run.invariant (List.prefix_refl _) (fun _ state => state.Settled)
    ⟨State.consistent_seeded origins, rfl⟩ ?_
  intro index _ state instruction after next _ located settled stepped
  rcases step?_flows_cases (flows instruction (List.mem_of_getElem? located)) stepped with
    ⟨_, _, rfl⟩ | ⟨_, _, rfl⟩
  · exact settled
  · exact settled.flowed architecture instruction

theorem State.Settled.not_mem_expanded {state : State} (settled : state.Settled)
    (architecture : Architecture) {name : Operand} (clean : name ∈ state.clear) :
    name ∉ state.expanded architecture := by
  rw [State.mem_expanded, settled.unpushed]
  rintro (⟨_, unclean, _⟩ | ⟨impossible, _⟩)
  · exact unclean clean
  · cases impossible

/-! ## Tainted inputs -/

/-- The state before an instruction decides its tainted inputs, unless taint has run out before. -/
theorem taintedInput_at (architecture : Architecture) (taintPointers : Bool)
    {block : List Instruction} (flows : ∀ instruction ∈ block, Flows instruction) {index : Nat}
    {instruction : Instruction} (located : block[index]? = some instruction) :
    ∃ after, (propagate architecture taintPointers block).block[index]? = some after ∧
      ((∃ changed state,
          Run architecture (.seeded (seeds taintPointers block)) (block.take index) changed state ∧
          state.exhausted = false ∧
          ∀ name, name ∈ after.taintedInput ↔ name ∈ instruction.taintedInput ∨
            (instruction.kind ≠ .noop ∧ name ∈ inputs instruction ∧
              name ∈ state.expanded architecture)) ∨
        ∃ count ≤ index, ∃ changed state,
          Run architecture (.seeded (seeds taintPointers block)) (block.take count) changed state ∧
          state.exhausted = true ∧ after = instruction) := by
  obtain ⟨after, found, ⟨changed, state, next, run, remaining, stepped⟩ |
      ⟨count, earlier, changed, state, run, ⟨empty, same⟩ | ⟨refused, there, refusal⟩⟩⟩ :=
    propagate_at architecture taintPointers located
  · refine ⟨after, found, .inl ⟨changed, state, run, remaining, fun name => ?_⟩⟩
    rcases step?_flows_cases (flows instruction (List.mem_of_getElem? located)) stepped with
      ⟨idle, rfl, _⟩ | ⟨active, rfl, _⟩
    · simp [idle]
    · rw [mem_taintedInput_recordInputs]
      simp [active]
  · exact ⟨after, found, .inr ⟨count, earlier, changed, state, run, empty, same⟩⟩
  · have plain := flows refused (List.mem_of_getElem? there)
    by_cases idle : refused.kind = .noop
    · rw [step?_of_noop architecture state idle] at refusal
      cases refusal
    · rw [step?_of_flows architecture state plain idle] at refusal
      cases refusal

end FaultTriage.Taint
