import FaultTriage.Proofs.Taint.Run

/-!
# Causality of the taint pass

What the pass does to an instruction does not depend on the instructions after it.  A pass that
halts early ends in the state in which it arrived there: nothing of the instruction at which it
halted has touched the tainted and clean operands or the stack, and no later instruction has been
touched at all.
-/

set_option autoImplicit false

namespace FaultTriage.Taint

theorem Halt.take {architecture : Architecture} {state : State} {rest left : List Instruction}
    {status : Nat → Status} (halt : Halt architecture state rest left status) {count : Nat}
    (positive : 0 < count) :
    Halt architecture state (rest.take count) (left.take count) status := by
  obtain ⟨fewer, rfl⟩ := Nat.exists_eq_add_of_lt positive
  rw [Nat.zero_add]
  cases halt with
  | completed => exact .completed
  | exhausted empty => exact .exhausted empty
  | unsupported remaining refused => exact .unsupported remaining refused

theorem seeds_take (taintPointers : Bool) (block : List Instruction) {count : Nat}
    (positive : 0 < count) : seeds taintPointers (block.take count) = seeds taintPointers block := by
  obtain ⟨fewer, rfl⟩ := Nat.exists_eq_add_of_lt positive
  cases block with
  | nil => rfl
  | cons first rest => rfl

theorem Halt.length_eq {architecture : Architecture} {state : State} {rest left : List Instruction}
    {status : Nat → Status} (halt : Halt architecture state rest left status) :
    left.length = rest.length := by
  cases halt <;> rfl

/-- A pass over what a run has processed ends where the run does. -/
theorem Run.propagate_processed {architecture : Architecture} {taintPointers : Bool}
    {block processed changed : List Instruction} {final : State}
    (run : Run architecture (.seeded (seeds taintPointers block)) processed changed final)
    (leading : processed <+: block) (begun : processed ≠ []) :
    propagate architecture taintPointers processed =
      ⟨{ final with status := .completed }, changed⟩ := by
  have same : seeds taintPointers processed = seeds taintPointers block := by
    have taken := seeds_take taintPointers block (List.length_pos_iff.mpr begun)
    rwa [← List.prefix_iff_eq_take.mp leading] at taken
  have walked := run.walk_eq .completed 0
  rw [List.append_nil, List.append_nil] at walked
  rw [propagate, same, walked]

theorem block_propagate_take (architecture : Architecture) (taintPointers : Bool)
    (block : List Instruction) (count : Nat) :
    (propagate architecture taintPointers (block.take count)).block =
      (propagate architecture taintPointers block).block.take count := by
  rcases Nat.eq_zero_or_pos count with rfl | positive
  · simp [propagate, walk]
  obtain ⟨processed, changed, unprocessed, left, final, status, rfl, run, halt, passed⟩ :=
    propagate_eq architecture taintPointers block
  have lengths := run.length_eq
  have same := seeds_take taintPointers (processed ++ unprocessed) positive
  rw [passed]
  by_cases within : count ≤ processed.length
  · obtain ⟨state, shorter⟩ := run.take within
    have walked := shorter.walk_eq .completed 0
    rw [List.append_nil, List.append_nil] at walked
    rw [propagate, same, List.take_append_of_le_length within, walked,
      List.take_append_of_le_length (by omega)]
  · have beyond : 0 < count - processed.length := by omega
    have whole : processed.take count = processed := List.take_of_length_le (by omega)
    have changedWhole : changed.take count = changed := List.take_of_length_le (by omega)
    rw [propagate, same, List.take_append, whole, run.walk_eq (halt.take beyond),
      List.take_append, changedWhole, lengths]

theorem length_block_propagate (architecture : Architecture) (taintPointers : Bool)
    (block : List Instruction) :
    (propagate architecture taintPointers block).block.length = block.length := by
  obtain ⟨processed, changed, unprocessed, left, final, status, rfl, run, halt, passed⟩ :=
    propagate_eq architecture taintPointers block
  simp [passed, run.length_eq, halt.length_eq]

theorem propagate_of_exhausted {architecture : Architecture} {taintPointers : Bool}
    {block : List Instruction} {index : Nat}
    (stopped : (propagate architecture taintPointers block).outcome.status = .exhausted index) :
    index < block.length ∧
      (propagate architecture taintPointers (block.take index)).outcome =
        { (propagate architecture taintPointers block).outcome with status := .completed } ∧
      (propagate architecture taintPointers block).block.drop index = block.drop index := by
  obtain ⟨processed, changed, unprocessed, left, final, status, rfl, run, halt, passed⟩ :=
    propagate_eq architecture taintPointers block
  rw [passed] at stopped ⊢
  cases halt with
  | completed => cases stopped
  | unsupported => cases stopped
  | @exhausted instruction rest empty =>
      cases stopped
      refine ⟨by simp, ?_, by rw [List.drop_left' run.length_eq, List.drop_left]⟩
      rw [List.take_left]
      cases processed with
      | nil =>
          -- Without a first instruction there are no seeds, and there were none to run out of.
          obtain ⟨_, rfl⟩ := run.eq_start rfl
          have noSeeds : (seeds taintPointers ([] ++ instruction :: rest)).isEmpty = true :=
            (Bool.and_eq_true_iff.mp empty).1
          have same : seeds taintPointers ([] ++ instruction :: rest) = ∅ :=
            OperandSet.ext fun name =>
              iff_of_false ((OperandSet.isEmpty_iff _).mp noSeeds name)
                (OperandSet.not_mem_empty name)
          rw [same]
          rfl
      | cons => rw [run.propagate_processed (List.prefix_append _ _) (List.cons_ne_nil _ _)]

/--
Refusing a stack operand: the pass has arrived there, and leaves what comes after the instruction
alone.  At the first instruction it has arrived with the seeds.
-/
theorem propagate_of_unsupported {architecture : Architecture} {taintPointers : Bool}
    {block : List Instruction} {index : Nat}
    (stopped : (propagate architecture taintPointers block).outcome.status =
      .unsupportedStack index) :
    index < block.length ∧
      (propagate architecture taintPointers (block.take index)).outcome.status = .completed ∧
      (index ≠ 0 → (propagate architecture taintPointers (block.take index)).outcome.toState =
        (propagate architecture taintPointers block).outcome.toState) ∧
      (index = 0 → (propagate architecture taintPointers block).outcome.toState =
        .seeded (seeds taintPointers block)) ∧
      (propagate architecture taintPointers block).block.drop (index + 1) =
        block.drop (index + 1) := by
  obtain ⟨processed, changed, unprocessed, left, final, status, rfl, run, halt, passed⟩ :=
    propagate_eq architecture taintPointers block
  rw [passed] at stopped ⊢
  cases halt with
  | completed => cases stopped
  | exhausted => cases stopped
  | @unsupported instruction rest remaining refused =>
      cases stopped
      have lengths := run.length_eq
      have later : (changed ++ recordInputs (final.expanded architecture) instruction :: rest).drop
          (processed.length + 1) = (processed ++ instruction :: rest).drop (processed.length + 1) := by
        rw [← List.drop_drop, ← List.drop_drop, List.drop_left' lengths, List.drop_left]
        rfl
      rw [List.take_left]
      cases processed with
      | nil =>
          obtain ⟨_, rfl⟩ := run.eq_start rfl
          exact ⟨by simp, rfl, fun begun => absurd rfl begun, fun _ => rfl, later⟩
      | cons first others =>
          rw [run.propagate_processed (List.prefix_append _ _) (List.cons_ne_nil _ _)]
          exact ⟨by simp, rfl, fun _ => rfl, fun none => by simp at none, later⟩

/--
A shorter block gets the same result for the instructions it has.  A pass that halts early ends in
the state that the pass over the instructions before reaches, which completes, and leaves the
instructions after the halt as they were.  Only a first instruction that is refused is an exception:
the pass over no instructions has no seeds, while the refused pass keeps those of the instruction.
-/
theorem propagate_causal_and_atomic (architecture : Architecture) (taintPointers : Bool)
    (block : List Instruction) :
    ((propagate architecture taintPointers block).block.length = block.length ∧
      ∀ count ≤ block.length,
        (propagate architecture taintPointers (block.take count)).block =
          (propagate architecture taintPointers block).block.take count) ∧
    (∀ index, (propagate architecture taintPointers block).outcome.status = .exhausted index →
      index < block.length ∧
      (propagate architecture taintPointers (block.take index)).outcome =
        { (propagate architecture taintPointers block).outcome with status := .completed } ∧
      (propagate architecture taintPointers block).block.drop index = block.drop index) ∧
    (∀ index,
      (propagate architecture taintPointers block).outcome.status = .unsupportedStack index →
      index < block.length ∧
      (propagate architecture taintPointers (block.take index)).outcome.status = .completed ∧
      (index ≠ 0 → (propagate architecture taintPointers (block.take index)).outcome.toState =
        (propagate architecture taintPointers block).outcome.toState) ∧
      (index = 0 → (propagate architecture taintPointers block).outcome.toState =
        .seeded (seeds taintPointers block)) ∧
      (propagate architecture taintPointers block).block.drop (index + 1) =
        block.drop (index + 1)) :=
  ⟨⟨length_block_propagate architecture taintPointers block,
      fun count _ => block_propagate_take architecture taintPointers block count⟩,
    fun _ stopped => propagate_of_exhausted stopped,
    fun _ stopped => propagate_of_unsupported stopped⟩

def moveThenPopPair : List Instruction :=
  [.bare .x86 false .unknown "mov".toList "ecx,eax".toList,
    .bare .x86 false .unknown "pop".toList "eax, ebx".toList]

def moveClearBothMove : List Instruction :=
  [.bare .x86 false .unknown "mov".toList "ecx,eax".toList,
    .bare .x86 false .unknown "mov".toList "eax,0".toList,
    .bare .x86 false .unknown "mov".toList "ecx,0".toList,
    .bare .x86 false .unknown "mov".toList "edx,ebx".toList]

theorem moves_stop_at_refusal_and_exhaustion :
    ((propagate .x86 false moveThenPopPair).outcome.status = .unsupportedStack 1 ∧
      (propagate .x86 false (moveThenPopPair.take 1)).outcome.toState =
        (propagate .x86 false moveThenPopPair).outcome.toState) ∧
    (propagate .x86 false moveClearBothMove).outcome.status = .exhausted 3 ∧
      (propagate .x86 false (moveClearBothMove.take 3)).outcome =
        { (propagate .x86 false moveClearBothMove).outcome with status := .completed } := by
  have refused : (propagate .x86 false moveThenPopPair).outcome.status = .unsupportedStack 1 := by
    decide +kernel
  have exhausted : (propagate .x86 false moveClearBothMove).outcome.status = .exhausted 3 := by
    decide +kernel
  obtain ⟨_, _, arrived, _⟩ :=
    (propagate_causal_and_atomic .x86 false moveThenPopPair).2.2 1 refused
  obtain ⟨_, ended, _⟩ :=
    (propagate_causal_and_atomic .x86 false moveClearBothMove).2.1 3 exhausted
  exact ⟨⟨refused, arrived (by decide)⟩, exhausted, ended⟩

def popToMemory : Instruction :=
  .bare .arm false .unknown "pop".toList "[r2]".toList

theorem popToMemory_keeps_seeds_of_refused_pass :
    (propagate .arm true [popToMemory]).outcome.status = .unsupportedStack 0 ∧
      (propagate .arm true [popToMemory]).outcome.taint ≠
        (propagate .arm true ([popToMemory].take 0)).outcome.taint := by
  decide +kernel

end FaultTriage.Taint
