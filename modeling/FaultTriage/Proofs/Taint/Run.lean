import FaultTriage.Taint.Pass

/-!
# Runs of the taint pass

A pass processes a first part of its block one instruction after the other and then halts, because
the block is over, no taint is left, or a stack operand cannot be modelled.  The first part is a
run: a relation that grows at its end, so that what a single step preserves holds after any run.
Every walk is a run followed by a halt, and a run followed by a halt determines the walk.
-/

set_option autoImplicit false

namespace FaultTriage.Taint

def step? (architecture : Architecture) (state : State) (instruction : Instruction) :
    Option (Instruction × State) :=
  if instruction.kind = .noop then
    some (instruction, state)
  else
    transition? architecture (state.expanded architecture) state
      (recordInputs (state.expanded architecture) instruction)

/-- The processed instructions, what they have become, and the state after them. -/
inductive Run (architecture : Architecture) (start : State) :
    List Instruction → List Instruction → State → Prop where
  | start : Run architecture start [] [] start
  | step {processed changed : List Instruction} {state next : State}
      {instruction after : Instruction} :
      Run architecture start processed changed state → state.exhausted = false →
      step? architecture state instruction = some (after, next) →
      Run architecture start (processed ++ [instruction]) (changed ++ [after]) next

/--
The rest of a block that the pass does not process, the form in which it is left, and the status,
which depends on the index of the first instruction of the rest.
-/
inductive Halt (architecture : Architecture) (state : State) :
    List Instruction → List Instruction → (Nat → Status) → Prop where
  | completed : Halt architecture state [] [] fun _ => .completed
  | exhausted {instruction : Instruction} {rest : List Instruction} :
      state.exhausted = true →
      Halt architecture state (instruction :: rest) (instruction :: rest) .exhausted
  | unsupported {instruction : Instruction} {rest : List Instruction} :
      state.exhausted = false → step? architecture state instruction = none →
      Halt architecture state (instruction :: rest)
        (recordInputs (state.expanded architecture) instruction :: rest) .unsupportedStack

/-! ## One step of a walk -/

theorem step?_of_noop (architecture : Architecture) (state : State) {instruction : Instruction}
    (idle : instruction.kind = .noop) :
    step? architecture state instruction = some (instruction, state) := by
  simp [step?, idle]

theorem step?_of_not_noop (architecture : Architecture) (state : State) {instruction : Instruction}
    (active : instruction.kind ≠ .noop) :
    step? architecture state instruction =
      transition? architecture (state.expanded architecture) state
        (recordInputs (state.expanded architecture) instruction) := by
  simp [step?, active]

theorem walk_of_step {architecture : Architecture} {state next : State}
    {instruction after : Instruction} (remaining : state.exhausted = false)
    (stepped : step? architecture state instruction = some (after, next)) (index : Nat)
    (rest : List Instruction) :
    walk architecture index state (instruction :: rest) =
      (walk architecture (index + 1) next rest).prepend after := by
  by_cases idle : instruction.kind = .noop
  · rw [step?_of_noop architecture state idle] at stepped
    cases stepped
    simp [walk, remaining, idle]
  · rw [step?_of_not_noop architecture state idle] at stepped
    simp [walk, remaining, idle, stepped]

theorem walk_of_halt {architecture : Architecture} {state : State} {rest left : List Instruction}
    {status : Nat → Status} (halt : Halt architecture state rest left status) (index : Nat) :
    walk architecture index state rest = ⟨{ state with status := status index }, left⟩ := by
  cases halt with
  | completed => rfl
  | exhausted empty => simp [walk, empty]
  | @unsupported instruction rest remaining refused =>
      have active : instruction.kind ≠ .noop := by
        intro idle
        rw [step?_of_noop architecture state idle] at refused
        cases refused
      rw [step?_of_not_noop architecture state active] at refused
      simp [walk, remaining, active, refused]

/-! ## Runs -/

namespace Run

variable {architecture : Architecture} {start final : State}
  {processed changed : List Instruction}

theorem length_eq (run : Run architecture start processed changed final) :
    changed.length = processed.length := by
  induction run with
  | start => rfl
  | step _ _ _ ih => simp [ih]

theorem eq_start (run : Run architecture start processed changed final) (empty : processed = []) :
    changed = [] ∧ final = start := by
  cases run with
  | start => exact ⟨rfl, rfl⟩
  | step => exact absurd empty (by simp)

theorem walk_append (run : Run architecture start processed changed final) (index : Nat)
    (rest : List Instruction) :
    walk architecture index start (processed ++ rest) =
      { walk architecture (index + processed.length) final rest with
        block := changed ++ (walk architecture (index + processed.length) final rest).block } := by
  induction run generalizing rest with
  | start => rfl
  | @step processed changed state next instruction after _ remaining stepped ih =>
      rw [List.append_assoc, List.singleton_append, ih, walk_of_step remaining stepped]
      simp [Result.prepend, Nat.add_assoc]

theorem walk_eq {rest left : List Instruction} {status : Nat → Status}
    (run : Run architecture start processed changed final)
    (halt : Halt architecture final rest left status) (index : Nat) :
    walk architecture index start (processed ++ rest) =
      ⟨{ final with status := status (index + processed.length) }, changed ++ left⟩ := by
  rw [run.walk_append, walk_of_halt halt]

theorem take (run : Run architecture start processed changed final) {count : Nat}
    (bounded : count ≤ processed.length) :
    ∃ state, Run architecture start (processed.take count) (changed.take count) state := by
  induction run with
  | start => exact ⟨start, by simpa using Run.start⟩
  | @step processed changed state next instruction after run remaining stepped ih =>
      have lengths := run.length_eq
      by_cases within : count ≤ processed.length
      · rw [List.take_append_of_le_length within, List.take_append_of_le_length (by omega)]
        exact ih within
      · have full : count = processed.length + 1 := by
          simp only [List.length_append, List.length_singleton] at bounded
          omega
        refine ⟨next, ?_⟩
        rw [List.take_of_length_le (by simp [full]), List.take_of_length_le (by simp [full, lengths])]
        exact run.step remaining stepped

theorem step_at (run : Run architecture start processed changed final) {index : Nat}
    {instruction : Instruction} (located : processed[index]? = some instruction) :
    ∃ state after next, Run architecture start (processed.take index) (changed.take index) state ∧
      state.exhausted = false ∧ step? architecture state instruction = some (after, next) ∧
      changed[index]? = some after := by
  induction run with
  | start => simp at located
  | @step processed changed state next last after run remaining stepped ih =>
      have lengths := run.length_eq
      by_cases within : index < processed.length
      · rw [List.getElem?_append_left within] at located
        obtain ⟨earlier, changedThere, reached, prior, remainingThere, steppedThere, found⟩ :=
          ih located
        rw [List.take_append_of_le_length (by omega), List.take_append_of_le_length (by omega),
          List.getElem?_append_left (by omega)]
        exact ⟨earlier, changedThere, reached, prior, remainingThere, steppedThere, found⟩
      · have bound := (List.getElem?_eq_some_iff.mp located).1
        have last : index = processed.length := by
          simp only [List.length_append, List.length_singleton] at bound
          omega
        subst last
        simp only [List.getElem?_concat_length, Option.some.injEq] at located
        subst located
        refine ⟨state, after, next, ?_, remaining, stepped, ?_⟩
        · rw [List.take_left, ← lengths, List.take_left]
          exact run
        · rw [← lengths, List.getElem?_concat_length]

/-- What holds at the start and is kept by every step of a block holds after every run through it. -/
theorem invariant {block : List Instruction}
    (run : Run architecture start processed changed final) (leading : processed <+: block)
    (property : Nat → State → Prop) (base : property 0 start)
    (kept : ∀ index earlier state instruction after next,
      Run architecture start (block.take index) earlier state →
      block[index]? = some instruction → property index state →
      step? architecture state instruction = some (after, next) → property (index + 1) next) :
    property processed.length final := by
  induction run with
  | start => exact base
  | @step processed changed state next instruction after run remaining stepped ih =>
      obtain ⟨rest, rfl⟩ := leading
      have reached : Run architecture start
          ((processed ++ [instruction] ++ rest).take processed.length) changed state := by
        rwa [List.append_assoc, List.take_left]
      have located : (processed ++ [instruction] ++ rest)[processed.length]? = some instruction := by
        simp
      have before := ih ⟨[instruction] ++ rest, (List.append_assoc _ _ _).symm⟩
      simpa using kept _ _ _ _ _ _ reached located before stepped

theorem exists_halt (run : Run architecture start processed changed final)
    (rest : List Instruction) :
    ∃ more moreChanged unprocessed left state status, rest = more ++ unprocessed ∧
      Run architecture start (processed ++ more) (changed ++ moreChanged) state ∧
      Halt architecture state unprocessed left status := by
  induction rest generalizing processed changed final with
  | nil => exact ⟨[], [], [], [], final, _, rfl, by simpa using run, .completed⟩
  | cons instruction rest ih =>
      cases remaining : final.exhausted with
      | true =>
          exact ⟨[], [], _, _, final, _, rfl, by simpa using run, .exhausted remaining⟩
      | false =>
          cases stepped : step? architecture final instruction with
          | none =>
              exact ⟨[], [], _, _, final, _, rfl, by simpa using run,
                .unsupported remaining stepped⟩
          | some pair =>
              obtain ⟨after, next⟩ := pair
              obtain ⟨more, moreChanged, unprocessed, left, state, status, split, further, halt⟩ :=
                ih (run.step remaining stepped)
              refine ⟨instruction :: more, after :: moreChanged, unprocessed, left, state, status,
                by rw [split, List.cons_append], ?_, halt⟩
              simpa using further

end Run

theorem exists_run_halt (architecture : Architecture) (start : State) (block : List Instruction) :
    ∃ processed changed unprocessed left final status, block = processed ++ unprocessed ∧
      Run architecture start processed changed final ∧
      Halt architecture final unprocessed left status := by
  have nothing : Run architecture start [] [] start := .start
  simpa using nothing.exists_halt block

/-- A pass is a run from the seeds of its block, followed by a halt. -/
theorem propagate_eq (architecture : Architecture) (taintPointers : Bool)
    (block : List Instruction) :
    ∃ processed changed unprocessed left final status, block = processed ++ unprocessed ∧
      Run architecture (.seeded (seeds taintPointers block)) processed changed final ∧
      Halt architecture final unprocessed left status ∧
      propagate architecture taintPointers block =
        ⟨{ final with status := status processed.length }, changed ++ left⟩ := by
  obtain ⟨processed, changed, unprocessed, left, final, status, split, run, halt⟩ :=
    exists_run_halt architecture (.seeded (seeds taintPointers block)) block
  refine ⟨processed, changed, unprocessed, left, final, status, split, run, halt, ?_⟩
  have walked := run.walk_eq halt 0
  rw [← split, Nat.zero_add] at walked
  exact walked

/--
What a pass has made of one instruction: it was processed by a step, or left behind after a halt at
or before it.
-/
theorem propagate_at (architecture : Architecture) (taintPointers : Bool)
    {block : List Instruction} {index : Nat} {instruction : Instruction}
    (located : block[index]? = some instruction) :
    ∃ after, (propagate architecture taintPointers block).block[index]? = some after ∧
      ((∃ changed state next,
          Run architecture (.seeded (seeds taintPointers block)) (block.take index) changed state ∧
          state.exhausted = false ∧
          step? architecture state instruction = some (after, next)) ∨
        ∃ count ≤ index, ∃ changed state,
          Run architecture (.seeded (seeds taintPointers block)) (block.take count) changed state ∧
          ((state.exhausted = true ∧ after = instruction) ∨
            ∃ refused, block[count]? = some refused ∧ step? architecture state refused = none)) := by
  obtain ⟨processed, changed, unprocessed, left, final, status, split, run, halt, passed⟩ :=
    propagate_eq architecture taintPointers block
  have lengths := run.length_eq
  rw [passed]
  -- The instruction belongs to the run, or to what the halt has left.
  by_cases within : index < processed.length
  · have inside : processed[index]? = some instruction := by
      rwa [split, List.getElem?_append_left within] at located
    obtain ⟨state, after, next, reached, remaining, stepped, found⟩ := run.step_at inside
    have same : processed.take index = block.take index := by
      rw [split, List.take_append_of_le_length (by omega)]
    rw [same] at reached
    rw [List.getElem?_append_left (by omega)]
    exact ⟨after, found, .inl ⟨_, state, next, reached, remaining, stepped⟩⟩
  · have same : block.take processed.length = processed := by rw [split, List.take_left]
    have outside : unprocessed[index - processed.length]? = some instruction := by
      rwa [split, List.getElem?_append_right (by omega)] at located
    rw [List.getElem?_append_right (by omega), lengths]
    cases halt with
    | completed => simp at outside
    | exhausted empty =>
        exact ⟨instruction, outside, .inr ⟨processed.length, by omega, changed, final,
          same.symm ▸ run, .inl ⟨empty, rfl⟩⟩⟩
    | @unsupported refused rest remaining refusal =>
        have there : block[processed.length]? = some refused := by simp [split]
        have kept : index - processed.length <
            (recordInputs (final.expanded architecture) refused :: rest).length := by
          simpa using (List.getElem?_eq_some_iff.mp outside).1
        exact ⟨_, List.getElem?_eq_getElem kept, .inr ⟨processed.length, by omega, changed, final,
          same.symm ▸ run, .inr ⟨refused, there, refusal⟩⟩⟩

end FaultTriage.Taint
