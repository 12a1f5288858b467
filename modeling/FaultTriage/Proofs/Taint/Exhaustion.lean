import FaultTriage.Proofs.Taint.Action
import FaultTriage.Proofs.Taint.Flow

/-!
# Exhausted taint

A pass stops when no operand and no pushed value is tainted.  A pass that goes on instead finds
nothing: in such a state no action makes anything tainted or changes the instruction it belongs to,
whatever the instructions are that follow.  So stopping early leaves every instruction as going on
would, and the taint has not come back when the block ends.
-/

set_option autoImplicit false

namespace FaultTriage.Taint

open Register

/-- Walks the rest of a block as `walk` does, but goes on when no taint is left. -/
def walkToEnd (architecture : Architecture) (index : Nat) (state : State) :
    List Instruction → Result
  | [] => ⟨{ state with status := .completed }, []⟩
  | instruction :: rest =>
      if instruction.kind = .noop then
        (walkToEnd architecture (index + 1) state rest).prepend instruction
      else
        let tainted := state.expanded architecture
        let recorded := recordInputs tainted instruction
        match transition? architecture tainted state recorded with
        | none => ⟨{ state with status := .unsupportedStack index }, recorded :: rest⟩
        | some (changed, next) => (walkToEnd architecture (index + 1) next rest).prepend changed

def propagateToEnd (architecture : Architecture) (taintPointers : Bool)
    (block : List Instruction) : Result :=
  walkToEnd architecture 0 (.seeded (seeds taintPointers block)) block

/-! ## One step of either walk -/

theorem walkToEnd_of_step {architecture : Architecture} {state next : State}
    {instruction after : Instruction}
    (stepped : step? architecture state instruction = some (after, next)) (index : Nat)
    (rest : List Instruction) :
    walkToEnd architecture index state (instruction :: rest) =
      (walkToEnd architecture (index + 1) next rest).prepend after := by
  by_cases idle : instruction.kind = .noop
  · rw [step?_of_noop architecture state idle] at stepped
    cases stepped
    simp [walkToEnd, idle]
  · rw [step?_of_not_noop architecture state idle] at stepped
    simp [walkToEnd, idle, stepped]

theorem walkToEnd_of_refusal {architecture : Architecture} {state : State}
    {instruction : Instruction} (refused : step? architecture state instruction = none)
    (index : Nat) (rest : List Instruction) :
    walkToEnd architecture index state (instruction :: rest) =
      ⟨{ state with status := .unsupportedStack index },
        recordInputs (state.expanded architecture) instruction :: rest⟩ := by
  by_cases idle : instruction.kind = .noop
  · rw [step?_of_noop architecture state idle] at refused
    cases refused
  · rw [step?_of_not_noop architecture state idle] at refused
    simp [walkToEnd, idle, refused]

/-! ## Actions without taint -/

theorem State.taint_eq_empty_of_exhausted {state : State} (empty : state.exhausted = true) :
    state.taint = ∅ :=
  OperandSet.ext fun name =>
    iff_of_false ((exhausted_iff.mp empty).1 name) (OperandSet.not_mem_empty name)

theorem State.not_mem_expanded_of_exhausted {state : State} (empty : state.exhausted = true)
    (architecture : Architecture) (name : Operand) : name ∉ state.expanded architecture := by
  obtain ⟨noTaint, noPushed⟩ := exhausted_iff.mp empty
  rw [mem_expanded, noPushed]
  rintro (⟨⟨source, member, _⟩, _⟩ | ⟨impossible, _⟩)
  · exact noTaint source member
  · cases impossible

theorem recordInputs_of_untainted {tainted : OperandSet} (none : ∀ name, name ∉ tainted)
    (instruction : Instruction) : recordInputs tainted instruction = instruction :=
  recordInputs_eq_self fun name _ suspect => absurd suspect (none name)

theorem intersects_of_untainted {tainted : OperandSet} (none : ∀ name, name ∉ tainted)
    (set : OperandSet) : set.intersects tainted = false := by
  refine Bool.eq_false_iff.mpr fun meets => ?_
  obtain ⟨name, _, member⟩ := (OperandSet.intersects_iff _ _).mp meets
  exact none name member

theorem VirtualStack.pop_of_untainted {stack : VirtualStack} (clean : stack.hasTainted = false) :
    stack.pop.1 = false ∧ stack.pop.2.hasTainted = false := by
  obtain ⟨slots⟩ := stack
  cases slots with
  | nil => exact ⟨rfl, rfl⟩
  | cons top rest =>
      simp only [hasTainted, List.any_cons, id_eq, Bool.or_eq_false_iff] at clean
      exact clean

namespace State

variable {state : State} {architecture : Architecture}

theorem exhausted_assignAll (empty : state.exhausted = true) (operands : List Operand) :
    (state.assignAll architecture false operands).exhausted = true := by
  obtain ⟨noTaint, noPushed⟩ := exhausted_iff.mp empty
  refine exhausted_iff.mpr ⟨fun name member => ?_, ?_⟩
  · exact noTaint name ((mem_taint_assignAll_false _ _ _ _).mp member).1
  · rw [stack_assignAll]
    exact noPushed

theorem exhausted_withStack (empty : state.exhausted = true) {stack : VirtualStack}
    (clean : stack.hasTainted = false) : State.exhausted { state with stack := stack } = true :=
  exhausted_iff.mpr ⟨(exhausted_iff.mp empty).1, clean⟩

theorem exhausted_popAll (empty : state.exhausted = true) (operands : List Operand) :
    (state.popAll architecture operands).exhausted = true := by
  induction operands generalizing state with
  | nil => exact empty
  | cons operand rest ih =>
      obtain ⟨clean, remaining⟩ := VirtualStack.pop_of_untainted (exhausted_iff.mp empty).2
      have popped : state.popInto architecture operand =
          ({ state with stack := state.stack.pop.2 } : State).assignAll architecture false
            [operand] := by
        rw [popInto, clean]
        rfl
      have stillEmpty : (state.popInto architecture operand).exhausted = true := by
        rw [popped]
        exact exhausted_assignAll (exhausted_withStack empty remaining) [operand]
      exact ih stillEmpty

theorem exhausted_pushAll (empty : state.exhausted = true) {tainted : OperandSet}
    (none : ∀ name, name ∉ tainted) (operands : List Operand) :
    (state.pushAll tainted operands).exhausted = true := by
  induction operands generalizing state with
  | nil => exact empty
  | cons operand rest ih =>
      have clean : tainted.lookup operand = false := by
        rw [Bool.eq_false_iff, ne_eq, OperandSet.lookup_iff]
        exact none operand
      have pushed : (state.stack.push tainted operand).hasTainted = false := by
        rw [VirtualStack.push, clean]
        exact (exhausted_iff.mp empty).2
      exact ih (exhausted_withStack empty pushed)

end State

/-- Without taint an action leaves its instruction alone, and makes nothing tainted. -/
theorem Action.perform_of_exhausted (architecture : Architecture) {state : State}
    (empty : state.exhausted = true) (instruction : Instruction) (action : Action) :
    action.instructionAfter architecture state instruction = instruction ∧
      (action.stateAfter architecture state instruction).exhausted = true := by
  have none := State.not_mem_expanded_of_exhausted empty architecture
  have recorded := recordInputs_of_untainted none instruction
  have clean := intersects_of_untainted none
  have popped := VirtualStack.pop_of_untainted (State.exhausted_iff.mp empty).2
  cases action with
  | skip => exact ⟨rfl, empty⟩
  | popInto names => exact ⟨recorded, State.exhausted_popAll empty names⟩
  | popToMemory =>
      refine ⟨?_, State.exhausted_withStack empty popped.2⟩
      rw [instructionAfter, recorded, popped.1]
      rfl
  | drop => exact ⟨recorded, State.exhausted_withStack empty popped.2⟩
  | pushEach names => exact ⟨recorded, State.exhausted_pushAll empty none names⟩
  | pushOne operands =>
      refine ⟨recorded, State.exhausted_withStack empty ?_⟩
      rw [VirtualStack.pushAny, clean]
      exact (State.exhausted_iff.mp empty).2
  | exchange =>
      refine ⟨recorded, ?_⟩
      simp only [stateAfter, Taint.exchange, clean]
      exact State.exhausted_assignAll (State.exhausted_assignAll empty _) _
  | mayFlow =>
      refine ⟨recorded, ?_⟩
      simp only [stateAfter, possibleFlow, clean]
      exact empty
  | flow =>
      refine ⟨recorded, ?_⟩
      simp only [stateAfter, Taint.flow, clean]
      exact State.exhausted_assignAll empty _

theorem step?_of_exhausted {architecture : Architecture} {state next : State}
    {instruction after : Instruction} (empty : state.exhausted = true)
    (stepped : step? architecture state instruction = some (after, next)) :
    after = instruction ∧ next.exhausted = true := by
  obtain ⟨action, _, rfl, rfl⟩ := step?_eq_some_iff.mp stepped
  exact action.perform_of_exhausted architecture empty instruction

/-! ## The two walks -/

/-- A walk that goes on without taint changes nothing and finds no taint. -/
theorem walkToEnd_of_exhausted {architecture : Architecture} {state : State}
    (empty : state.exhausted = true) (index : Nat) (block : List Instruction) :
    (walkToEnd architecture index state block).block = block ∧
      (walkToEnd architecture index state block).outcome.exhausted = true := by
  induction block generalizing index state with
  | nil => exact ⟨rfl, empty⟩
  | cons instruction rest ih =>
      cases stepped : step? architecture state instruction with
      | none =>
          rw [walkToEnd_of_refusal stepped]
          have none := State.not_mem_expanded_of_exhausted empty architecture
          rw [recordInputs_of_untainted none]
          exact ⟨rfl, empty⟩
      | some pair =>
          obtain ⟨after, next⟩ := pair
          rw [walkToEnd_of_step stepped]
          obtain ⟨rfl, stillEmpty⟩ := step?_of_exhausted empty stepped
          obtain ⟨remaining, ended⟩ := ih stillEmpty (index + 1)
          exact ⟨congrArg (List.cons after) remaining, ended⟩

theorem walkToEnd_agrees (architecture : Architecture) (index : Nat) (state : State)
    (block : List Instruction) :
    (walkToEnd architecture index state block).block = (walk architecture index state block).block ∧
      ((∃ position, (walk architecture index state block).outcome.status = .exhausted position) →
        (walkToEnd architecture index state block).outcome.exhausted = true) ∧
      ((∀ position, (walk architecture index state block).outcome.status ≠ .exhausted position) →
        walkToEnd architecture index state block = walk architecture index state block) := by
  induction block generalizing index state with
  | nil =>
      refine ⟨rfl, ?_, fun _ => rfl⟩
      intro ⟨position, stopped⟩
      cases stopped
  | cons instruction rest ih =>
      cases remaining : state.exhausted with
      | true =>
          rw [walk_of_halt (.exhausted remaining)]
          obtain ⟨unchanged, ended⟩ :=
            walkToEnd_of_exhausted remaining index (instruction :: rest)
          exact ⟨unchanged, fun _ => ended, fun unstopped => absurd rfl (unstopped index)⟩
      | false =>
          cases stepped : step? architecture state instruction with
          | none =>
              rw [walk_of_halt (.unsupported remaining stepped), walkToEnd_of_refusal stepped]
              refine ⟨rfl, ?_, fun _ => rfl⟩
              intro ⟨position, stopped⟩
              cases stopped
          | some pair =>
              obtain ⟨after, next⟩ := pair
              rw [walk_of_step remaining stepped, walkToEnd_of_step stepped]
              obtain ⟨blocks, stopped, unstopped⟩ := ih (index + 1) next
              exact ⟨congrArg (List.cons after) blocks, stopped,
                fun never => congrArg (Result.prepend after) (unstopped never)⟩

/--
A pass that stops for want of taint leaves every instruction as the pass to the end does, and that
pass ends without a tainted operand and without a tainted value on its stack.  A pass that does not
stop for want of taint is the pass to the end.
-/
theorem stopping_without_taint_loses_nothing (architecture : Architecture) (taintPointers : Bool)
    (block : List Instruction) :
    (propagateToEnd architecture taintPointers block).block =
        (propagate architecture taintPointers block).block ∧
      (∀ index, (propagate architecture taintPointers block).outcome.status = .exhausted index →
        (propagateToEnd architecture taintPointers block).outcome.taint = ∅ ∧
        ∀ slot ∈ (propagateToEnd architecture taintPointers block).outcome.stack.slots,
          slot = false) ∧
      ((∀ index, (propagate architecture taintPointers block).outcome.status ≠ .exhausted index) →
        propagateToEnd architecture taintPointers block =
          propagate architecture taintPointers block) := by
  obtain ⟨blocks, stopped, unstopped⟩ :=
    walkToEnd_agrees architecture 0 (.seeded (seeds taintPointers block)) block
  refine ⟨blocks, fun index ended => ?_, unstopped⟩
  have empty := stopped ⟨index, ended⟩
  refine ⟨State.taint_eq_empty_of_exhausted empty, fun slot member => ?_⟩
  simpa using List.any_eq_false.mp (State.exhausted_iff.mp empty).2 slot member

def moveClearBothThenStack : List Instruction :=
  [.bare .x86 false .unknown "mov".toList "ecx,eax".toList,
    .bare .x86 false .unknown "mov".toList "eax,0".toList,
    .bare .x86 false .unknown "mov".toList "ecx,0".toList,
    .bare .x86 false .unknown "push".toList "ebx".toList,
    .bare .x86 false .unknown "pushad".toList [],
    .bare .x86 false .unknown "pop".toList "dword ptr [esi]".toList,
    .bare .x86 false .unknown "xchg".toList "ebx,ecx".toList]

theorem moveClearBothThenStack_stays_untainted :
    (propagate .x86 false moveClearBothThenStack).outcome.status = .exhausted 3 ∧
      (propagateToEnd .x86 false moveClearBothThenStack).outcome.status = .completed ∧
      (propagateToEnd .x86 false moveClearBothThenStack).outcome.stack.slots.length = 8 ∧
      (propagateToEnd .x86 false moveClearBothThenStack).outcome.taint = ∅ := by
  have ended : (propagate .x86 false moveClearBothThenStack).outcome.status = .exhausted 3 := by
    decide +kernel
  have final := stopping_without_taint_loses_nothing .x86 false moveClearBothThenStack
  exact ⟨ended, by decide +kernel, by decide +kernel, (final.2.1 3 ended).1⟩

end FaultTriage.Taint
