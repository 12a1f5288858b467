import FaultTriage.Proofs.Taint.Commute
import FaultTriage.Proofs.Taint.Consistency

/-!
# What an instruction leaves alone

A step takes a name into the tainted or the clean operands, or out of them, only where the
instruction writes an operand that overwrites the name.  The virtual stack belongs to pushes and
pops: a push puts slots on top of those that are there, a pop takes slots off the top, and no other
instruction uses it.
-/

set_option autoImplicit false

namespace FaultTriage.Taint

open Register

/--
The operands that an instruction writes, where a pop that names none writes those of its table row.
-/
def assignedOperands (architecture : Architecture) (instruction : Instruction) : List Operand :=
  let implied := rowOperands architecture (·.writes) instruction
  if instruction.kind = .stackPop ∧ stackOperandsImplied instruction implied = true then
    implied
  else
    writtenOperands instruction

/-! ## Names that no write reaches -/

def SameAt (name : Operand) (left right : State) : Prop :=
  (name ∈ left.taint ↔ name ∈ right.taint) ∧ (name ∈ left.clear ↔ name ∈ right.clear)

instance (name : Operand) (left right : State) : Decidable (SameAt name left right) :=
  inferInstanceAs (Decidable (_ ∧ _))

theorem SameAt.refl (name : Operand) (state : State) : SameAt name state state :=
  ⟨Iff.rfl, Iff.rfl⟩

theorem SameAt.trans {name : Operand} {left middle right : State}
    (first : SameAt name left middle) (second : SameAt name middle right) :
    SameAt name left right :=
  ⟨first.1.trans second.1, first.2.trans second.2⟩

namespace State

variable {architecture : Architecture} {name : Operand}

theorem sameAt_assign {operand : Operand} (untouched : name ∉ overwritten architecture operand)
    (state : State) (tainted : Bool) :
    SameAt name state (state.assign architecture tainted operand) := by
  have different : name ≠ operand :=
    fun same => untouched (same ▸ mem_overwritten_self architecture name)
  cases tainted <;> simp [SameAt, assign, different, untouched]

theorem sameAt_assignAll {operands : List Operand}
    (untouched : ∀ operand ∈ operands, name ∉ overwritten architecture operand)
    (state : State) (tainted : Bool) :
    SameAt name state (state.assignAll architecture tainted operands) := by
  induction operands generalizing state with
  | nil => exact .refl name state
  | cons operand rest ih =>
      obtain ⟨here, later⟩ := List.forall_mem_cons.mp untouched
      exact (sameAt_assign here state tainted).trans (ih later _)

theorem sameAt_popAll {operands : List Operand}
    (untouched : ∀ operand ∈ operands, name ∉ overwritten architecture operand) (state : State) :
    SameAt name state (state.popAll architecture operands) := by
  induction operands generalizing state with
  | nil => exact .refl name state
  | cons operand rest ih =>
      obtain ⟨here, later⟩ := List.forall_mem_cons.mp untouched
      have popped : SameAt name state (state.popInto architecture operand) :=
        sameAt_assign here { state with stack := state.stack.pop.2 } _
      exact popped.trans (ih later _)

end State

/-! ## Slots of the virtual stack -/

theorem VirtualStack.slots_pop_suffix (stack : VirtualStack) :
    stack.pop.2.slots <:+ stack.slots := by
  obtain ⟨slots⟩ := stack
  cases slots with
  | nil => exact List.suffix_refl []
  | cons top rest => exact List.suffix_cons top rest

theorem State.slots_popAll_suffix (architecture : Architecture) (state : State)
    (operands : List Operand) :
    (state.popAll architecture operands).stack.slots <:+ state.stack.slots := by
  induction operands generalizing state with
  | nil => exact List.suffix_refl _
  | cons operand rest ih =>
      have below := ih (state.popInto architecture operand)
      rw [stack_popInto] at below
      exact below.trans state.stack.slots_pop_suffix

theorem State.slots_suffix_pushAll (tainted : OperandSet) (state : State)
    (operands : List Operand) :
    state.stack.slots <:+ (state.pushAll tainted operands).stack.slots := by
  induction operands generalizing state with
  | nil => exact List.suffix_refl _
  | cons operand rest ih =>
      have above := ih { state with stack := state.stack.push tainted operand }
      exact (List.suffix_cons _ state.stack.slots).trans above

/-! ## One action -/

def Action.writes (instruction : Instruction) : Action → List Operand
  | .popInto names => names
  | .exchange => instruction.destination.names ++ instruction.source.names
  | .mayFlow | .flow => instruction.destination.names
  | .skip | .popToMemory | .drop | .pushEach _ | .pushOne _ => []

theorem Action.sameAt_stateAfter {architecture : Architecture} {instruction : Instruction}
    {action : Action} {name : Operand}
    (untouched : ∀ written ∈ action.writes instruction, name ∉ overwritten architecture written)
    (state : State) :
    SameAt name state (action.stateAfter architecture state instruction) := by
  cases action with
  | skip | popToMemory | drop | pushEach | pushOne => exact .refl name state
  | popInto names => exact State.sameAt_popAll untouched state
  | exchange =>
      obtain ⟨destinations, sources⟩ := List.forall_mem_append.mp untouched
      exact (State.sameAt_assignAll sources state _).trans
        (State.sameAt_assignAll destinations _ _)
  | mayFlow =>
      rw [stateAfter, possibleFlow]
      split
      · exact State.sameAt_assignAll untouched state true
      · exact .refl name state
  | flow => exact State.sameAt_assignAll untouched state _

theorem mem_assignedOperands_of_popInto {architecture : Architecture} {instruction : Instruction}
    {names : List Operand} (pops : instruction.kind = .stackPop)
    (decided : popAction? architecture instruction = some (.popInto names)) :
    ∀ written ∈ names, written ∈ assignedOperands architecture instruction := by
  have destinations : writtenOperands instruction = instruction.destination.names := by
    rw [writtenOperands, pops, if_neg (by decide)]
  simp only [popAction?] at decided
  simp only [assignedOperands, pops, true_and, destinations]
  split at decided
  · rename_i implied
    rw [if_pos implied]
    cases decided
    exact fun _ listed => listed
  · rename_i named
    rw [if_neg named]
    split at decided
    · rename_i single
      cases decided
      rw [single]
      exact fun _ listed => listed
    · split at decided
      · split at decided <;> cases decided
      · split at decided
        · cases decided
        · obtain ⟨operands, ordered, listed⟩ := Option.map_eq_some_iff.mp decided
          cases listed
          exact fun _ member => mem_of_inPopOrder? ordered member

theorem mem_assignedOperands_of_action {architecture : Architecture} {instruction : Instruction}
    {action : Action} (decided : action? architecture instruction = some action) :
    ∀ written ∈ action.writes instruction,
      written ∈ assignedOperands architecture instruction := by
  have unpopped : instruction.kind ≠ .stackPop →
      assignedOperands architecture instruction = writtenOperands instruction :=
    fun other => if_neg fun implied => other implied.1
  have kind := kind_of_action? decided
  cases action with
  | popInto names => exact mem_assignedOperands_of_popInto kind.1 kind.2
  | exchange =>
      rw [unpopped (by rw [kind]; decide), writtenOperands, if_pos kind]
      exact fun _ listed => listed
  | mayFlow =>
      rw [unpopped (by rw [kind]; decide), writtenOperands, if_neg (by rw [kind]; decide)]
      exact fun _ listed => listed
  | flow =>
      obtain ⟨noPop, _, noExchange⟩ := kind
      rw [unpopped noPop, writtenOperands, if_neg noExchange]
      exact fun _ listed => listed
  | _ => exact fun _ none => absurd none List.not_mem_nil

theorem sameAt_stateAfter {architecture : Architecture} {instruction : Instruction}
    {name : Operand} (untouched : ∀ written ∈ assignedOperands architecture instruction,
      name ∉ overwritten architecture written) (state : State) :
    SameAt name state (stateAfter architecture state instruction) := by
  cases decided : action? architecture instruction with
  | none =>
      rw [stateAfter_of_refusal state decided]
      exact .refl name state
  | some action =>
      rw [stateAfter_of_action state decided]
      exact action.sameAt_stateAfter (fun written listed =>
        untouched written (mem_assignedOperands_of_action decided written listed)) state

/-- A push changes the stack alone, and there it only adds slots. -/
theorem stateAfter_of_push {architecture : Architecture} {instruction : Instruction}
    (pushes : instruction.kind = .stackPush) (state : State) :
    (stateAfter architecture state instruction).taint = state.taint ∧
      (stateAfter architecture state instruction).clear = state.clear ∧
      state.stack.slots <:+ (stateAfter architecture state instruction).stack.slots := by
  have decided : action? architecture instruction = some (pushAction architecture instruction) := by
    rw [action?, pushes]
  rw [stateAfter_of_action state decided]
  rcases pushAction_cases architecture instruction with ⟨names, each⟩ | ⟨operands, one⟩
  · rw [each]
    exact ⟨rfl, rfl, State.slots_suffix_pushAll _ state names⟩
  · rw [one]
    exact ⟨rfl, rfl, List.suffix_cons _ state.stack.slots⟩

theorem slots_stateAfter_of_pop {architecture : Architecture} {instruction : Instruction}
    (pops : instruction.kind = .stackPop) (state : State) :
    (stateAfter architecture state instruction).stack.slots <:+ state.stack.slots := by
  cases decided : action? architecture instruction with
  | none => exact ⟨[], congrArg (·.stack.slots) (stateAfter_of_refusal state decided)⟩
  | some action =>
      rw [stateAfter_of_action state decided]
      have kind := kind_of_action? decided
      rw [pops] at kind
      cases action with
      | popInto names => exact State.slots_popAll_suffix architecture state names
      | popToMemory | drop => exact state.stack.slots_pop_suffix
      | flow => exact absurd rfl kind.1
      | _ => cases kind

theorem stack_stateAfter_of_stackFree {architecture : Architecture} {instruction : Instruction}
    (stackFree : StackFree instruction) (state : State) :
    (stateAfter architecture state instruction).stack = state.stack := by
  rw [stateAfter]
  split
  · rename_i stepped
    exact stack_step?_of_stackFree stackFree stepped
  · rfl

/--
A name that an instruction makes tainted, makes clean, or takes out of either, is overwritten by a
write to an operand that the instruction writes.  A push changes neither side and only puts slots on
top of the stack, a pop only takes slots off its top, and every other instruction leaves it alone.
-/
theorem stateAfter_touches_written_only (architecture : Architecture) (state : State)
    (instruction : Instruction) :
    (∀ name, ¬ SameAt name state (stateAfter architecture state instruction) →
      ∃ written ∈ assignedOperands architecture instruction,
        name ∈ overwritten architecture written) ∧
    (instruction.kind = .stackPush →
      (stateAfter architecture state instruction).taint = state.taint ∧
      (stateAfter architecture state instruction).clear = state.clear ∧
      state.stack.slots <:+ (stateAfter architecture state instruction).stack.slots) ∧
    (instruction.kind = .stackPop →
      (stateAfter architecture state instruction).stack.slots <:+ state.stack.slots) ∧
    (instruction.kind ≠ .stackPush → instruction.kind ≠ .stackPop →
      (stateAfter architecture state instruction).stack = state.stack) := by
  refine ⟨fun name changed => ?_, fun pushes => stateAfter_of_push pushes state,
    fun pops => slots_stateAfter_of_pop pops state,
    fun noPush noPop => stack_stateAfter_of_stackFree ⟨noPush, noPop⟩ state⟩
  refine Classical.byContradiction fun unwritten => ?_
  refine changed (sameAt_stateAfter (fun written listed covered => ?_) state)
  exact unwritten ⟨written, listed, covered⟩

def taintedUnderClean : State := ⟨.ofList ["rax", "rbx"], ∅, ⟨[false, true]⟩⟩

def clearLowerHalf : Instruction := .bare .x64 false .unknown "mov".toList "eax,0".toList

theorem clearLowerHalf_push_pop_touch_written_only :
    (¬ SameAt "rax" taintedUnderClean (stateAfter .x64 taintedUnderClean clearLowerHalf) ∧
      ∃ written ∈ assignedOperands .x64 clearLowerHalf, "rax" ∈ overwritten .x64 written) ∧
    (stateAfter .x64 taintedUnderClean
      (.bare .x64 false .unknown "push".toList "rbx".toList)).taint = taintedUnderClean.taint ∧
    (stateAfter .x64 taintedUnderClean
      (.bare .x64 false .unknown "pop".toList "rbx".toList)).stack.slots <:+ [false, true] := by
  have clears := stateAfter_touches_written_only .x64 taintedUnderClean clearLowerHalf
  have pushes := stateAfter_touches_written_only .x64 taintedUnderClean
    (.bare .x64 false .unknown "push".toList "rbx".toList)
  have pops := stateAfter_touches_written_only .x64 taintedUnderClean
    (.bare .x64 false .unknown "pop".toList "rbx".toList)
  have changed :
      ¬ SameAt "rax" taintedUnderClean (stateAfter .x64 taintedUnderClean clearLowerHalf) := by
    decide +kernel
  exact ⟨⟨changed, clears.1 "rax" changed⟩, (pushes.2.1 (by decide +kernel)).1,
    pops.2.2.1 (by decide +kernel)⟩

/-! ## A whole pass -/

theorem sameAt_foldl_stateAfter {architecture : Architecture} {block : List Instruction}
    {name : Operand} (untouched : ∀ instruction ∈ block,
      ∀ written ∈ assignedOperands architecture instruction,
        name ∉ overwritten architecture written) (state : State) :
    SameAt name state (block.foldl (stateAfter architecture) state) := by
  induction block generalizing state with
  | nil => exact .refl name state
  | cons instruction rest ih =>
      obtain ⟨here, later⟩ := List.forall_mem_cons.mp untouched
      exact (sameAt_stateAfter here state).trans (ih later _)

/-- A whole pass keeps the seeds, and adds nothing, where no instruction writes. -/
theorem propagate_touches_written_only (architecture : Architecture) (taintPointers : Bool)
    (block : List Instruction) {name : Operand}
    (changed : ¬ SameAt name (.seeded (seeds taintPointers block))
      (propagate architecture taintPointers block).outcome.toState) :
    ∃ instruction ∈ block, ∃ written ∈ assignedOperands architecture instruction,
      name ∈ overwritten architecture written := by
  refine Classical.byContradiction fun unwritten => ?_
  obtain ⟨processed, _, unprocessed, _, final, _, rfl, run, _, passed⟩ :=
    propagate_eq architecture taintPointers block
  rw [passed, run.final_eq] at changed
  refine changed (sameAt_foldl_stateAfter (fun instruction member written listed covered => ?_) _)
  exact unwritten ⟨instruction, List.mem_append_left _ member, written, listed, covered⟩

end FaultTriage.Taint
