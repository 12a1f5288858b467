import FaultTriage.Proofs.Taint.Causality
import FaultTriage.Proofs.Taint.Changes
import FaultTriage.Proofs.Taint.Exhaustion

/-!
# Independent instructions commute

Two instructions that do not use the stack are independent if neither writes an operand that
overlaps one the other reads or writes.  Each of them then finds the same operands tainted before and
after the other, and their writes may change places.  Swapping two independent neighbours inside a
block therefore changes no instruction, no taint and no stack at the end, even if one of the two
orders runs out of taint between them and the other one does not.
-/

set_option autoImplicit false

namespace FaultTriage.Taint

open Register

/-! ## Independence -/

def Overlap (architecture : Architecture) (left right : Operand) : Prop :=
  left = right ∨ left ∈ marked architecture right ∨ right ∈ marked architecture left

instance (architecture : Architecture) (left right : Operand) :
    Decidable (Overlap architecture left right) :=
  inferInstanceAs (Decidable (_ ∨ _ ∨ _))

theorem Overlap.symm {architecture : Architecture} {left right : Operand}
    (overlap : Overlap architecture left right) : Overlap architecture right left := by
  obtain same | marks | marked := overlap
  · exact .inl same.symm
  · exact .inr (.inr marks)
  · exact .inr (.inl marked)

def StackFree (instruction : Instruction) : Prop :=
  instruction.kind ≠ .stackPush ∧ instruction.kind ≠ .stackPop

instance (instruction : Instruction) : Decidable (StackFree instruction) :=
  inferInstanceAs (Decidable (_ ∧ _))

/-- The operands that an instruction gives a value; an exchange gives one to its sources too. -/
def writtenOperands (instruction : Instruction) : List Operand :=
  if instruction.kind = .dataExchange then
    instruction.destination.names ++ instruction.source.names
  else
    instruction.destination.names

/-- The operands whose taint an instruction looks at; an exchange looks at its destinations too. -/
def readOperands (instruction : Instruction) : List Operand :=
  if instruction.kind = .dataExchange then
    inputs instruction ++ instruction.destination.names
  else
    inputs instruction

theorem inputs_subset_readOperands {instruction : Instruction} {name : Operand}
    (input : name ∈ inputs instruction) : name ∈ readOperands instruction := by
  unfold readOperands
  split
  · exact List.mem_append_left _ input
  · exact input

/-- Neither instruction writes what overlaps an operand that the other one reads or writes. -/
def Independent (architecture : Architecture) (first second : Instruction) : Prop :=
  (∀ written ∈ writtenOperands first, ∀ other ∈ readOperands second ++ writtenOperands second,
    ¬ Overlap architecture written other) ∧
  ∀ written ∈ writtenOperands second, ∀ other ∈ readOperands first,
    ¬ Overlap architecture written other

instance (architecture : Architecture) (first second : Instruction) :
    Decidable (Independent architecture first second) :=
  inferInstanceAs (Decidable (_ ∧ _))

/-! ## Instructions that do not use the stack -/

def writes (tainted : OperandSet) (instruction : Instruction) : List Change :=
  match instruction.kind with
  | .noop => []
  | .dataExchange =>
      writeLog (instruction.destination.intersects tainted) instruction.source.names ++
        writeLog (instruction.source.intersects tainted) instruction.destination.names
  | .unpredictable =>
      if instruction.source.intersects tainted then
        writeLog true instruction.destination.names
      else
        []
  | _ => writeLog (instruction.source.intersects tainted) instruction.destination.names

def withTaintedInputs (tainted : OperandSet) (instruction : Instruction) : Instruction :=
  if instruction.kind = .noop then instruction else recordInputs tainted instruction

theorem step?_of_stackFree (architecture : Architecture) (state : State)
    {instruction : Instruction} (stackFree : StackFree instruction) :
    step? architecture state instruction =
      some (withTaintedInputs (state.expanded architecture) instruction,
        replay architecture state (writes (state.expanded architecture) instruction)) := by
  obtain ⟨noPush, noPop⟩ := stackFree
  rw [step?_eq, action?, withTaintedInputs, writes]
  cases kind : instruction.kind with
  | stackPush => exact absurd kind noPush
  | stackPop => exact absurd kind noPop
  | noop => rfl
  | dataExchange =>
      simp [Action.perform, Action.instructionAfter, Action.stateAfter, exchange, replay_append,
        replay_writeLog]
  | unpredictable =>
      cases carried : instruction.source.intersects (state.expanded architecture) with
      | true =>
          simp [Action.perform, Action.instructionAfter, Action.stateAfter, possibleFlow, carried,
            replay_writeLog]
      | false =>
          simp [Action.perform, Action.instructionAfter, Action.stateAfter, possibleFlow, carried,
            replay]
  | _ =>
      simp [Action.perform, Action.instructionAfter, Action.stateAfter, flow, replay_writeLog]

theorem mem_writes {tainted : OperandSet} {instruction : Instruction} {change : Change}
    (member : change ∈ writes tainted instruction) :
    ∃ operand ∈ writtenOperands instruction, ∃ value, change = .write operand value := by
  have logged : ∀ (value : Bool) (operands : List Operand), change ∈ writeLog value operands →
      ∃ operand ∈ operands, ∃ value, change = .write operand value := by
    intro value operands listed
    obtain ⟨operand, named, same⟩ := List.mem_map.mp listed
    exact ⟨operand, named, value, same.symm⟩
  unfold writes at member
  unfold writtenOperands
  split at member
  · cases member
  · rename_i exchanges
    rw [if_pos exchanges]
    rcases List.mem_append.mp member with first | second
    · obtain ⟨operand, named, same⟩ := logged _ _ first
      exact ⟨operand, List.mem_append_right _ named, same⟩
    · obtain ⟨operand, named, same⟩ := logged _ _ second
      exact ⟨operand, List.mem_append_left _ named, same⟩
  · rename_i uncertain
    rw [if_neg (by rw [uncertain]; decide)]
    split at member
    · exact logged _ _ member
    · cases member
  · rename_i notExchange _
    rw [if_neg notExchange]
    exact logged _ _ member

theorem intersects_congr {set left right : OperandSet}
    (agree : ∀ name, name ∈ set → (name ∈ left ↔ name ∈ right)) :
    set.intersects left = set.intersects right := by
  rw [Bool.eq_iff_iff, OperandSet.intersects_iff, OperandSet.intersects_iff]
  exact exists_congr fun name => and_congr_right (agree name)

/-- What an instruction does is decided by the taint of the operands it reads. -/
theorem writes_congr {left right : OperandSet} {instruction : Instruction}
    (agree : ∀ name ∈ readOperands instruction, (name ∈ left ↔ name ∈ right)) :
    writes left instruction = writes right instruction := by
  have sources : instruction.source.intersects left = instruction.source.intersects right :=
    intersects_congr fun name member =>
      agree name (inputs_subset_readOperands (mem_inputs.mpr (.inl member)))
  unfold writes
  split
  · rfl
  · rename_i exchanges
    have destinations : instruction.destination.intersects left =
        instruction.destination.intersects right := by
      refine intersects_congr fun name member => agree name ?_
      rw [readOperands, if_pos exchanges]
      exact List.mem_append_right _ member
    rw [sources, destinations]
  · rw [sources]
  · rw [sources]

theorem withTaintedInputs_congr {left right : OperandSet} {instruction : Instruction}
    (agree : ∀ name ∈ inputs instruction, (name ∈ left ↔ name ∈ right)) :
    withTaintedInputs left instruction = withTaintedInputs right instruction := by
  have filtered : (inputs instruction).filter left.lookup =
      (inputs instruction).filter right.lookup := by
    refine List.filter_congr fun name member => ?_
    rw [Bool.eq_iff_iff, OperandSet.lookup_iff, OperandSet.lookup_iff]
    exact agree name member
  unfold withTaintedInputs recordInputs
  rw [filtered]

/-! ## Writes to other operands -/

namespace State

variable {architecture : Architecture} {operand name : Operand}

theorem mem_clear_assign_of_apart (state : State) (tainted : Bool)
    (apart : name ∉ marked architecture operand) :
    name ∈ (state.assign architecture tainted operand).clear ↔ name ∈ state.clear := by
  have different : name ≠ operand := fun same => apart (same ▸ mem_marked_self architecture name)
  have uncovered : name ∉ overwritten architecture operand :=
    fun covered => apart (mem_marked_of_mem_overwritten covered)
  cases tainted with
  | true => simp [assign, uncovered]
  | false => simp [assign, different]

theorem suspect_assign_of_apart (state : State) (tainted : Bool)
    (apart : name ∉ marked architecture operand) :
    (∃ source, source ∈ (state.assign architecture tainted operand).taint ∧
        name ∈ marked architecture source) ↔
      ∃ source, source ∈ state.taint ∧ name ∈ marked architecture source := by
  refine exists_congr fun source => and_congr_left fun suspect => ?_
  have different : source ≠ operand := fun same => apart (same ▸ suspect)
  -- A name that the write overwrites is no reason to suspect an operand apart from the write.
  have uncovered : source ∉ overwritten architecture operand :=
    fun covered => apart (mem_marked_of_overwritten_of_marked covered suspect)
  cases tainted with
  | true => simp [assign, different]
  | false => simp [assign, uncovered]

/-- A write does not change whether an operand apart from it counts as tainted. -/
theorem mem_expanded_assign_of_apart (state : State) (tainted : Bool)
    (apart : name ∉ marked architecture operand) :
    name ∈ (state.assign architecture tainted operand).expanded architecture ↔
      name ∈ state.expanded architecture := by
  rw [mem_expanded, mem_expanded, suspect_assign_of_apart state tainted apart,
    mem_clear_assign_of_apart state tainted apart, stack_assign]

theorem eq_of_same_members {left right : State}
    (taint : ∀ name, name ∈ left.taint ↔ name ∈ right.taint)
    (clear : ∀ name, name ∈ left.clear ↔ name ∈ right.clear)
    (stack : left.stack = right.stack) : left = right := by
  obtain ⟨leftTaint, leftClear, leftStack⟩ := left
  obtain ⟨rightTaint, rightClear, rightStack⟩ := right
  cases OperandSet.ext taint
  cases OperandSet.ext clear
  cases stack
  rfl

theorem assign_comm (state : State) (tainted otherTainted : Bool) {other : Operand}
    (uncovered : operand ∉ overwritten architecture other)
    (otherUncovered : other ∉ overwritten architecture operand) :
    (state.assign architecture tainted operand).assign architecture otherTainted other =
      (state.assign architecture otherTainted other).assign architecture tainted operand := by
  refine eq_of_same_members (fun name => ?_) (fun name => ?_) (by simp)
  · cases tainted <;> cases otherTainted <;> simp [assign] <;> grind
  · cases tainted <;> cases otherTainted <;> simp [assign] <;> grind

end State

/-! ## Logs of writes -/

section

variable {architecture : Architecture} {changes others : List Change}

theorem mem_expanded_replay_of_apart {name : Operand}
    (apart : ∀ change ∈ changes, ∃ operand value, change = .write operand value ∧
      name ∉ marked architecture operand) (state : State) :
    name ∈ (replay architecture state changes).expanded architecture ↔
      name ∈ state.expanded architecture := by
  induction changes generalizing state with
  | nil => exact Iff.rfl
  | cons change rest ih =>
      obtain ⟨operand, value, rfl, unmarked⟩ := apart change List.mem_cons_self
      have later := ih (fun other member => apart other (List.mem_cons_of_mem _ member))
        (state.assign architecture value operand)
      exact later.trans (state.mem_expanded_assign_of_apart value unmarked)

theorem replay_apply_comm {change : Change}
    (commute : ∀ other ∈ others, ∀ state,
      other.apply architecture (change.apply architecture state) =
        change.apply architecture (other.apply architecture state)) (state : State) :
    replay architecture (change.apply architecture state) others =
      change.apply architecture (replay architecture state others) := by
  induction others generalizing state with
  | nil => rfl
  | cons other rest ih =>
      have swapped := commute other List.mem_cons_self state
      have remaining := ih (fun next member => commute next (List.mem_cons_of_mem _ member))
        (other.apply architecture state)
      rw [← swapped] at remaining
      exact remaining

theorem replay_comm
    (commute : ∀ change ∈ changes, ∀ other ∈ others, ∀ state,
      other.apply architecture (change.apply architecture state) =
        change.apply architecture (other.apply architecture state)) (state : State) :
    replay architecture (replay architecture state changes) others =
      replay architecture (replay architecture state others) changes := by
  induction changes generalizing state with
  | nil => rfl
  | cons change rest ih =>
      have first := replay_apply_comm (commute change List.mem_cons_self) state
      have remaining := ih (fun next member => commute next (List.mem_cons_of_mem _ member))
        (change.apply architecture state)
      rw [first] at remaining
      exact remaining

end

/-! ## Two steps in either order -/

theorem Independent.symm {architecture : Architecture} {first second : Instruction}
    (independent : Independent architecture first second) :
    Independent architecture second first := by
  obtain ⟨firstWrites, secondWrites⟩ := independent
  refine ⟨fun written member other listed overlap => ?_, fun written member other listed => ?_⟩
  · rcases List.mem_append.mp listed with read | alsoWritten
    · exact secondWrites written member other read overlap
    · exact firstWrites other alsoWritten written (List.mem_append_right _ member) overlap.symm
  · exact firstWrites written member other (List.mem_append_left _ listed)

section

variable {architecture : Architecture} {first second : Instruction}

/-- The first instruction does not change what the second one finds tainted among its reads. -/
theorem Independent.agree (independent : Independent architecture first second)
    (tainted : OperandSet) (state : State) :
    ∀ name ∈ readOperands second,
      (name ∈ (replay architecture state (writes tainted first)).expanded architecture ↔
        name ∈ state.expanded architecture) := by
  intro name read
  refine mem_expanded_replay_of_apart (fun change member => ?_) state
  obtain ⟨operand, written, value, same⟩ := mem_writes member
  refine ⟨operand, value, same, fun marks => ?_⟩
  exact independent.1 operand written name (List.mem_append_left _ read) (.inr (.inr marks))

theorem Independent.replay_comm (independent : Independent architecture first second)
    (firstTainted secondTainted : OperandSet) (state : State) :
    replay architecture (replay architecture state (writes firstTainted first))
        (writes secondTainted second) =
      replay architecture (replay architecture state (writes secondTainted second))
        (writes firstTainted first) := by
  refine Taint.replay_comm (fun change member other otherMember state => ?_) state
  obtain ⟨operand, written, value, rfl⟩ := mem_writes member
  obtain ⟨otherOperand, otherWritten, otherValue, rfl⟩ := mem_writes otherMember
  have apart := independent.1 operand written otherOperand (List.mem_append_right _ otherWritten)
  refine state.assign_comm value otherValue (fun covered => apart ?_) (fun covered => apart ?_)
  · exact .inr (.inl (mem_marked_of_mem_overwritten covered))
  · exact .inr (.inr (mem_marked_of_mem_overwritten covered))

/-- Independent instructions lead to the same instructions and to the same state in both orders. -/
theorem Independent.steps (independent : Independent architecture first second)
    (firstFree : StackFree first) (secondFree : StackFree second) (state : State) :
    ∃ firstAfter secondAfter middle otherMiddle next,
      step? architecture state first = some (firstAfter, middle) ∧
      step? architecture middle second = some (secondAfter, next) ∧
      step? architecture state second = some (secondAfter, otherMiddle) ∧
      step? architecture otherMiddle first = some (firstAfter, next) := by
  have agree := independent.agree (state.expanded architecture) state
  have otherAgree := independent.symm.agree (state.expanded architecture) state
  refine ⟨withTaintedInputs (state.expanded architecture) first,
    withTaintedInputs (state.expanded architecture) second, _, _,
    replay architecture (replay architecture state (writes (state.expanded architecture) first))
      (writes (state.expanded architecture) second),
    step?_of_stackFree architecture state firstFree, ?_,
    step?_of_stackFree architecture state secondFree, ?_⟩
  · rw [step?_of_stackFree architecture _ secondFree, writes_congr agree,
      withTaintedInputs_congr fun name input => agree name (inputs_subset_readOperands input)]
  · rw [step?_of_stackFree architecture _ firstFree, writes_congr otherAgree,
      withTaintedInputs_congr fun name input => otherAgree name (inputs_subset_readOperands input),
      independent.replay_comm]

end

/-! ## Walks -/

theorem stack_replay_of_writes {changes : List Change}
    (written : ∀ change ∈ changes, ∃ operand value, change = .write operand value)
    (architecture : Architecture) (state : State) :
    (replay architecture state changes).stack = state.stack := by
  induction changes generalizing state with
  | nil => rfl
  | cons change rest ih =>
      obtain ⟨operand, value, rfl⟩ := written change List.mem_cons_self
      have later := ih (fun other member => written other (List.mem_cons_of_mem _ member))
        (state.assign architecture value operand)
      rw [State.stack_assign] at later
      exact later

theorem stack_step?_of_stackFree {architecture : Architecture} {state next : State}
    {instruction after : Instruction} (stackFree : StackFree instruction)
    (stepped : step? architecture state instruction = some (after, next)) :
    next.stack = state.stack := by
  rw [step?_of_stackFree architecture state stackFree] at stepped
  cases stepped
  refine stack_replay_of_writes (fun change member => ?_) architecture state
  obtain ⟨operand, _, value, same⟩ := mem_writes member
  exact ⟨operand, value, same⟩

theorem walk_of_exhausted {architecture : Architecture} {state : State}
    (empty : state.exhausted = true) (index : Nat) (block : List Instruction) :
    (walk architecture index state block).block = block ∧
      (walk architecture index state block).outcome.toState = state := by
  cases block with
  | nil => exact ⟨rfl, rfl⟩
  | cons instruction rest =>
      rw [walk_of_halt (.exhausted empty)]
      exact ⟨rfl, rfl⟩

/-- The results agree on the instructions, the taint and the stack, but maybe not on the status. -/
def Result.SameEffect (left right : Result) : Prop :=
  left.block = right.block ∧ left.outcome.taint = right.outcome.taint ∧
    left.outcome.stack = right.outcome.stack

theorem Result.SameEffect.trans {left middle right : Result} (first : left.SameEffect middle)
    (second : middle.SameEffect right) : left.SameEffect right :=
  ⟨first.1.trans second.1, first.2.1.trans second.2.1, first.2.2.trans second.2.2⟩

theorem Result.SameEffect.prepend {left right : Result} (same : left.SameEffect right)
    (instruction : Instruction) :
    (left.prepend instruction).SameEffect (right.prepend instruction) :=
  ⟨congrArg (List.cons instruction) same.1, same.2⟩

/--
A walk over an instruction that does not use the stack is the walk after a step.  This holds even
without taint, where the walk does not take the step.
-/
theorem walk_of_stackFree {architecture : Architecture} {state next : State}
    {instruction after : Instruction} (stackFree : StackFree instruction)
    (stepped : step? architecture state instruction = some (after, next)) (index : Nat)
    (rest : List Instruction) :
    (walk architecture index state (instruction :: rest)).SameEffect
      ((walk architecture (index + 1) next rest).prepend after) := by
  cases remaining : state.exhausted with
  | false =>
      rw [walk_of_step remaining stepped]
      exact ⟨rfl, rfl, rfl⟩
  | true =>
      have stack := stack_step?_of_stackFree stackFree stepped
      obtain ⟨rfl, stillEmpty⟩ := step?_of_exhausted remaining stepped
      obtain ⟨block, state⟩ := walk_of_exhausted remaining index (after :: rest)
      obtain ⟨laterBlock, laterState⟩ := walk_of_exhausted stillEmpty (index + 1) rest
      refine ⟨?_, ?_, ?_⟩
      · rw [block, Result.prepend, laterBlock]
      · rw [Result.prepend, state, laterState, State.taint_eq_empty_of_exhausted remaining,
          State.taint_eq_empty_of_exhausted stillEmpty]
      · rw [Result.prepend, state, laterState, stack]

/-- In either order a walk over the two is one and the same walk with the two put in front. -/
theorem Independent.walks {architecture : Architecture} {first second : Instruction}
    (independent : Independent architecture first second) (firstFree : StackFree first)
    (secondFree : StackFree second) (index : Nat) (state : State) (after : List Instruction) :
    ∃ (changedFirst changedSecond : Instruction) (rest : Result),
      (walk architecture index state (first :: second :: after)).SameEffect
        ((rest.prepend changedSecond).prepend changedFirst) ∧
      (walk architecture index state (second :: first :: after)).SameEffect
        ((rest.prepend changedFirst).prepend changedSecond) := by
  obtain ⟨changedFirst, changedSecond, middle, otherMiddle, next, firstStep, secondAfterFirst,
    secondStep, firstAfterSecond⟩ := independent.steps firstFree secondFree state
  refine ⟨changedFirst, changedSecond, walk architecture (index + 1 + 1) next after, ?_, ?_⟩
  · have later := walk_of_stackFree secondFree secondAfterFirst (index + 1) after
    exact (walk_of_stackFree firstFree firstStep index _).trans (later.prepend changedFirst)
  · have later := walk_of_stackFree firstFree firstAfterSecond (index + 1) after
    exact (walk_of_stackFree secondFree secondStep index _).trans (later.prepend changedSecond)

theorem Halt.append {architecture : Architecture} {state : State} {rest left : List Instruction}
    {status : Nat → Status} (halt : Halt architecture state rest left status)
    (more : List Instruction) (nonempty : rest ≠ []) :
    Halt architecture state (rest ++ more) (left ++ more) status := by
  cases halt with
  | completed => exact absurd rfl nonempty
  | exhausted empty => exact .exhausted empty
  | unsupported remaining refused => exact .unsupported remaining refused

theorem walk_append_cases (architecture : Architecture) (start : State)
    (before : List Instruction) :
    (∃ changed state, Run architecture start before changed state) ∨
      ∃ outcome changed, changed.length = before.length ∧ ∀ rest,
        walk architecture 0 start (before ++ rest) = ⟨outcome, changed ++ rest⟩ := by
  obtain ⟨processed, changed, unprocessed, left, final, status, rfl, run, halt⟩ :=
    exists_run_halt architecture start before
  cases unprocessed with
  | nil =>
      rw [List.append_nil]
      exact .inl ⟨changed, final, run⟩
  | cons instruction unprocessed =>
      refine .inr ⟨{ final with status := status (0 + processed.length) }, changed ++ left, ?_, ?_⟩
      · rw [List.length_append, List.length_append, run.length_eq, halt.length_eq]
      · intro rest
        rw [List.append_assoc, run.walk_eq (halt.append rest (List.cons_ne_nil _ _)),
          List.append_assoc]

/--
Swapping two neighbours that are independent and do not use the stack, neither of them the first of
the block, leaves every instruction with the same tainted inputs, and leads to the same taint and
the same stack.
-/
theorem independent_neighbours_commute (architecture : Architecture) (taintPointers : Bool)
    (before after : List Instruction) (first second : Instruction) (begun : before ≠ [])
    (firstFree : StackFree first) (secondFree : StackFree second)
    (independent : Independent architecture first second) :
    ∃ changedBefore changedFirst changedSecond changedAfter,
      changedBefore.length = before.length ∧
      (propagate architecture taintPointers (before ++ first :: second :: after)).block =
        changedBefore ++ changedFirst :: changedSecond :: changedAfter ∧
      (propagate architecture taintPointers (before ++ second :: first :: after)).block =
        changedBefore ++ changedSecond :: changedFirst :: changedAfter ∧
      (propagate architecture taintPointers (before ++ first :: second :: after)).outcome.taint =
        (propagate architecture taintPointers (before ++ second :: first :: after)).outcome.taint ∧
      (propagate architecture taintPointers (before ++ first :: second :: after)).outcome.stack =
        (propagate architecture taintPointers (before ++ second :: first :: after)).outcome.stack := by
  have sameSeeds : ∀ rest, seeds taintPointers (before ++ rest) = seeds taintPointers before := by
    intro rest
    cases before with
    | nil => exact absurd rfl begun
    | cons => rfl
  simp only [propagate, sameSeeds]
  rcases walk_append_cases architecture (.seeded (seeds taintPointers before)) before with
    ⟨changed, state, run⟩ | ⟨outcome, changed, lengths, halted⟩
  · rw [run.walk_append, run.walk_append]
    obtain ⟨changedFirst, changedSecond, rest, ⟨block, taint, stack⟩,
      ⟨otherBlock, otherTaint, otherStack⟩⟩ :=
      independent.walks firstFree secondFree (0 + before.length) state after
    exact ⟨changed, changedFirst, changedSecond, rest.block, run.length_eq,
      congrArg (changed ++ ·) block, congrArg (changed ++ ·) otherBlock,
      taint.trans otherTaint.symm, stack.trans otherStack.symm⟩
  · rw [halted, halted]
    exact ⟨changed, first, second, after, lengths, rfl, rfl, rfl, rfl⟩

def loadClearPointer : List Instruction :=
  [.bare .x64 false .unknown "mov".toList "ecx,dword ptr [rax]".toList,
    .bare .x64 false .unknown "mov".toList "eax,0".toList]

def clearLoaded : Instruction := .bare .x64 false .unknown "mov".toList "rcx,0".toList

def swapBytes : Instruction := .bare .x64 false .unknown "xchg".toList "dl,dh".toList

/-- Clearing the last taint stops the pass before the exchange in one order only. -/
theorem clearLoaded_swapBytes_commute :
    (propagate .x64 false (loadClearPointer ++ [clearLoaded, swapBytes])).outcome.status =
        .exhausted 3 ∧
      (propagate .x64 false (loadClearPointer ++ [swapBytes, clearLoaded])).outcome.status =
        .completed ∧
      (propagate .x64 false (loadClearPointer ++ [clearLoaded, swapBytes])).outcome.taint =
        (propagate .x64 false (loadClearPointer ++ [swapBytes, clearLoaded])).outcome.taint := by
  have independent : Independent .x64 clearLoaded swapBytes := by decide +kernel
  obtain ⟨_, _, _, _, _, _, _, taint, _⟩ := independent_neighbours_commute .x64 false
    loadClearPointer [] clearLoaded swapBytes (by decide) (by decide +kernel) (by decide +kernel)
    independent
  exact ⟨by decide +kernel, by decide +kernel, taint⟩

end FaultTriage.Taint
