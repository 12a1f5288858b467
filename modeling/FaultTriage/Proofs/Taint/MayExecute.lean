import FaultTriage.Proofs.Classification.Execution
import FaultTriage.Proofs.Taint.Action
import FaultTriage.Proofs.Taint.Consistency

/-!
# Instructions that may not execute

On ARM a condition may leave open whether an instruction executes.  The pass then only adds taint:
what was tainted before stays tainted, and what is tainted after the instruction has executed is
tainted as well.  Pops are the exception.  Their values come from the stack and not from an operand
that the instruction reads, so the taint of a value that may be popped is passed over unless a flag
of the condition is tainted.
-/

set_option autoImplicit false

namespace FaultTriage.Taint

open Classification Register

def Classified (architecture : Architecture) (instruction : Instruction) : Prop :=
  ∃ flags, instruction.toClassification =
    Classification.ofText architecture instruction.flagsValid flags instruction.rootMnemonic
      instruction.arguments

def asExecuted (instruction : Instruction) : Instruction :=
  { instruction with kind := instruction.executedKind }

@[simp] theorem destination_asExecuted (instruction : Instruction) :
    (asExecuted instruction).destination = instruction.destination := rfl

@[simp] theorem rowOperands_asExecuted (architecture : Architecture)
    (role : TableRow → List Operand) (instruction : Instruction) :
    rowOperands architecture role (asExecuted instruction) =
      rowOperands architecture role instruction := rfl

def PopsTaintInto (architecture : Architecture) (state : State) (instruction : Instruction)
    (name : Operand) : Prop :=
  instruction.kind = .stackPop ∧
    ∃ names, popAction? architecture instruction = some (.popInto names) ∧
      (name, true) ∈ names.zip state.stack.slots

/-! ## Classified pops of ARM -/

/-- An ARM instruction of a kind that no adjustment gives has it from its row. -/
theorem row_of_executedKind {instruction : Instruction} (classified : Classified .arm instruction)
    {kind : InstructionKind} (unadjusted : kind ∉ adjustedKinds) (known : kind ≠ .unknown)
    (executed : instruction.executedKind = kind) :
    ∃ row ∈ Table.rows .arm, row.kind = kind ∧
      ∀ role, rowOperands .arm role instruction = role row := by
  obtain ⟨flags, same⟩ := classified
  rw [same] at executed
  cases found : Table.lookup? .arm instruction.rootMnemonic with
  | none =>
      refine absurd executed.symm ?_
      simpa [Classification.ofText, found] using known
  | some row =>
      rw [Classification.executedKind_ofText _ _ found] at executed
      refine ⟨row, List.mem_of_find?_eq_some found, kind_of_kind_rowEffect unadjusted executed, ?_⟩
      intro role
      rw [rowOperands, found]

theorem executedKind_ne_dataExchange {instruction : Instruction}
    (classified : Classified .arm instruction) : instruction.executedKind ≠ .dataExchange := by
  have checked : ∀ row ∈ Table.rows .arm, row.kind ≠ .dataExchange := by decide +kernel
  intro exchanges
  obtain ⟨row, listed, kind, _⟩ := row_of_executedKind classified (by decide) (by decide) exchanges
  exact checked row listed kind

theorem rowOperands_writes_of_pop {instruction : Instruction}
    (classified : Classified .arm instruction) (pops : instruction.executedKind = .stackPop) :
    rowOperands .arm (·.writes) instruction = [] := by
  have checked : ∀ row ∈ Table.rows .arm, row.kind = .stackPop → row.writes = [] := by
    decide +kernel
  obtain ⟨row, listed, kind, operands⟩ := row_of_executedKind classified (by decide) (by decide) pops
  rw [operands]
  exact checked row listed kind

/-! ## The order of pops on ARM -/

/-- No operand of the list is overwritten by a write to a later one. -/
def Undisturbed (architecture : Architecture) (names : List Operand) : Prop :=
  names.Pairwise fun earlier later => earlier ∉ overwritten architecture later

theorem overwritten_arm_cases {name other : Operand} (covered : other ∈ overwritten .arm name) :
    other = name ∨ (Operand.Before name other ∧ other ∉ popOrder) := by
  have checked : ∀ family ∈ families .arm, ∀ view ∈ family,
      ∀ other ∈ overwritten .arm view.name,
        other = view.name ∨ (Operand.Before view.name other ∧ other ∉ popOrder) := by
    decide +kernel
  rcases findView?_cases .arm name with outside | ⟨family, listed, view, member, rfl, _⟩
  · rw [overwritten_of_findView?_none outside] at covered
    exact .inl (List.mem_singleton.mp covered)
  · exact checked family listed view member other covered

theorem undisturbed_arrange (set : OperandSet) : Undisturbed .arm (arrange popOrder set) := by
  have registers : popOrder.Pairwise fun earlier later => earlier ∉ overwritten .arm later := by
    decide +kernel
  refine List.pairwise_append.mpr ⟨registers.filter _, ?_, ?_⟩
  · -- Of two other names, only the status register overwrites its parts, which are listed after it.
    refine (set.ordered.imp ?_).filter _
    intro earlier later before covered
    rcases overwritten_arm_cases covered with rfl | ⟨after, _⟩
    · exact Operand.not_before_self _ before
    · exact Operand.not_before_self _ (Operand.before_trans before after)
  · intro earlier first later second covered
    have register := (List.mem_filter.mp first).1
    rcases overwritten_arm_cases covered with rfl | ⟨_, unlisted⟩
    · simp [register] at second
    · exact unlisted register

/-- ARM pops into the destinations of an instruction, and none of the pops undoes another. -/
theorem popInto_of_classified {instruction : Instruction}
    (classified : Classified .arm instruction) (pops : instruction.executedKind = .stackPop)
    {names : List Operand}
    (decided : popAction? .arm (asExecuted instruction) = some (.popInto names)) :
    (∀ name ∈ names, name ∈ instruction.destination) ∧ Undisturbed .arm names := by
  have unimplied := rowOperands_writes_of_pop classified pops
  rw [← rowOperands_asExecuted] at unimplied
  have explicit : stackOperandsImplied (asExecuted instruction) [] = false := by
    simp [stackOperandsImplied]
  rw [popAction?, unimplied] at decided
  simp only [explicit, destination_asExecuted, Bool.false_eq_true, if_false] at decided
  split at decided
  · rename_i operand single
    cases decided
    refine ⟨fun name member => ?_, List.pairwise_singleton _ _⟩
    rwa [← OperandSet.mem_names, single]
  · repeat' split at decided
    · cases decided
    · cases decided
    · cases decided
    · obtain ⟨operands, ordered, listed⟩ := Option.map_eq_some_iff.mp decided
      cases listed
      cases ordered
      exact ⟨fun name => mem_of_mem_arrange, undisturbed_arrange instruction.destination⟩

/-! ## Popped values -/

namespace State

variable {architecture : Architecture} {state : State} {name : Operand} {names : List Operand}

theorem mem_taint_popInto {operand : Operand} :
    name ∈ (state.popInto architecture operand).taint ↔
      if state.stack.pop.1 then (name = operand ∧ operand ≠ "") ∨ name ∈ state.taint
      else name ∈ state.taint ∧ name ∉ overwritten architecture operand := by
  rw [popInto]
  cases state.stack.pop.1 with
  | true => simp [assign]
  | false => simp [assign]

theorem popped_cons_iff (operand : Operand) (stack : VirtualStack) :
    (name, true) ∈ (operand :: names).zip stack.slots ↔
      (stack.pop.1 = true ∧ name = operand) ∨ (name, true) ∈ names.zip stack.pop.2.slots := by
  obtain ⟨slots⟩ := stack
  cases slots with
  | nil => simp [VirtualStack.pop]
  | cons top rest => simp [VirtualStack.pop, and_comm, eq_comm]

theorem mem_taint_or_popped_of_popAll
    (member : name ∈ (state.popAll architecture names).taint) :
    name ∈ state.taint ∨ (name, true) ∈ names.zip state.stack.slots := by
  induction names generalizing state with
  | nil => exact .inl member
  | cons operand rest ih =>
      rw [popped_cons_iff]
      rcases ih member with earlier | later
      · rw [mem_taint_popInto] at earlier
        split at earlier
        · rename_i tainted
          rcases earlier with ⟨rfl, _⟩ | before
          · exact .inr (.inl ⟨tainted, rfl⟩)
          · exact .inl before
        · exact .inl earlier.1
      · rw [stack_popInto] at later
        exact .inr (.inr later)

theorem mem_taint_popAll_of_mem (member : name ∈ state.taint)
    (kept : ∀ operand ∈ names, name ∉ overwritten architecture operand) :
    name ∈ (state.popAll architecture names).taint := by
  induction names generalizing state with
  | nil => exact member
  | cons operand rest ih =>
      obtain ⟨first, later⟩ := List.forall_mem_cons.mp kept
      refine ih (mem_taint_popInto.mpr ?_) later
      split
      · exact .inr member
      · exact ⟨member, first⟩

theorem mem_taint_popAll_of_popped (undisturbed : Undisturbed architecture names)
    (named : name ≠ "") (popped : (name, true) ∈ names.zip state.stack.slots) :
    name ∈ (state.popAll architecture names).taint := by
  induction names generalizing state with
  | nil => cases popped
  | cons operand rest ih =>
      obtain ⟨first, later⟩ := List.pairwise_cons.mp undisturbed
      rcases (popped_cons_iff operand state.stack).mp popped with ⟨tainted, rfl⟩ | below
      · -- The name is tainted by the first pop, and none of the later ones overwrites it.
        have assigned : name ∈ (state.popInto architecture name).taint := by
          rw [mem_taint_popInto, if_pos tainted]
          exact .inl ⟨rfl, named⟩
        rw [popAll_cons]
        exact mem_taint_popAll_of_mem assigned first
      · refine ih later ?_
        rwa [stack_popInto]

end State

/-! ## Both outcomes -/

section

variable {architecture : Architecture} {tainted : OperandSet} {state : State}
  {instruction : Instruction} {name : Operand}

theorem mem_taint_possibleFlow :
    name ∈ (possibleFlow architecture tainted state instruction).taint ↔
      name ∈ state.taint ∨
        (instruction.source.intersects tainted = true ∧ name ∈ instruction.destination) := by
  have named : name ∈ instruction.destination → name ≠ "" := named_of_mem
  rw [possibleFlow]
  cases instruction.source.intersects tainted with
  | true =>
      simp only [if_true, State.mem_taint_assignAll_true, OperandSet.mem_names, true_and]
      grind
  | false => simp

theorem mem_taint_possibleFlow_of_flow
    (member : name ∈ (flow architecture tainted state instruction).taint) :
    name ∈ (possibleFlow architecture tainted state instruction).taint := by
  rw [flow] at member
  rw [possibleFlow]
  cases reads : instruction.source.intersects tainted with
  | true => rwa [reads] at member
  | false =>
      rw [reads, State.mem_taint_assignAll_false] at member
      exact member.1

theorem stateAfter_of_unpredictable (state : State)
    (uncertain : instruction.kind = .unpredictable) :
    stateAfter architecture state instruction =
      possibleFlow architecture (state.expanded architecture) state instruction := by
  have decided : action? architecture instruction = some .mayFlow := by rw [action?, uncertain]
  rw [stateAfter_of_action state decided, Action.stateAfter]

theorem mem_taint_or_popsTaintInto (classified : Classified .arm instruction)
    (uncertain : instruction.kind = .unpredictable)
    (outcome : name ∈ (stateAfter .arm state (asExecuted instruction)).taint) :
    name ∈ (stateAfter .arm state instruction).taint ∨
      PopsTaintInto .arm state (asExecuted instruction) name := by
  rw [stateAfter_of_unpredictable state uncertain]
  have keeps : name ∈ state.taint →
      name ∈ (possibleFlow .arm (state.expanded .arm) state instruction).taint :=
    fun before => mem_taint_possibleFlow.mpr (.inl before)
  cases decided : action? .arm (asExecuted instruction) with
  | none =>
      rw [stateAfter_of_refusal state decided] at outcome
      exact .inl (keeps outcome)
  | some action =>
      rw [stateAfter_of_action state decided] at outcome
      cases action with
      | skip | popToMemory | drop | pushEach | pushOne => exact .inl (keeps outcome)
      | popInto names =>
          rcases State.mem_taint_or_popped_of_popAll outcome with before | popped
          · exact .inl (keeps before)
          · obtain ⟨kind, pops⟩ := kind_of_action? decided
            exact .inr ⟨kind, names, pops, popped⟩
      | exchange => exact absurd (kind_of_action? decided) (executedKind_ne_dataExchange classified)
      | mayFlow => exact .inl outcome
      | flow => exact .inl (mem_taint_possibleFlow_of_flow outcome)

theorem PopsTaintInto.mem_destination (classified : Classified .arm instruction)
    (pops : PopsTaintInto .arm state (asExecuted instruction) name) :
    name ∈ instruction.destination := by
  obtain ⟨kind, names, decided, popped⟩ := pops
  exact (popInto_of_classified classified kind decided).1 name (List.of_mem_zip popped).1

theorem PopsTaintInto.mem_taint (classified : Classified .arm instruction)
    (pops : PopsTaintInto .arm state (asExecuted instruction) name) :
    name ∈ (stateAfter .arm state (asExecuted instruction)).taint := by
  have named : name ≠ "" := named_of_mem (pops.mem_destination classified)
  obtain ⟨kind, names, decided, popped⟩ := pops
  have performed : action? .arm (asExecuted instruction) = some (.popInto names) := by
    rw [action?, kind]
    exact decided
  have undisturbed := (popInto_of_classified classified kind decided).2
  rw [stateAfter_of_action state performed]
  exact State.mem_taint_popAll_of_popped undisturbed named popped

end

/--
The taint of a popped value is missed: it is popped into an operand that was not tainted before, and
nothing that the instruction reads is tainted.
-/
structure MissesPopped (architecture : Architecture) (state : State) (instruction : Instruction)
    (name : Operand) : Prop where
  pops : PopsTaintInto architecture state (asExecuted instruction) name
  readsClean : instruction.source.intersects (state.expanded architecture) = false
  untainted : name ∉ state.taint

/--
An ARM instruction that may not execute keeps all taint there was, from whatever state it starts.
Of what is tainted after it has executed it misses exactly what it may pop into operands that are not
tainted, and that only where nothing that it reads is tainted.
-/
theorem may_execute_misses_popped_taint_only (instruction : Instruction)
    (classified : Classified .arm instruction) (uncertain : instruction.kind = .unpredictable)
    (state : State) :
    (∀ name, name ∈ state.taint → name ∈ (stateAfter .arm state instruction).taint) ∧
    ∀ name, (name ∈ (stateAfter .arm state (asExecuted instruction)).taint ∧
        name ∉ (stateAfter .arm state instruction).taint) ↔
      MissesPopped .arm state instruction name := by
  have after : ∀ name, name ∈ (stateAfter .arm state instruction).taint ↔
      name ∈ state.taint ∨ (instruction.source.intersects (state.expanded .arm) = true ∧
        name ∈ instruction.destination) := by
    intro name
    rw [stateAfter_of_unpredictable state uncertain, mem_taint_possibleFlow]
  refine ⟨fun name before => (after name).mpr (.inl before), fun name => ⟨?_, ?_⟩⟩
  · rintro ⟨outcome, missed⟩
    have pops := (mem_taint_or_popsTaintInto classified uncertain outcome).resolve_left missed
    rw [after, not_or] at missed
    refine ⟨pops, ?_, missed.1⟩
    rw [← Bool.not_eq_true]
    exact fun reads => missed.2 ⟨reads, pops.mem_destination classified⟩
  · rintro ⟨pops, readsClean, untainted⟩
    refine ⟨pops.mem_taint classified, ?_⟩
    rw [after, readsClean]
    rintro (before | ⟨reads, _⟩)
    · exact untainted before
    · cases reads

def popPairIfNotEqual : Instruction :=
  .bare .arm false .unknown "popne".toList "\x7br0,r4\x7d".toList

def taintedBelowTop : State := ⟨.ofList ["r1"], ∅, ⟨[false, true]⟩⟩

theorem popPairIfNotEqual_misses_second_value :
    "r1" ∈ (stateAfter .arm taintedBelowTop popPairIfNotEqual).taint ∧
      MissesPopped .arm taintedBelowTop popPairIfNotEqual "r4" ∧
      ¬ MissesPopped .arm taintedBelowTop popPairIfNotEqual "r0" := by
  obtain ⟨keeps, misses⟩ := may_execute_misses_popped_taint_only popPairIfNotEqual
    ⟨.unknown, rfl⟩ (by decide +kernel) taintedBelowTop
  refine ⟨keeps "r1" (by decide +kernel), (misses "r4").mp (by decide +kernel), ?_⟩
  rw [← misses "r0"]
  decide +kernel

def loadAndPush : List Instruction :=
  [.bare .arm false .unknown "ldr".toList "r1,[r2]".toList,
    .bare .arm false .unknown "push".toList "\x7br1\x7d".toList]

def popIfNotEqual : Instruction :=
  .bare .arm false .unknown "popne".toList "\x7br0\x7d".toList

/-- The pushed value is popped into a register that is not tainted unless the pop is certain. -/
theorem popIfNotEqual_misses_pushed_value :
    (∀ instruction ∈ loadAndPush ++ [popIfNotEqual], Classified .arm instruction) ∧
    popIfNotEqual.kind = .unpredictable ∧ popIfNotEqual.executedKind = .stackPop ∧
    "r0" ∈ (propagate .arm false (loadAndPush ++ [asExecuted popIfNotEqual])).outcome.taint ∧
    "r0" ∉ (propagate .arm false (loadAndPush ++ [popIfNotEqual])).outcome.taint := by
  refine ⟨?_, by decide +kernel⟩
  simp only [loadAndPush, List.cons_append, List.nil_append, List.forall_mem_cons]
  exact ⟨⟨.unknown, rfl⟩, ⟨.unknown, rfl⟩, ⟨.unknown, rfl⟩, List.forall_mem_nil _⟩

end FaultTriage.Taint
