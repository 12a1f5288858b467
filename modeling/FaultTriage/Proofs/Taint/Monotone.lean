import Mathlib.Data.List.Forall2
import FaultTriage.Proofs.Taint.Action
import FaultTriage.Proofs.Taint.Flow

/-!
# More seeds, more taint

Two passes over the same block that start from different seeds stay in step.  The pass with more
seeds knows more tainted and fewer clean operands, and its stack holds as many values, of which more
are tainted.  Every action keeps this order between the two states, so whatever one pass records is
recorded by the other, and the pass with fewer seeds never gets further than the other one.
-/

set_option autoImplicit false

namespace FaultTriage.Taint

open Register

/-! ## The order of states -/

/-- The stacks have the same size, and what is tainted on the first is tainted on the second. -/
def VirtualStack.Below (fewer more : VirtualStack) : Prop :=
  List.Forall₂ (fun left right => left = true → right = true) fewer.slots more.slots

structure State.Below (fewer more : State) : Prop where
  taint : ∀ name, name ∈ fewer.taint → name ∈ more.taint
  clear : ∀ name, name ∈ more.clear → name ∈ fewer.clear
  stack : fewer.stack.Below more.stack

namespace VirtualStack.Below

variable {fewer more : VirtualStack}

theorem hasTainted (below : fewer.Below more) (pushed : fewer.hasTainted = true) :
    more.hasTainted = true := by
  obtain ⟨left⟩ := fewer
  obtain ⟨right⟩ := more
  simp only [VirtualStack.hasTainted, List.any_eq_true, id_eq, exists_eq_right] at pushed ⊢
  simp only [VirtualStack.Below] at below
  induction below with
  | nil => exact pushed
  | @cons slot other rest others carried _ ih =>
      rcases List.mem_cons.mp pushed with top | deeper
      · exact List.mem_cons.mpr (.inl (carried top.symm).symm)
      · exact List.mem_cons_of_mem _ (ih deeper)

theorem pushValue (below : fewer.Below more) {tainted moreTainted : Bool}
    (carried : tainted = true → moreTainted = true) :
    (fewer.pushValue tainted).Below (more.pushValue moreTainted) :=
  .cons carried below

theorem pop (below : fewer.Below more) :
    (fewer.pop.1 = true → more.pop.1 = true) ∧ fewer.pop.2.Below more.pop.2 := by
  obtain ⟨left⟩ := fewer
  obtain ⟨right⟩ := more
  cases below with
  | nil => exact ⟨id, .nil⟩
  | cons carried rest => exact ⟨carried, rest⟩

end VirtualStack.Below

theorem intersects_mono {set fewer more : OperandSet}
    (subset : ∀ name, name ∈ fewer → name ∈ more) (meets : set.intersects fewer = true) :
    set.intersects more = true := by
  obtain ⟨name, member, tainted⟩ := (OperandSet.intersects_iff _ _).mp meets
  exact (OperandSet.intersects_iff _ _).mpr ⟨name, member, subset name tainted⟩

theorem taintedInput_recordInputs_mono {fewer more : OperandSet}
    (subset : ∀ name, name ∈ fewer → name ∈ more) (instruction : Instruction) (name : Operand)
    (recorded : name ∈ (recordInputs fewer instruction).taintedInput) :
    name ∈ (recordInputs more instruction).taintedInput := by
  rw [mem_taintedInput_recordInputs] at recorded ⊢
  exact recorded.imp_right fun both => ⟨both.1, subset name both.2⟩

namespace State.Below

variable {architecture : Architecture} {fewer more : State}

theorem expanded (below : fewer.Below more) (architecture : Architecture) (name : Operand)
    (tainted : name ∈ fewer.expanded architecture) : name ∈ more.expanded architecture := by
  rw [State.mem_expanded] at tainted ⊢
  rcases tainted with ⟨⟨source, member, suspect⟩, unclean, named⟩ | ⟨pushed, sentinel⟩
  · refine .inl ⟨⟨source, below.taint source member, suspect⟩, fun clean => ?_, named⟩
    exact unclean (below.clear name clean)
  · exact .inr ⟨below.stack.hasTainted pushed, sentinel⟩

theorem exhausted (below : fewer.Below more) (empty : more.exhausted = true) :
    fewer.exhausted = true := by
  obtain ⟨noTaint, noPushed⟩ := State.exhausted_iff.mp empty
  refine State.exhausted_iff.mpr ⟨fun name member => noTaint name (below.taint name member), ?_⟩
  refine Bool.eq_false_iff.mpr fun pushed => ?_
  rw [below.stack.hasTainted pushed] at noPushed
  cases noPushed

/-! ## Writes and stack accesses keep the order -/

theorem assignAll (below : fewer.Below more) {tainted moreTainted : Bool}
    (carried : tainted = true → moreTainted = true) (operands : List Operand) :
    (fewer.assignAll architecture tainted operands).Below
      (more.assignAll architecture moreTainted operands) where
  taint name member := by
    cases tainted with
    | true =>
        cases carried rfl
        rw [State.mem_taint_assignAll_true] at member ⊢
        exact member.imp_right (below.taint name)
    | false =>
        obtain ⟨held, uncovered⟩ := (State.mem_taint_assignAll_false _ _ _ _).mp member
        have suspect := below.taint name held
        cases moreTainted with
        | true => exact (State.mem_taint_assignAll_true _ _ _ _).mpr (.inr suspect)
        | false => exact (State.mem_taint_assignAll_false _ _ _ _).mpr ⟨suspect, uncovered⟩
  clear name member := by
    cases moreTainted with
    | true =>
        obtain ⟨held, uncovered⟩ := (State.mem_clear_assignAll_true _ _ _ _).mp member
        have clean := below.clear name held
        cases tainted with
        | true => exact (State.mem_clear_assignAll_true _ _ _ _).mpr ⟨clean, uncovered⟩
        | false => exact (State.mem_clear_assignAll_false _ _ _ _).mpr (.inr clean)
    | false =>
        cases tainted with
        | true => cases carried rfl
        | false =>
            rw [State.mem_clear_assignAll_false] at member ⊢
            exact member.imp_right (below.clear name)
  stack := by
    rw [State.stack_assignAll, State.stack_assignAll]
    exact below.stack

theorem assignAll_right (below : fewer.Below more) (operands : List Operand) :
    fewer.Below (more.assignAll architecture true operands) where
  taint name member := (State.mem_taint_assignAll_true _ _ _ _).mpr (.inr (below.taint name member))
  clear name member :=
    below.clear name ((State.mem_clear_assignAll_true _ _ _ _).mp member).1
  stack := by
    rw [State.stack_assignAll]
    exact below.stack

theorem withStack (below : fewer.Below more) {fewerStack moreStack : VirtualStack}
    (lower : fewerStack.Below moreStack) :
    State.Below { fewer with stack := fewerStack } { more with stack := moreStack } :=
  ⟨below.taint, below.clear, lower⟩

theorem popAll (below : fewer.Below more) (operands : List Operand) :
    (fewer.popAll architecture operands).Below (more.popAll architecture operands) := by
  induction operands generalizing fewer more with
  | nil => exact below
  | cons operand rest ih =>
      obtain ⟨carried, remaining⟩ := below.stack.pop
      exact ih ((below.withStack remaining).assignAll carried [operand])

theorem pushAll (below : fewer.Below more) {fewerTainted moreTainted : OperandSet}
    (subset : ∀ name, name ∈ fewerTainted → name ∈ moreTainted) (operands : List Operand) :
    (fewer.pushAll fewerTainted operands).Below (more.pushAll moreTainted operands) := by
  induction operands generalizing fewer more with
  | nil => exact below
  | cons operand rest ih =>
      have carried : fewerTainted.lookup operand = true → moreTainted.lookup operand = true := by
        rw [OperandSet.lookup_iff, OperandSet.lookup_iff]
        exact subset operand
      exact ih (below.withStack (below.stack.pushValue carried))

/-! ## Actions keep the order -/

theorem stateAfter (below : fewer.Below more) (instruction : Instruction) (action : Action) :
    (action.stateAfter architecture fewer instruction).Below
      (action.stateAfter architecture more instruction) := by
  have subset := below.expanded architecture
  cases action with
  | skip => exact below
  | popInto names => exact below.popAll names
  | popToMemory => exact below.withStack below.stack.pop.2
  | drop => exact below.withStack below.stack.pop.2
  | pushEach names => exact below.pushAll subset names
  | pushOne operands =>
      exact below.withStack (below.stack.pushValue (intersects_mono subset))
  | exchange =>
      exact (below.assignAll (intersects_mono subset) _).assignAll (intersects_mono subset) _
  | mayFlow =>
      simp only [Action.stateAfter, possibleFlow]
      split
      · rename_i carried
        rw [if_pos (intersects_mono subset carried)]
        exact below.assignAll id _
      · split
        · exact below.assignAll_right _
        · exact below
  | flow => exact below.assignAll (intersects_mono subset) _

theorem taintedInput_instructionAfter (below : fewer.Below more) (instruction : Instruction)
    (action : Action) (name : Operand)
    (recorded : name ∈ (action.instructionAfter architecture fewer instruction).taintedInput) :
    name ∈ (action.instructionAfter architecture more instruction).taintedInput := by
  have inputs := taintedInput_recordInputs_mono (below.expanded architecture) instruction name
  cases action with
  | skip => exact recorded
  | popToMemory =>
      simp only [Action.instructionAfter, readPopped] at recorded ⊢
      cases popped : fewer.stack.pop.1 with
      | true =>
          rw [popped, if_pos rfl] at recorded
          rw [below.stack.pop.1 popped, if_pos rfl]
          rw [OperandSet.mem_insert] at recorded ⊢
          exact recorded.imp_right inputs
      | false =>
          rw [popped, if_neg Bool.false_ne_true] at recorded
          split
          · exact (OperandSet.mem_insert _ _ _).mpr (.inr (inputs recorded))
          · exact inputs recorded
  | _ => exact inputs recorded

end State.Below

/-! ## Walks keep the order -/

theorem mem_taintedInput_instructionAfter (architecture : Architecture) (state : State)
    (action : Action) {instruction : Instruction} {name : Operand}
    (recorded : name ∈ instruction.taintedInput) :
    name ∈ (action.instructionAfter architecture state instruction).taintedInput := by
  have kept : name ∈
      (recordInputs (state.expanded architecture) instruction).taintedInput :=
    (mem_taintedInput_recordInputs _ _ _).mpr (.inl recorded)
  cases action with
  | skip => exact recorded
  | popToMemory =>
      simp only [Action.instructionAfter, readPopped]
      split
      · exact (OperandSet.mem_insert _ _ _).mpr (.inr kept)
      · exact kept
  | _ => exact kept

def RecordsLess (fewer more : Instruction) : Prop :=
  ∀ name, name ∈ fewer.taintedInput → name ∈ more.taintedInput

theorem recordsLess_walk (architecture : Architecture) (index : Nat) (state : State)
    (block : List Instruction) :
    List.Forall₂ RecordsLess block (walk architecture index state block).block := by
  have unchanged : ∀ instructions, List.Forall₂ RecordsLess instructions instructions :=
    fun _ => List.forall₂_same.mpr fun _ _ _ => id
  induction block generalizing index state with
  | nil => exact .nil
  | cons instruction rest ih =>
      cases remaining : state.exhausted with
      | true =>
          rw [walk_of_halt (.exhausted remaining)]
          exact unchanged _
      | false =>
          cases stepped : step? architecture state instruction with
          | none =>
              rw [walk_of_halt (.unsupported remaining stepped)]
              exact .cons (fun name member =>
                (mem_taintedInput_recordInputs _ _ _).mpr (.inl member)) (unchanged rest)
          | some pair =>
              obtain ⟨after, next⟩ := pair
              obtain ⟨action, _, rfl, rfl⟩ := step?_eq_some_iff.mp stepped
              rw [walk_of_step remaining stepped]
              exact .cons (fun name =>
                mem_taintedInput_instructionAfter architecture state action) (ih _ _)

theorem State.Below.walk {architecture : Architecture} {fewer more : State}
    (below : fewer.Below more) (index : Nat) (block : List Instruction) :
    List.Forall₂ RecordsLess (walk architecture index fewer block).block
        (walk architecture index more block).block ∧
      ∀ position, (Taint.walk architecture index fewer block).outcome.status =
          .unsupportedStack position →
        (Taint.walk architecture index more block).outcome.status =
          .unsupportedStack position := by
  induction block generalizing index fewer more with
  | nil => exact ⟨.nil, fun position refused => by cases refused⟩
  | cons instruction rest ih =>
      cases remaining : fewer.exhausted with
      | true =>
          -- The pass with fewer seeds stops here, and the other one can only add to the block.
          rw [walk_of_halt (.exhausted remaining)]
          exact ⟨recordsLess_walk architecture index more _, fun position refused => by cases refused⟩
      | false =>
          have moreRemaining : more.exhausted = false := by
            refine Bool.eq_false_iff.mpr fun empty => ?_
            exact Bool.false_ne_true (remaining.symm.trans (below.exhausted empty))
          -- Both states take the same action, or both refuse the instruction.
          cases decided : action? architecture instruction with
          | none =>
              rw [walk_of_halt (.unsupported remaining (step?_eq_none_iff.mpr decided)),
                walk_of_halt (.unsupported moreRemaining (step?_eq_none_iff.mpr decided))]
              refine ⟨.cons ?_ (List.forall₂_same.mpr fun _ _ _ => id), fun position => id⟩
              exact taintedInput_recordInputs_mono (below.expanded architecture) instruction
          | some action =>
              rw [walk_of_step remaining (step?_of_action fewer decided),
                walk_of_step moreRemaining (step?_of_action more decided)]
              obtain ⟨blocks, statuses⟩ := ih (below.stateAfter instruction action) (index + 1)
              exact ⟨.cons (below.taintedInput_instructionAfter instruction action) blocks, statuses⟩

theorem seeded_below_seeded {fewer more : OperandSet}
    (subset : ∀ name, name ∈ fewer → name ∈ more) : (State.seeded fewer).Below (.seeded more) :=
  ⟨subset, fun _ => id, .nil⟩

/--
Seeding the pointers to the destination as well never loses a tainted input, and a stack operand
that is refused without these seeds is refused at the same instruction with them.
-/
theorem seeding_pointers_records_more (architecture : Architecture) (block : List Instruction) :
    List.Forall₂ RecordsLess (propagate architecture false block).block
        (propagate architecture true block).block ∧
      ∀ index,
        (propagate architecture false block).outcome.status = .unsupportedStack index →
        (propagate architecture true block).outcome.status = .unsupportedStack index := by
  have subset : ∀ name, name ∈ seeds false block → name ∈ seeds true block := by
    intro name member
    cases block with
    | nil => exact member
    | cons first rest => exact (OperandSet.mem_union _ _ _).mpr (.inl member)
  exact (seeded_below_seeded subset).walk 0 block

def storeCopyPointerPopPair : List Instruction :=
  [.bare .x86 false .unknown "mov".toList "dword ptr [ecx],eax".toList,
    .bare .x86 false .unknown "mov".toList "edx,ecx".toList,
    .bare .x86 false .unknown "pop".toList "eax, ebx".toList]

theorem storeCopyPointerPopPair_refused_with_either_seeds :
    (propagate .x86 false storeCopyPointerPopPair).outcome.status = .unsupportedStack 2 ∧
      (propagate .x86 true storeCopyPointerPopPair).outcome.status = .unsupportedStack 2 := by
  have refused : (propagate .x86 false storeCopyPointerPopPair).outcome.status =
      .unsupportedStack 2 := by decide +kernel
  exact ⟨refused, (seeding_pointers_records_more .x86 storeCopyPointerPopPair).2 2 refused⟩

end FaultTriage.Taint
