import FaultTriage.Proofs.Classification.ConditionCode
import FaultTriage.Proofs.Scan.RegisterList
import FaultTriage.Proofs.Taint.Commute
import FaultTriage.Proofs.Taint.MayExecute

/-!
# Registers saved on the stack

Registers that are pushed and popped again in the opposite order keep their taint, and the stack is
as before.  On ARM a push and a pop arrange the registers of their lists in opposite orders, however
the lists are written; on x86 the rows of `pushad` and `popad` name theirs in opposite orders.
-/

set_option autoImplicit false

namespace FaultTriage.Taint

open Register Scan.Arm

/-! ## Pushing and popping operands -/

structure Separate (architecture : Architecture) (names : List Operand) : Prop where
  named : ∀ name ∈ names, name ≠ "" ∧ name ≠ stackContents
  apart : names.Pairwise fun left right => ¬ Overlap architecture left right

instance (architecture : Architecture) (names : List Operand) :
    Decidable (Separate architecture names) :=
  decidable_of_iff
    ((∀ name ∈ names, name ≠ "" ∧ name ≠ stackContents) ∧
      names.Pairwise fun left right => ¬ Overlap architecture left right)
    ⟨fun ⟨named, apart⟩ => ⟨named, apart⟩, fun separate => ⟨separate.named, separate.apart⟩⟩

section

variable {architecture : Architecture} {names : List Operand} {name : Operand}

theorem Separate.tail {first : Operand} (separate : Separate architecture (first :: names)) :
    Separate architecture names :=
  ⟨fun name member => separate.named name (List.mem_cons_of_mem _ member),
    (List.pairwise_cons.mp separate.apart).2⟩

theorem Separate.reverse (separate : Separate architecture names) :
    Separate architecture names.reverse := by
  refine ⟨fun name member => separate.named name (List.mem_reverse.mp member), ?_⟩
  exact List.pairwise_reverse.mpr (separate.apart.imp fun apart overlap => apart overlap.symm)

namespace State

theorem slots_pushAll (tainted : OperandSet) (state : State) (names : List Operand) :
    (state.pushAll tainted names).stack.slots =
      names.reverse.map tainted.lookup ++ state.stack.slots := by
  induction names generalizing state with
  | nil => rfl
  | cons first rest ih =>
      have later := ih { state with stack := state.stack.push tainted first }
      rw [List.reverse_cons, List.map_append, List.append_assoc]
      exact later

theorem remaining_pushAll {tainted : OperandSet} {state : State}
    (remaining : state.exhausted = false) (names : List Operand) :
    (state.pushAll tainted names).exhausted = false := by
  have kept : (state.pushAll tainted names).stack.hasTainted =
      ((names.reverse.map tainted.lookup).any id || state.stack.hasTainted) := by
    rw [VirtualStack.hasTainted, slots_pushAll, List.any_append, VirtualStack.hasTainted]
  have taint : (state.pushAll tainted names).taint = state.taint := rfl
  rw [exhausted, Bool.and_eq_false_iff, Bool.not_eq_false'] at remaining ⊢
  rw [kept, taint, Bool.or_eq_true]
  exact remaining.imp_right .inr

theorem mem_expanded_of_stack (state : State) (stack : VirtualStack)
    (register : name ≠ stackContents) :
    name ∈ ({ state with stack := stack } : State).expanded architecture ↔
      name ∈ state.expanded architecture := by
  simp [mem_expanded, register]

theorem mem_expanded_popInto_of_apart (state : State) {operand : Operand}
    (register : name ≠ stackContents) (apart : ¬ Overlap architecture name operand) :
    name ∈ (state.popInto architecture operand).expanded architecture ↔
      name ∈ state.expanded architecture := by
  have unmarked : name ∉ marked architecture operand := fun view => apart (.inr (.inl view))
  rw [popInto, mem_expanded_assign_of_apart _ _ unmarked, mem_expanded_of_stack state _ register]

theorem mem_expanded_popAll_of_apart (state : State) (register : name ≠ stackContents)
    (apart : ∀ other ∈ names, ¬ Overlap architecture name other) :
    name ∈ (state.popAll architecture names).expanded architecture ↔
      name ∈ state.expanded architecture := by
  induction names generalizing state with
  | nil => exact Iff.rfl
  | cons first rest ih =>
      have later := ih (state.popInto architecture first)
        fun other member => apart other (List.mem_cons_of_mem _ member)
      have now := state.mem_expanded_popInto_of_apart register (apart first List.mem_cons_self)
      exact later.trans now

/-- Each operand takes the value that lies on the stack in its place. -/
theorem popAll_of_slots (separate : Separate architecture names) {values : Operand → Bool}
    {rest : List Bool} (state : State) (slots : state.stack.slots = names.map values ++ rest) :
    (state.popAll architecture names).stack.slots = rest ∧
      ∀ name ∈ names, name ∈ (state.popAll architecture names).expanded architecture ↔
        values name = true := by
  induction names generalizing state with
  | nil => exact ⟨slots, fun name member => absurd member List.not_mem_nil⟩
  | cons first others ih =>
      obtain ⟨named, register⟩ := separate.named first List.mem_cons_self
      have apart := (List.pairwise_cons.mp separate.apart).1
      have popped : state.stack.pop = (values first, ⟨others.map values ++ rest⟩) := by
        rw [VirtualStack.pop, slots]
        rfl
      have below : (state.popInto architecture first).stack.slots = others.map values ++ rest := by
        rw [stack_popInto, popped]
      obtain ⟨stack, restored⟩ := ih separate.tail (state.popInto architecture first) below
      rw [popAll_cons]
      refine ⟨stack, fun name member => ?_⟩
      obtain rfl | later := List.mem_cons.mp member
      · -- The later pops leave alone what the first one has restored.
        rw [mem_expanded_popAll_of_apart _ register apart, popInto, popped,
          mem_expanded_assign_self _ _ _ named register]
      · exact restored name later

theorem popAll_pushAll (separate : Separate architecture names) (state : State) :
    ((state.pushAll (state.expanded architecture) names).popAll architecture names.reverse).stack =
        state.stack ∧
      ∀ name ∈ names,
        name ∈ ((state.pushAll (state.expanded architecture) names).popAll architecture
          names.reverse).expanded architecture ↔ name ∈ state.expanded architecture := by
  obtain ⟨stack, restored⟩ := popAll_of_slots separate.reverse _
    (slots_pushAll (state.expanded architecture) state names)
  refine ⟨congrArg VirtualStack.mk stack, fun name member => ?_⟩
  rw [restored name (List.mem_reverse.mpr member), OperandSet.lookup_iff]

end State

/-! ## A push and a pop -/

/--
The push and the pop are processed, the stack is as it was before them, and each of the registers
counts as tainted after them exactly if it did before.
-/
def Restores (architecture : Architecture) (state : State) (push pop : Instruction)
    (registers : List Operand) : Prop :=
  ∃ pushed between popped final,
    step? architecture state push = some (pushed, between) ∧
    (state.exhausted = false → between.exhausted = false) ∧
    step? architecture between pop = some (popped, final) ∧
    final.stack = state.stack ∧
    ∀ name ∈ registers, name ∈ final.expanded architecture ↔ name ∈ state.expanded architecture

theorem restores_of_actions (separate : Separate architecture names) {push pop : Instruction}
    (pushes : action? architecture push = some (.pushEach names))
    (pops : action? architecture pop = some (.popInto names.reverse)) (state : State) :
    Restores architecture state push pop names := by
  obtain ⟨stack, restored⟩ := State.popAll_pushAll separate state
  exact ⟨_, _, _, _, step?_of_action state pushes,
    fun remaining => State.remaining_pushAll remaining names, step?_of_action _ pops, stack,
    restored⟩

end

structure Spelled (architecture : Architecture) (mnemonic : String) (arguments : List Char)
    (instruction : Instruction) : Prop where
  classified : Classified architecture instruction
  mnemonic : instruction.rootMnemonic = mnemonic.toList
  arguments : instruction.arguments = arguments

theorem Spelled.exists_ofText {architecture : Architecture} {mnemonic : String}
    {arguments : List Char} {instruction : Instruction}
    (spelled : Spelled architecture mnemonic arguments instruction) :
    ∃ flagsValid flags, instruction.toClassification =
      Classification.ofText architecture flagsValid flags mnemonic.toList arguments := by
  obtain ⟨flags, same⟩ := spelled.classified
  rw [spelled.mnemonic, spelled.arguments] at same
  exact ⟨_, flags, same⟩

/-! ## Register lists of ARM -/

theorem names_ne_nil {set : OperandSet} (nonempty : set ≠ ∅) : set.names ≠ [] := by
  intro none
  refine nonempty (OperandSet.ext fun name => ?_)
  rw [← OperandSet.mem_names, none]
  exact iff_of_false List.not_mem_nil (OperandSet.not_mem_empty name)

def Lists (registers : OperandSet) (text : List Char) : Prop :=
  ∃ items, WritesList items text ∧ OperandSet.ofList (items.flatMap ListItem.registers) = registers

theorem exists_lists {registers : OperandSet} (nonempty : registers ≠ ∅)
    (listed : ∀ name ∈ registers, name ∈ armRegisters) : ∃ text, Lists registers text := by
  obtain ⟨items, text, written, named⟩ := exists_writesList (names_ne_nil nonempty) listed
  refine ⟨text, items, written, OperandSet.ext fun name => ?_⟩
  rw [named, OperandSet.mem_ofList, OperandSet.mem_names]
  exact ⟨And.left, fun member => ⟨member, named_of_mem member⟩⟩

section

variable {registers : OperandSet}

theorem popOrder_eq_reverse : popOrder = pushOrder.reverse := by decide +kernel

theorem mem_pushOrder {name : Operand} (listed : name ∈ armRegisters) : name ∈ pushOrder := by
  have checked : ∀ name ∈ armRegisters, name ∈ pushOrder := by decide +kernel
  exact checked name listed

theorem arrange_of_complete {order : List Operand} (complete : ∀ name ∈ registers, name ∈ order) :
    arrange order registers = order.filter registers.contains := by
  have none : registers.names.filter (fun name => !order.contains name) = [] := by
    refine List.filter_eq_nil_iff.mpr fun name member => ?_
    simp [complete name member]
  rw [arrange, none, List.append_nil]

/-- A pop loads registers in the order opposite to the one in which a push stores them. -/
theorem arrange_popOrder (listed : ∀ name ∈ registers, name ∈ armRegisters) :
    arrange popOrder registers = (arrange pushOrder registers).reverse := by
  have stored := fun name member => mem_pushOrder (listed name member)
  have loaded : ∀ name ∈ registers, name ∈ popOrder := by
    intro name member
    rw [popOrder_eq_reverse]
    exact List.mem_reverse.mpr (stored name member)
  rw [arrange_of_complete stored, arrange_of_complete loaded, popOrder_eq_reverse,
    List.filter_reverse]

theorem mem_arrange_pushOrder (listed : ∀ name ∈ registers, name ∈ armRegisters) {name : Operand} :
    name ∈ arrange pushOrder registers ↔ name ∈ registers := by
  rw [arrange_of_complete fun name member => mem_pushOrder (listed name member), List.mem_filter,
    OperandSet.contains_iff]
  exact ⟨And.right, fun member => ⟨mem_pushOrder (listed name member), member⟩⟩

/-- One register is moved on its own, with the same effect as in a list of several. -/
theorem arrange_of_names_eq {name : Operand} (single : registers.names = [name])
    (listed : ∀ name ∈ registers, name ∈ armRegisters) : arrange pushOrder registers = [name] := by
  have checked : ∀ name ∈ armRegisters, arrange pushOrder (.ofList [name]) = [name] := by
    decide +kernel
  have same : registers = .ofList [name] := by
    ext other
    rw [OperandSet.mem_ofList, ← single, OperandSet.mem_names]
    exact ⟨fun member => ⟨member, named_of_mem member⟩, And.left⟩
  have member : name ∈ registers := by
    rw [← OperandSet.mem_names, single]
    exact List.mem_cons_self
  rw [same]
  exact checked name (listed name member)

theorem separate_arrange (listed : ∀ name ∈ registers, name ∈ armRegisters) :
    Separate .arm (arrange pushOrder registers) := by
  have order : Separate .arm pushOrder := by decide +kernel
  rw [arrange_of_complete fun name member => mem_pushOrder (listed name member)]
  exact ⟨fun name member => order.named name (List.mem_filter.mp member).1, order.apart.filter _⟩

theorem stackOperandsImplied_nil (instruction : Instruction) :
    stackOperandsImplied instruction [] = false := by
  simp [stackOperandsImplied]

theorem pushAction_of_list {push : Instruction} (unimplied : rowOperands .arm (·.reads) push = [])
    (nonempty : push.source ≠ ∅) (listed : ∀ name ∈ push.source, name ∈ armRegisters) :
    pushAction .arm push = .pushEach (arrange pushOrder push.source) := by
  simp only [pushAction, unimplied, stackOperandsImplied_nil, Bool.false_eq_true, if_false]
  split
  case h_1 none => exact absurd none (names_ne_nil nonempty)
  case h_2 name single => rw [arrange_of_names_eq single listed]
  case h_3 => rfl

theorem popAction?_of_list {pop : Instruction} (unimplied : rowOperands .arm (·.writes) pop = [])
    (direct : pop.destinationPointer = ∅) (nonempty : pop.destination ≠ ∅)
    (listed : ∀ name ∈ pop.destination, name ∈ armRegisters) :
    popAction? .arm pop = some (.popInto (arrange pushOrder pop.destination).reverse) := by
  simp only [popAction?, unimplied, stackOperandsImplied_nil, Bool.false_eq_true, if_false]
  split
  case h_1 name single => rw [arrange_of_names_eq single listed, List.reverse_singleton]
  case h_2 =>
    have some : pop.destination.names.isEmpty = false :=
      List.isEmpty_eq_false_iff.mpr (names_ne_nil nonempty)
    have noPointer : pop.destinationPointer.isEmpty = true := by rw [direct]; rfl
    simp only [noPointer, some, Bool.not_true, Bool.false_eq_true, if_false, inPopOrder?,
      Option.map_some, arrange_popOrder listed]

end

/-! ## Classified pushes and pops -/

def pushRow : TableRow := .starting "push" .stackPush Table.Arm.registersRead

def popRow : TableRow :=
  { TableRow.starting "pop" .stackPop Table.Arm.registersWritten with
    adjustments := [.branchByLoad] }

theorem pushRow_listed : pushRow ∈ Table.rows .arm := by decide +kernel

theorem popRow_listed : popRow ∈ Table.rows .arm := by decide +kernel

theorem rowOperands_of_lookup? {architecture : Architecture} {instruction : Instruction}
    {row : TableRow} (found : Table.lookup? architecture instruction.rootMnemonic = some row)
    (role : TableRow → List Operand) : rowOperands architecture role instruction = role row := by
  rw [rowOperands, found]

theorem Spelled.of_row {row : TableRow} (listed : row ∈ Table.rows .arm) {text : List Char}
    {instruction : Instruction} (spelled : Spelled .arm row.mnemonic text instruction) :
    instruction.toEffect = Classification.rowEffect .arm row text ∧
      ∀ role, rowOperands .arm role instruction = role row := by
  obtain ⟨flagsValid, flags, classified⟩ := spelled.exists_ofText
  have found : Table.lookup? .arm instruction.rootMnemonic = some row := by
    rw [spelled.mnemonic]
    exact Table.lookup?_mnemonic listed
  refine ⟨?_, rowOperands_of_lookup? found⟩
  rw [congrArg Classification.toEffect classified]
  exact Classification.toEffect_ofText_mnemonic flagsValid flags listed text

section

variable {registers : OperandSet} {text : List Char}

theorem rowEffect_push (lists : Lists registers text) :
    Classification.rowEffect .arm pushRow text =
      { source := registers, destination := ∅, destinationPointer := ∅, passedOrReturned := ∅,
        explicit := registers, compound := ∅, kind := .stackPush } := by
  obtain ⟨items, written, rfl⟩ := lists
  simp only [Classification.rowEffect, operands_list pushRow rfl written]
  rfl

theorem rowEffect_pop (lists : Lists registers text) (other : programCounter ∉ registers) :
    Classification.rowEffect .arm popRow text =
      { source := ∅, destination := registers, destinationPointer := ∅, passedOrReturned := ∅,
        explicit := registers, compound := ∅, kind := .stackPop } := by
  obtain ⟨items, written, rfl⟩ := lists
  simp only [Classification.rowEffect, operands_list popRow rfl written]
  exact if_neg other

variable {push pop : Instruction}

theorem action?_push (spelled : Spelled .arm "push" text push) (lists : Lists registers text)
    (nonempty : registers ≠ ∅) (listed : ∀ name ∈ registers, name ∈ armRegisters) :
    action? .arm push = some (.pushEach (arrange pushOrder registers)) := by
  obtain ⟨effect, operands⟩ := Spelled.of_row pushRow_listed spelled
  rw [rowEffect_push lists] at effect
  have kind : push.kind = .stackPush := congrArg Effect.kind effect
  have source : push.source = registers := congrArg (·.source) effect
  subst source
  rw [action?, kind]
  exact congrArg some (pushAction_of_list (operands _) nonempty listed)

theorem action?_pop (spelled : Spelled .arm "pop" text pop) (lists : Lists registers text)
    (other : programCounter ∉ registers) (nonempty : registers ≠ ∅)
    (listed : ∀ name ∈ registers, name ∈ armRegisters) :
    action? .arm pop = some (.popInto (arrange pushOrder registers).reverse) := by
  obtain ⟨effect, operands⟩ := Spelled.of_row popRow_listed spelled
  rw [rowEffect_pop lists other] at effect
  have kind : pop.kind = .stackPop := congrArg Effect.kind effect
  have destination : pop.destination = registers := congrArg (·.destination) effect
  have direct : pop.destinationPointer = ∅ := congrArg (·.destinationPointer) effect
  subst destination
  rw [action?, kind]
  exact popAction?_of_list (operands _) direct nonempty listed

end

/-! ## All general registers of x86 -/

def generalRegisters : List Operand :=
  ["eax", "ecx", "edx", "ebx", "esp", "ebp", "esi", "edi"]

theorem separate_generalRegisters : Separate .x86 generalRegisters := by decide +kernel

section

variable {mnemonic : String} {text : List Char} {instruction : Instruction} {row : TableRow}

/-- A row that takes no operands from the text leaves none to be named there. -/
theorem implied_of_spelled (spelled : Spelled .x86 mnemonic text instruction)
    (found : Table.lookup? .x86 mnemonic.toList = some row) (takesNone : row.shape = .none)
    (unadjusted : row.adjustments = []) :
    instruction.kind = row.kind ∧ instruction.explicit = ∅ ∧
      ∀ role, rowOperands .x86 role instruction = role row := by
  obtain ⟨flagsValid, flags, classified⟩ := spelled.exists_ofText
  have effect : instruction.toEffect = { Scan.implied row with kind := row.kind } := by
    have nothing : row.shape.isEmpty = true := by rw [takesNone]; rfl
    rw [congrArg Classification.toEffect classified]
    simp [Classification.ofText, found, Classification.rowEffect, Scan.X86.operands, nothing,
      unadjusted, Adjustment.applyAll]
  refine ⟨congrArg Effect.kind effect, congrArg (·.explicit) effect, rowOperands_of_lookup? ?_⟩
  rw [spelled.mnemonic]
  exact found

theorem action?_pushad (spelled : Spelled .x86 "pushad" text instruction) :
    action? .x86 instruction = some (.pushEach generalRegisters) := by
  obtain ⟨row, found, kind, shape, adjustments, reads⟩ :
      ∃ row, Table.lookup? .x86 "pushad".toList = some row ∧ row.kind = .stackPush ∧
        row.shape = .none ∧ row.adjustments = [] ∧ row.reads = generalRegisters := by
    exact ⟨_, rfl, rfl, rfl, rfl, rfl⟩
  obtain ⟨sameKind, unnamed, operands⟩ := implied_of_spelled spelled found shape adjustments
  have rowReads := (operands (·.reads)).trans reads
  rw [action?, sameKind.trans kind]
  simp only [pushAction, rowReads, stackOperandsImplied, unnamed]
  rfl

theorem action?_popad (spelled : Spelled .x86 "popad" text instruction) :
    action? .x86 instruction = some (.popInto generalRegisters.reverse) := by
  obtain ⟨row, found, kind, shape, adjustments, writes⟩ :
      ∃ row, Table.lookup? .x86 "popad".toList = some row ∧ row.kind = .stackPop ∧
        row.shape = .none ∧ row.adjustments = [] ∧ row.writes = generalRegisters.reverse := by
    exact ⟨_, rfl, rfl, rfl, rfl, rfl⟩
  obtain ⟨sameKind, unnamed, operands⟩ := implied_of_spelled spelled found shape adjustments
  have rowWrites := (operands (·.writes)).trans writes
  rw [action?, sameKind.trans kind]
  simp only [popAction?, rowWrites, stackOperandsImplied, unnamed]
  rfl

end

/-! ## Saved registers keep their taint -/

/--
On ARM any registers but the program counter can be listed, and keep their taint if they are pushed
and popped again, whatever the lists look like; on x86 the general registers do if all of them are.
-/
theorem saved_registers_keep_taint :
    (∀ registers : OperandSet, registers ≠ ∅ →
      (∀ name ∈ registers, name ∈ armRegisters ∧ name ≠ programCounter) →
        (∃ text, Lists registers text) ∧
        ∀ (pushText popText : List Char) (push pop : Instruction) (state : State),
          Lists registers pushText → Lists registers popText →
          Spelled .arm "push" pushText push → Spelled .arm "pop" popText pop →
            Restores .arm state push pop registers.names) ∧
    ∀ (pushText popText : List Char) (push pop : Instruction) (state : State),
      Spelled .x86 "pushad" pushText push → Spelled .x86 "popad" popText pop →
        Restores .x86 state push pop generalRegisters := by
  constructor
  · intro registers nonempty allowed
    have listed := fun name member => (allowed name member).1
    have other : programCounter ∉ registers := fun member => (allowed _ member).2 rfl
    refine ⟨exists_lists nonempty listed, ?_⟩
    intro pushText popText push pop state pushLists popLists pushSpelled popSpelled
    obtain ⟨pushed, between, popped, final, pushes, remaining, pops, stack, restored⟩ :=
      restores_of_actions (separate_arrange listed)
        (action?_push pushSpelled pushLists nonempty listed)
        (action?_pop popSpelled popLists other nonempty listed) state
    refine ⟨pushed, between, popped, final, pushes, remaining, pops, stack, ?_⟩
    intro name member
    exact restored name ((mem_arrange_pushOrder listed).mpr member)
  · intro pushText popText push pop state pushSpelled popSpelled
    exact restores_of_actions separate_generalRegisters (action?_pushad pushSpelled)
      (action?_popad popSpelled) state

def savedRegisters : OperandSet := .ofList ["r4", "r5", "r6", "lr"]

def pushSaved : Instruction := .bare .arm false .unknown "push".toList "\x7br4-r6,lr\x7d".toList

def popSaved : Instruction :=
  .bare .arm false .unknown "pop".toList "\x7blr, r6, r4, r5\x7d".toList

def pushGeneral : Instruction := .bare .x86 false .unknown "pushad".toList []

def popGeneral : Instruction := .bare .x86 false .unknown "popad".toList []

/-- The lists are written in different ways, and the tainted `ax` is suspect as a part of `eax`. -/
theorem savedLink_keeps_taint :
    Restores .arm (.seeded (.ofList ["r5", "lr"])) pushSaved popSaved savedRegisters.names ∧
      Restores .x86 (.seeded (.ofList ["ax", "esi"])) pushGeneral popGeneral generalRegisters := by
  have pushed : Lists savedRegisters "\x7br4-r6,lr\x7d".toList :=
    ⟨[.range "r4" "r6", .single "lr"], ⟨by decide, _, .comma _ (.last _), rfl⟩, by decide +kernel⟩
  have popped : Lists savedRegisters "\x7blr, r6, r4, r5\x7d".toList :=
    ⟨[.single "lr", .single "r6", .single "r4", .single "r5"],
      ⟨by decide, _, .commaSpace _ (.commaSpace _ (.commaSpace _ (.last _))), rfl⟩,
      by decide +kernel⟩
  constructor
  · exact (saved_registers_keep_taint.1 savedRegisters (by decide +kernel) (by decide +kernel)).2
      _ _ pushSaved popSaved _ pushed popped
      ⟨⟨.unknown, rfl⟩, by decide +kernel, by decide +kernel⟩
      ⟨⟨.unknown, rfl⟩, by decide +kernel, by decide +kernel⟩
  · exact saved_registers_keep_taint.2 [] [] pushGeneral popGeneral _
      ⟨⟨.unknown, rfl⟩, by decide +kernel, by decide +kernel⟩
      ⟨⟨.unknown, rfl⟩, by decide +kernel, by decide +kernel⟩

end FaultTriage.Taint
