import FaultTriage.Proofs.Taint.Run

/-!
# Actions of instructions

What an instruction does to the state of the pass is settled before the state is known.  The
instruction and the architecture decide on the action, and with it on whether a stack operand is
refused; the state only decides how tainted the values are that the action moves.
-/

set_option autoImplicit false

namespace FaultTriage.Taint

open Register

inductive Action where
  | skip
  /-- One value is popped into each operand, in this order. -/
  | popInto (names : List Operand)
  | popToMemory
  | drop
  | pushEach (names : List Operand)
  | pushOne (operands : OperandSet)
  | exchange
  | mayFlow
  | flow

/-! ## The action of an instruction -/

def popAction? (architecture : Architecture) (instruction : Instruction) : Option Action :=
  let implied := rowOperands architecture (·.writes) instruction
  if stackOperandsImplied instruction implied then
    some (.popInto implied)
  else
    match instruction.destination.names with
    | [operand] => some (.popInto [operand])
    | names =>
        if !instruction.destinationPointer.isEmpty then
          if architecture.allowsMemoryStackOperands then some .popToMemory else none
        else if names.isEmpty then
          some .drop
        else
          (inPopOrder? architecture instruction.destination).map .popInto

/-- A push is never refused, so its action is no option. -/
def pushAction (architecture : Architecture) (instruction : Instruction) : Action :=
  let implied := rowOperands architecture (·.reads) instruction
  if stackOperandsImplied instruction implied then
    .pushEach implied
  else
    match instruction.source.names with
    | [] => .pushOne ∅
    | [operand] => .pushEach [operand]
    | _ =>
        match inPushOrder? architecture instruction.source with
        | some operands => .pushEach operands
        | none => .pushOne instruction.source

def action? (architecture : Architecture) (instruction : Instruction) : Option Action :=
  match instruction.kind with
  | .noop => some .skip
  | .stackPop => popAction? architecture instruction
  | .stackPush => some (pushAction architecture instruction)
  | .dataExchange => some .exchange
  | .unpredictable => some .mayFlow
  | _ => some .flow

/-! ## What an action does -/

/-- A tainted value that is popped to memory is an input of the instruction. -/
def readPopped (tainted : Bool) (instruction : Instruction) : Instruction :=
  if tainted then
    { instruction with
      source := instruction.source.insert stackContents
      taintedInput := instruction.taintedInput.insert stackContents }
  else
    instruction

namespace Action

def instructionAfter (architecture : Architecture) (state : State) (instruction : Instruction) :
    Action → Instruction
  | .skip => instruction
  | .popToMemory =>
      readPopped state.stack.pop.1 (recordInputs (state.expanded architecture) instruction)
  | _ => recordInputs (state.expanded architecture) instruction

def stateAfter (architecture : Architecture) (state : State) (instruction : Instruction) :
    Action → State
  | .skip => state
  | .popInto names => state.popAll architecture names
  | .popToMemory | .drop => { state with stack := state.stack.pop.2 }
  | .pushEach names => state.pushAll (state.expanded architecture) names
  | .pushOne operands =>
      { state with stack := state.stack.pushAny (state.expanded architecture) operands }
  | .exchange => Taint.exchange architecture (state.expanded architecture) state instruction
  | .mayFlow => possibleFlow architecture (state.expanded architecture) state instruction
  | .flow => Taint.flow architecture (state.expanded architecture) state instruction

def perform (architecture : Architecture) (state : State) (instruction : Instruction)
    (action : Action) : Instruction × State :=
  (action.instructionAfter architecture state instruction,
    action.stateAfter architecture state instruction)

end Action

/-! ## A step performs the action -/

section

variable (tainted : OperandSet) (instruction : Instruction)

@[simp] theorem kind_recordInputs : (recordInputs tainted instruction).kind = instruction.kind :=
  rfl

@[simp] theorem source_recordInputs :
    (recordInputs tainted instruction).source = instruction.source := rfl

@[simp] theorem destination_recordInputs :
    (recordInputs tainted instruction).destination = instruction.destination := rfl

@[simp] theorem destinationPointer_recordInputs :
    (recordInputs tainted instruction).destinationPointer = instruction.destinationPointer := rfl

@[simp] theorem rowOperands_recordInputs (architecture : Architecture)
    (role : TableRow → List Operand) :
    rowOperands architecture role (recordInputs tainted instruction) =
      rowOperands architecture role instruction := rfl

@[simp] theorem stackOperandsImplied_recordInputs (implied : List Operand) :
    stackOperandsImplied (recordInputs tainted instruction) implied =
      stackOperandsImplied instruction implied := rfl

end

theorem pop?_eq (architecture : Architecture) (state : State) (instruction : Instruction) :
    pop? architecture state (recordInputs (state.expanded architecture) instruction) =
      (popAction? architecture instruction).map (Action.perform architecture state instruction) := by
  simp only [pop?, popAction?]
  rw [rowOperands_recordInputs, stackOperandsImplied_recordInputs, destination_recordInputs,
    destinationPointer_recordInputs]
  cases stackOperandsImplied instruction (rowOperands architecture (·.writes) instruction) with
  | true => rfl
  | false =>
      cases instruction.destination.names with
      | nil =>
          cases instruction.destinationPointer.isEmpty <;> cases architecture <;> rfl
      | cons operand others =>
          cases others with
          | nil => rfl
          | cons =>
              cases instruction.destinationPointer.isEmpty <;> cases architecture <;> rfl

theorem push?_eq (architecture : Architecture) (state : State) (instruction : Instruction) :
    push? architecture (state.expanded architecture) state
        (recordInputs (state.expanded architecture) instruction) =
      some ((pushAction architecture instruction).perform architecture state instruction) := by
  simp only [push?, pushAction]
  rw [rowOperands_recordInputs, stackOperandsImplied_recordInputs, source_recordInputs]
  cases stackOperandsImplied instruction (rowOperands architecture (·.reads) instruction) with
  | true => rfl
  | false =>
      cases instruction.source.names with
      | nil => rfl
      | cons operand others =>
          cases others with
          | nil => rfl
          | cons => cases architecture <;> rfl

/-- A step is refused exactly if there is no action, and performs the action otherwise. -/
theorem step?_eq (architecture : Architecture) (state : State) (instruction : Instruction) :
    step? architecture state instruction =
      (action? architecture instruction).map (Action.perform architecture state instruction) := by
  by_cases idle : instruction.kind = .noop
  · rw [step?_of_noop architecture state idle, action?, idle]
    rfl
  · rw [step?_of_not_noop architecture state idle, transition?, action?, kind_recordInputs]
    cases same : instruction.kind with
    | noop => exact absurd same idle
    | stackPop => exact pop?_eq architecture state instruction
    | stackPush => exact push?_eq architecture state instruction
    | _ => rfl

theorem step?_of_action {architecture : Architecture} (state : State) {instruction : Instruction}
    {action : Action} (decided : action? architecture instruction = some action) :
    step? architecture state instruction =
      some (action.instructionAfter architecture state instruction,
        action.stateAfter architecture state instruction) := by
  rw [step?_eq, decided]
  rfl

theorem step?_eq_some_iff {architecture : Architecture} {state next : State}
    {instruction after : Instruction} :
    step? architecture state instruction = some (after, next) ↔
      ∃ action, action? architecture instruction = some action ∧
        action.instructionAfter architecture state instruction = after ∧
        action.stateAfter architecture state instruction = next := by
  rw [step?_eq, Option.map_eq_some_iff]
  simp only [Action.perform, Prod.mk.injEq]

theorem step?_eq_none_iff {architecture : Architecture} {state : State}
    {instruction : Instruction} :
    step? architecture state instruction = none ↔ action? architecture instruction = none := by
  rw [step?_eq, Option.map_eq_none_iff]

/-! ## The state after an instruction -/

def stateAfter (architecture : Architecture) (state : State) (instruction : Instruction) : State :=
  match step? architecture state instruction with
  | some (_, next) => next
  | none => state

theorem stateAfter_of_action {architecture : Architecture} (state : State)
    {instruction : Instruction} {action : Action}
    (decided : action? architecture instruction = some action) :
    stateAfter architecture state instruction =
      action.stateAfter architecture state instruction := by
  rw [stateAfter, step?_of_action state decided]

theorem stateAfter_of_refusal {architecture : Architecture} (state : State)
    {instruction : Instruction} (refused : action? architecture instruction = none) :
    stateAfter architecture state instruction = state := by
  rw [stateAfter, step?_eq_none_iff.mpr refused]

theorem Run.final_eq {architecture : Architecture} {start final : State}
    {processed changed : List Instruction}
    (run : Run architecture start processed changed final) :
    final = processed.foldl (stateAfter architecture) start := by
  induction run with
  | start => rfl
  | step _ _ stepped ih =>
      rw [List.foldl_append, ← ih, List.foldl_cons, List.foldl_nil, stateAfter, stepped]

/-! ## The kind behind an action -/

theorem pushAction_cases (architecture : Architecture) (instruction : Instruction) :
    (∃ names, pushAction architecture instruction = .pushEach names) ∨
      ∃ operands, pushAction architecture instruction = .pushOne operands := by
  simp only [pushAction]
  repeat' split
  all_goals simp

/-- What an action says of the kind of its instruction. -/
theorem kind_of_action? {architecture : Architecture} {instruction : Instruction} {action : Action}
    (decided : action? architecture instruction = some action) :
    match action with
    | .skip => instruction.kind = .noop
    | .popInto _ | .popToMemory | .drop =>
        instruction.kind = .stackPop ∧ popAction? architecture instruction = some action
    | .pushEach _ | .pushOne _ => instruction.kind = .stackPush
    | .exchange => instruction.kind = .dataExchange
    | .mayFlow => instruction.kind = .unpredictable
    | .flow => instruction.kind ≠ .stackPop ∧ instruction.kind ≠ .stackPush ∧
        instruction.kind ≠ .dataExchange := by
  rw [action?] at decided
  cases kind : instruction.kind with
  | stackPop =>
      simp only [kind] at decided
      cases action with
      | popInto | popToMemory | drop => exact ⟨rfl, decided⟩
      | _ =>
          simp only [popAction?] at decided
          repeat' split at decided
          all_goals simp at decided
  | stackPush =>
      simp only [kind] at decided
      cases action with
      | pushEach | pushOne => rfl
      | _ =>
          rcases pushAction_cases architecture instruction with ⟨_, pushes⟩ | ⟨_, pushes⟩ <;>
            simp [pushes] at decided
  | _ =>
      simp only [kind] at decided
      cases decided
      first | rfl | exact ⟨by decide, by decide, by decide⟩

end FaultTriage.Taint
