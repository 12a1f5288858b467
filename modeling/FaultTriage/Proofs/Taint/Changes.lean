import FaultTriage.Taint.Pass
import FaultTriage.Proofs.Taint.State

/-!
# Elementary changes of a taint state

A pass changes its state in small steps: it notes one written operand, pushes one value, or drops
the value pushed last.  The log of a pass lists these steps in the order in which they are made, so
every state that a pass goes through is the start followed by a first part of the log.  Replaying
the whole log gives the state in which the pass ends.
-/

set_option autoImplicit false

namespace FaultTriage.Taint

open Register

inductive Change where
  | write (operand : Operand) (tainted : Bool)
  | push (tainted : Bool)
  | drop
deriving DecidableEq

def Change.apply (architecture : Architecture) (state : State) : Change → State
  | .write operand tainted => state.assign architecture tainted operand
  | .push tainted => { state with stack := state.stack.pushValue tainted }
  | .drop => { state with stack := state.stack.pop.2 }

def replay (architecture : Architecture) (state : State) (changes : List Change) : State :=
  changes.foldl (Change.apply architecture) state

/-! ## The log of an instruction -/

def writeLog (tainted : Bool) (operands : List Operand) : List Change :=
  operands.map (.write · tainted)

def popLog (stack : VirtualStack) : List Operand → List Change
  | [] => []
  | operand :: rest => .drop :: .write operand stack.pop.1 :: popLog stack.pop.2 rest

def pushLog (tainted : OperandSet) (operands : List Operand) : List Change :=
  operands.map fun operand => .push (tainted.lookup operand)

def popChanges? (architecture : Architecture) (state : State) (instruction : Instruction) :
    Option (List Change) :=
  let implied := rowOperands architecture (·.writes) instruction
  if stackOperandsImplied instruction implied then
    some (popLog state.stack implied)
  else
    match instruction.destination.names with
    | [operand] => some (popLog state.stack [operand])
    | names =>
        if !instruction.destinationPointer.isEmpty then
          if architecture.allowsMemoryStackOperands then some [.drop] else none
        else if names.isEmpty then
          some [.drop]
        else if architecture.allowsMultipleStackOperands then
          (inPopOrder? architecture instruction.destination).map (popLog state.stack)
        else
          none

def pushChanges? (architecture : Architecture) (tainted : OperandSet) (instruction : Instruction) :
    Option (List Change) :=
  let implied := rowOperands architecture (·.reads) instruction
  if stackOperandsImplied instruction implied then
    some (pushLog tainted implied)
  else
    match instruction.source.names with
    | [] => some [.push false]
    | [operand] => some (pushLog tainted [operand])
    | _ =>
        if architecture.allowsMemoryStackOperands then
          some [.push (instruction.source.intersects tainted)]
        else if architecture.allowsMultipleStackOperands then
          (inPushOrder? architecture instruction.source).map (pushLog tainted)
        else
          none

def changes? (architecture : Architecture) (tainted : OperandSet) (state : State)
    (instruction : Instruction) : Option (List Change) :=
  match instruction.kind with
  | .stackPop => popChanges? architecture state instruction
  | .stackPush => pushChanges? architecture tainted instruction
  | .dataExchange =>
      some (writeLog (instruction.destination.intersects tainted) instruction.source.names ++
        writeLog (instruction.source.intersects tainted) instruction.destination.names)
  | .unpredictable =>
      if instruction.source.intersects tainted then
        some (writeLog true instruction.destination.names)
      else
        some []
  | _ => some (writeLog (instruction.source.intersects tainted) instruction.destination.names)

def walkLog (architecture : Architecture) (state : State) : List Instruction → List Change
  | [] => []
  | instruction :: rest =>
      if state.exhausted then
        []
      else if instruction.kind = .noop then
        walkLog architecture state rest
      else
        let tainted := state.expanded architecture
        match changes? architecture tainted state (recordInputs tainted instruction) with
        | none => []
        | some changes => changes ++ walkLog architecture (replay architecture state changes) rest

def passLog (architecture : Architecture) (taintPointers : Bool) (block : List Instruction) :
    List Change :=
  walkLog architecture (.seeded (seeds taintPointers block)) block

/-! ## Replaying the log -/

theorem replay_cons (architecture : Architecture) (state : State) (change : Change)
    (rest : List Change) :
    replay architecture state (change :: rest) =
      replay architecture (change.apply architecture state) rest :=
  rfl

theorem replay_append (architecture : Architecture) (state : State) (first second : List Change) :
    replay architecture state (first ++ second) =
      replay architecture (replay architecture state first) second :=
  List.foldl_append

theorem replay_writeLog (architecture : Architecture) (tainted : Bool) (state : State)
    (operands : List Operand) :
    replay architecture state (writeLog tainted operands) =
      state.assignAll architecture tainted operands := by
  simp only [replay, writeLog, List.foldl_map]
  rfl

theorem replay_popLog (architecture : Architecture) (state : State) (operands : List Operand) :
    replay architecture state (popLog state.stack operands) =
      state.popAll architecture operands := by
  induction operands generalizing state with
  | nil => rfl
  | cons operand rest ih =>
      have remaining := ih (state.popInto architecture operand)
      rw [State.stack_popInto] at remaining
      exact remaining

theorem replay_pushLog (architecture : Architecture) (tainted : OperandSet) (state : State)
    (operands : List Operand) :
    replay architecture state (pushLog tainted operands) = state.pushAll tainted operands := by
  induction operands generalizing state with
  | nil => rfl
  | cons operand rest ih => exact ih { state with stack := state.stack.push tainted operand }

theorem map_snd_pop? (architecture : Architecture) (state : State) (instruction : Instruction) :
    (pop? architecture state instruction).map Prod.snd =
      (popChanges? architecture state instruction).map (replay architecture state) := by
  simp only [pop?, popChanges?]
  cases stackOperandsImplied instruction (rowOperands architecture (·.writes) instruction) with
  | true => simp [replay_popLog]
  | false =>
      cases instruction.destination.names with
      | nil =>
          cases instruction.destinationPointer.isEmpty <;>
            cases architecture.allowsMemoryStackOperands <;> rfl
      | cons operand others =>
          cases others with
          | nil => exact congrArg some (replay_popLog architecture state [operand]).symm
          | cons =>
              cases instruction.destinationPointer.isEmpty with
              | false => cases architecture.allowsMemoryStackOperands <;> rfl
              | true =>
                  cases architecture.allowsMultipleStackOperands with
                  | true => simp [Function.comp_def, replay_popLog]
                  | false => rfl

theorem map_snd_push? (architecture : Architecture) (tainted : OperandSet) (state : State)
    (instruction : Instruction) :
    (push? architecture tainted state instruction).map Prod.snd =
      (pushChanges? architecture tainted instruction).map (replay architecture state) := by
  simp only [push?, pushChanges?]
  cases stackOperandsImplied instruction (rowOperands architecture (·.reads) instruction) with
  | true => simp [replay_pushLog]
  | false =>
      cases instruction.source.names with
      | nil => rfl
      | cons operand others =>
          cases others with
          | nil => rfl
          | cons =>
              cases architecture.allowsMemoryStackOperands with
              | true => rfl
              | false =>
                  cases architecture.allowsMultipleStackOperands with
                  | true => simp [Function.comp_def, replay_pushLog]
                  | false => rfl

theorem map_snd_transition? (architecture : Architecture) (tainted : OperandSet) (state : State)
    (instruction : Instruction) :
    (transition? architecture tainted state instruction).map Prod.snd =
      (changes? architecture tainted state instruction).map (replay architecture state) := by
  unfold transition? changes?
  cases instruction.kind with
  | stackPop => exact map_snd_pop? architecture state instruction
  | stackPush => exact map_snd_push? architecture tainted state instruction
  | dataExchange => simp [exchange, replay_append, replay_writeLog]
  | unpredictable =>
      cases carried : instruction.source.intersects tainted with
      | true => simp [possibleFlow, carried, replay_writeLog]
      | false => simp [possibleFlow, carried, replay]
  | _ => simp [flow, replay_writeLog]

theorem toState_outcome_walk (architecture : Architecture) (index : Nat) (state : State)
    (block : List Instruction) :
    (walk architecture index state block).outcome.toState =
      replay architecture state (walkLog architecture state block) := by
  induction block generalizing index state with
  | nil => rfl
  | cons instruction rest ih =>
      simp only [walk, walkLog]
      split
      · rfl
      · split
        · exact ih (index + 1) state
        · have agreed := map_snd_transition? architecture (state.expanded architecture) state
            (recordInputs (state.expanded architecture) instruction)
          cases stepped : transition? architecture (state.expanded architecture) state
              (recordInputs (state.expanded architecture) instruction) with
          | none =>
              rw [stepped, Option.map_none] at agreed
              rw [Option.map_eq_none_iff.mp agreed.symm]
              rfl
          | some pair =>
              obtain ⟨changed, next⟩ := pair
              rw [stepped, Option.map_some] at agreed
              obtain ⟨changes, logged, reached⟩ := Option.map_eq_some_iff.mp agreed.symm
              rw [logged]
              simp only [replay_append]
              rw [reached]
              exact ih (index + 1) next

end FaultTriage.Taint
