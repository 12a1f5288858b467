import FaultTriage.Proofs.Taint.Changes

/-!
# Tainted and clean operands stay apart

No elementary change of a taint state makes an operand tainted and clean at once, so no state that a
pass goes through does.  The operands that a pass writes always have names, whether they come from
the operand sets of an instruction or from its table row, and therefore a written operand is always
found on the side of the value that was written to it.
-/

set_option autoImplicit false

namespace FaultTriage.Taint

open Register

/-! ## One change and a whole log -/

theorem State.Consistent.apply {state : State} (consistent : state.Consistent)
    (architecture : Architecture) (change : Change) :
    (change.apply architecture state).Consistent := by
  cases change with
  | write operand tainted => exact consistent.assign architecture tainted operand
  | push tainted => exact consistent
  | drop => exact consistent

theorem State.Consistent.replay {state : State} (consistent : state.Consistent)
    (architecture : Architecture) (changes : List Change) :
    (replay architecture state changes).Consistent := by
  induction changes generalizing state with
  | nil => exact consistent
  | cons change rest ih => exact ih (consistent.apply architecture change)

/-! ## Written operands have names -/

def Change.Named : Change → Prop
  | .write operand _ => operand ≠ ""
  | .push _ => True
  | .drop => True

private theorem named_rowOperands (architecture : Architecture) (instruction : Instruction) :
    ∀ operand ∈ rowOperands architecture (·.writes) instruction, operand ≠ "" := by
  have checked : ∀ architecture ∈ Architecture.all, ∀ row ∈ Table.rows architecture,
      ∀ operand ∈ row.writes, operand ≠ "" := by decide +kernel
  have listed : architecture ∈ Architecture.all := by cases architecture <;> decide
  intro operand member
  unfold rowOperands at member
  cases found : Table.lookup? architecture instruction.rootMnemonic with
  | none =>
      rw [found] at member
      cases member
  | some row =>
      rw [found] at member
      exact checked architecture listed row (List.mem_of_find?_eq_some found) operand member

theorem mem_of_mem_arrange {order : List Operand} {set : OperandSet} {operand : Operand}
    (member : operand ∈ arrange order set) : operand ∈ set := by
  rcases List.mem_append.mp member with first | second
  · exact (OperandSet.contains_iff set operand).mp (List.mem_filter.mp first).2
  · exact (List.mem_filter.mp second).1

theorem mem_of_inPopOrder? {architecture : Architecture} {set : OperandSet}
    {operands : List Operand} (ordered : inPopOrder? architecture set = some operands)
    {operand : Operand} (member : operand ∈ operands) : operand ∈ set := by
  cases architecture with
  | x86 => cases ordered
  | x64 => cases ordered
  | arm =>
      cases ordered
      exact mem_of_mem_arrange member

private theorem named_writeLog {tainted : Bool} {operands : List Operand}
    (named : ∀ operand ∈ operands, operand ≠ "") :
    ∀ change ∈ writeLog tainted operands, change.Named := by
  intro change member
  obtain ⟨operand, listed, rfl⟩ := List.mem_map.mp member
  exact named operand listed

private theorem named_popLog {operands : List Operand} (named : ∀ operand ∈ operands, operand ≠ "")
    (stack : VirtualStack) : ∀ change ∈ popLog stack operands, change.Named := by
  induction operands generalizing stack with
  | nil => simp [popLog]
  | cons operand rest ih =>
      intro change member
      simp only [popLog, List.mem_cons] at member
      rcases member with rfl | rfl | later
      · trivial
      · exact named operand List.mem_cons_self
      · exact ih (fun other listed => named other (List.mem_cons_of_mem _ listed)) _ change later

private theorem named_popChanges? {architecture : Architecture} {state : State}
    {instruction : Instruction} {changes : List Change}
    (logged : popChanges? architecture state instruction = some changes) :
    ∀ change ∈ changes, change.Named := by
  have dropped : ∀ change ∈ [Change.drop], change.Named := by simp [Change.Named]
  simp only [popChanges?] at logged
  split at logged
  · cases logged
    exact named_popLog (named_rowOperands architecture instruction) state.stack
  · split at logged
    · rename_i operand single
      cases logged
      have written : ∀ other ∈ [operand], other ∈ instruction.destination := by
        intro other member
        rwa [← OperandSet.mem_names, single]
      exact named_popLog (fun other member => named_of_mem (written other member)) state.stack
    · split at logged
      · split at logged
        · cases logged
          exact dropped
        · cases logged
      · split at logged
        · cases logged
          exact dropped
        · split at logged
          · obtain ⟨operands, ordered, rfl⟩ := Option.map_eq_some_iff.mp logged
            exact named_popLog
              (fun operand member => named_of_mem (mem_of_inPopOrder? ordered member)) state.stack
          · cases logged

private theorem named_pushLog (tainted : OperandSet) (operands : List Operand) :
    ∀ change ∈ pushLog tainted operands, change.Named := by
  intro change member
  obtain ⟨operand, _, rfl⟩ := List.mem_map.mp member
  trivial

private theorem named_pushChanges? {architecture : Architecture} {tainted : OperandSet}
    {instruction : Instruction} {changes : List Change}
    (logged : pushChanges? architecture tainted instruction = some changes) :
    ∀ change ∈ changes, change.Named := by
  have pushed : ∀ value, ∀ change ∈ [Change.push value], change.Named := by simp [Change.Named]
  simp only [pushChanges?] at logged
  split at logged
  · cases logged
    exact named_pushLog tainted _
  · split at logged
    · cases logged
      exact pushed false
    · cases logged
      exact named_pushLog tainted _
    · split at logged
      · cases logged
        exact pushed _
      · split at logged
        · obtain ⟨operands, _, rfl⟩ := Option.map_eq_some_iff.mp logged
          exact named_pushLog tainted operands
        · cases logged

theorem named_changes? {architecture : Architecture} {tainted : OperandSet} {state : State}
    {instruction : Instruction} {changes : List Change}
    (logged : changes? architecture tainted state instruction = some changes) :
    ∀ change ∈ changes, change.Named := by
  have written : ∀ (value : Bool) (set : OperandSet), ∀ change ∈ writeLog value set.names,
      change.Named := fun _ _ => named_writeLog fun _ member => named_of_mem member
  unfold changes? at logged
  split at logged
  · exact named_popChanges? logged
  · exact named_pushChanges? logged
  · cases logged
    intro change member
    rcases List.mem_append.mp member with first | second
    · exact written _ _ change first
    · exact written _ _ change second
  · split at logged
    · cases logged
      exact written _ _
    · cases logged
      simp
  · cases logged
    exact written _ _

theorem named_walkLog (architecture : Architecture) (state : State) (block : List Instruction) :
    ∀ change ∈ walkLog architecture state block, change.Named := by
  induction block generalizing state with
  | nil => simp [walkLog]
  | cons instruction rest ih =>
      simp only [walkLog]
      split
      · simp
      · split
        · exact ih state
        · split
          · simp
          · rename_i changes logged
            intro change member
            rcases List.mem_append.mp member with here | later
            · exact named_changes? logged change here
            · exact ih _ change later

/-! ## Every state of a pass -/

/--
The log of a pass leads from the seeds to the outcome.  In every state on the way, the outcome
included, no operand is tainted and clean; and right after a write other than to the stack operand,
the written operand counts as tainted exactly if the value was.
-/
theorem consistent_throughout_pass (architecture : Architecture) (taintPointers : Bool)
    (block : List Instruction) :
    (propagate architecture taintPointers block).outcome.toState =
        replay architecture (.seeded (seeds taintPointers block))
          (passLog architecture taintPointers block) ∧
      (∀ past future, passLog architecture taintPointers block = past ++ future → ∀ name,
        name ∈ (replay architecture (.seeded (seeds taintPointers block)) past).taint →
        name ∉ (replay architecture (.seeded (seeds taintPointers block)) past).clear) ∧
      (∀ name, name ∈ (propagate architecture taintPointers block).outcome.taint →
        name ∉ (propagate architecture taintPointers block).outcome.clear) ∧
      (∀ past operand tainted future,
        passLog architecture taintPointers block = past ++ .write operand tainted :: future →
        operand ≠ stackContents →
        (operand ∈ (replay architecture (.seeded (seeds taintPointers block))
            (past ++ [.write operand tainted])).expanded architecture ↔ tainted = true)) := by
  have start := State.consistent_seeded (seeds taintPointers block)
  have arrived : (propagate architecture taintPointers block).outcome.toState =
      replay architecture (.seeded (seeds taintPointers block))
        (passLog architecture taintPointers block) :=
    toState_outcome_walk architecture 0 _ block
  refine ⟨arrived, fun past _ _ => start.replay architecture past, ?_, ?_⟩
  · rw [arrived]
    exact start.replay architecture _
  · intro past operand tainted future logged register
    have named : operand ≠ "" := by
      have member : Change.write operand tainted ∈ passLog architecture taintPointers block := by
        simp [logged]
      exact named_walkLog architecture _ block _ member
    rw [replay_append]
    exact State.mem_expanded_assign_self architecture _ tainted named register

def copyThenClearByte : List Instruction :=
  [.bare .x86 false .unknown "mov".toList "ecx,eax".toList,
    .bare .x86 false .unknown "mov".toList "cl,0".toList]

theorem copyThenClearByte_clears_byte_only :
    passLog .x86 false copyThenClearByte = [.write "ecx" true, .write "cl" false] ∧
      "ecx" ∉ (propagate .x86 false copyThenClearByte).outcome.clear ∧
      "cl" ∉ (replay .x86 (.seeded (seeds false copyThenClearByte))
        [.write "ecx" true, .write "cl" false]).expanded .x86 := by
  have logged : passLog .x86 false copyThenClearByte =
      [.write "ecx" true] ++ .write "cl" false :: [] := by decide +kernel
  obtain ⟨_, _, apart, written⟩ := consistent_throughout_pass .x86 false copyThenClearByte
  refine ⟨logged, apart "ecx" (by decide +kernel), fun tainted => ?_⟩
  have exactly := written [.write "ecx" true] "cl" false [] logged (by decide)
  exact Bool.false_ne_true (exactly.mp tainted)

end FaultTriage.Taint
