import FaultTriage.Proofs.Taint.Commute

/-!
# Exchanges

An exchange writes its source and its destination one after the other, each with the taint that the
other one had before.  Between operands that do not overlap neither write disturbs the other,
however wider and narrower views of the two have been noted, so their taint changes places.
-/

set_option autoImplicit false

namespace FaultTriage.Taint

open Register

structure Exchanges (instruction : Instruction) (source destination : Operand) : Prop where
  kind : instruction.kind = .dataExchange
  source : instruction.source.names = [source]
  destination : instruction.destination.names = [destination]

structure Swapped (architecture : Architecture) (left right : Operand) (before after : State) :
    Prop where
  toLeft : left ∈ after.expanded architecture ↔ right ∈ before.expanded architecture
  toRight : right ∈ after.expanded architecture ↔ left ∈ before.expanded architecture

section

variable {architecture : Architecture} {left right : Operand}

theorem State.swapped_assign_assign (state : State) (apart : ¬ Overlap architecture left right)
    (leftNamed : left ≠ "" ∧ left ≠ stackContents) (rightNamed : right ≠ "" ∧ right ≠ stackContents)
    {leftTainted rightTainted : Bool}
    (leftTaint : leftTainted = true ↔ left ∈ state.expanded architecture)
    (rightTaint : rightTainted = true ↔ right ∈ state.expanded architecture) :
    Swapped architecture left right state
      ((state.assign architecture rightTainted left).assign architecture leftTainted right) := by
  have unmarked : left ∉ marked architecture right := fun view => apart (.inr (.inl view))
  constructor
  · -- The second write does not reach the operand of the first one.
    rw [State.mem_expanded_assign_of_apart _ _ unmarked,
      State.mem_expanded_assign_self _ _ _ leftNamed.1 leftNamed.2, rightTaint]
  · rw [State.mem_expanded_assign_self _ _ _ rightNamed.1 rightNamed.2, leftTaint]

theorem intersects_of_names_eq {set tainted : OperandSet} {name : Operand}
    (single : set.names = [name]) : set.intersects tainted = true ↔ name ∈ tainted := by
  simp [OperandSet.intersects, single]

theorem Exchanges.named {instruction : Instruction}
    (exchanges : Exchanges instruction left right) : left ≠ "" ∧ right ≠ "" := by
  have leftMember : left ∈ instruction.source := by
    rw [← OperandSet.mem_names, exchanges.source]
    exact List.mem_cons_self
  have rightMember : right ∈ instruction.destination := by
    rw [← OperandSet.mem_names, exchanges.destination]
    exact List.mem_cons_self
  exact ⟨named_of_mem leftMember, named_of_mem rightMember⟩

theorem Exchanges.exists_step {instruction : Instruction}
    (exchanges : Exchanges instruction left right) (apart : ¬ Overlap architecture left right)
    (leftRegister : left ≠ stackContents) (rightRegister : right ≠ stackContents) (state : State) :
    ∃ after next, step? architecture state instruction = some (after, next) ∧
      Exchanges after left right ∧ Swapped architecture left right state next := by
  have decided : action? architecture instruction = some .exchange := by
    rw [action?, exchanges.kind]
  obtain ⟨leftNamed, rightNamed⟩ := exchanges.named
  refine ⟨_, _, step?_of_action state decided,
    ⟨exchanges.kind, exchanges.source, exchanges.destination⟩, ?_⟩
  simp only [Action.stateAfter, exchange, exchanges.source, exchanges.destination]
  exact state.swapped_assign_assign apart ⟨leftNamed, leftRegister⟩ ⟨rightNamed, rightRegister⟩
    (intersects_of_names_eq exchanges.source) (intersects_of_names_eq exchanges.destination)

theorem Swapped.restored {before between after : State}
    (first : Swapped architecture left right before between)
    (second : Swapped architecture left right between after) :
    (left ∈ after.expanded architecture ↔ left ∈ before.expanded architecture) ∧
      (right ∈ after.expanded architecture ↔ right ∈ before.expanded architecture) :=
  ⟨second.toLeft.trans first.toRight, second.toRight.trans first.toLeft⟩

end

/--
An exchange of operands that do not overlap swaps their taint in every state, and the same exchange
once more restores the taint of both.
-/
theorem exchange_swaps_taint (architecture : Architecture) (state : State)
    (instruction : Instruction) (source destination : Operand)
    (exchanges : Exchanges instruction source destination)
    (sourceRegister : source ≠ stackContents) (destinationRegister : destination ≠ stackContents)
    (apart : ¬ Overlap architecture source destination) :
    ∃ once between, step? architecture state instruction = some (once, between) ∧
      Exchanges once source destination ∧
      (source ∈ between.expanded architecture ↔ destination ∈ state.expanded architecture) ∧
      (destination ∈ between.expanded architecture ↔ source ∈ state.expanded architecture) ∧
      ∀ again, Exchanges again source destination →
        ∃ twice final, step? architecture between again = some (twice, final) ∧
          (source ∈ final.expanded architecture ↔ source ∈ state.expanded architecture) ∧
          (destination ∈ final.expanded architecture ↔
            destination ∈ state.expanded architecture) := by
  obtain ⟨once, between, stepped, exchangesOnce, swapped⟩ :=
    exchanges.exists_step apart sourceRegister destinationRegister state
  refine ⟨once, between, stepped, exchangesOnce, swapped.toLeft, swapped.toRight, ?_⟩
  intro again exchangesAgain
  obtain ⟨twice, final, steppedAgain, _, swappedAgain⟩ :=
    exchangesAgain.exists_step apart sourceRegister destinationRegister between
  exact ⟨twice, final, steppedAgain, swapped.restored swappedAgain⟩

/-- `dl` is tainted as a part of `edx`; the other byte of `dx` has been cleared on its own. -/
def wordWithClearByte : State := ⟨.ofList ["edx"], .ofList ["dh"], .empty⟩

theorem swapBytes_swaps_bytes_of_word :
    ("dl" ∈ wordWithClearByte.expanded .x64 ∧ "dh" ∉ wordWithClearByte.expanded .x64) ∧
      ∃ once between, step? .x64 wordWithClearByte swapBytes = some (once, between) ∧
        "dh" ∈ between.expanded .x64 ∧ "dl" ∉ between.expanded .x64 ∧
        ∃ twice final, step? .x64 between once = some (twice, final) ∧
          "dl" ∈ final.expanded .x64 ∧ "dh" ∉ final.expanded .x64 := by
  have tainted : "dl" ∈ wordWithClearByte.expanded .x64 := by decide +kernel
  have clean : "dh" ∉ wordWithClearByte.expanded .x64 := by decide +kernel
  obtain ⟨once, between, stepped, exchangesOnce, toSource, toDestination, restores⟩ :=
    exchange_swaps_taint .x64 wordWithClearByte swapBytes "dh" "dl"
      ⟨by decide +kernel, by decide +kernel, by decide +kernel⟩ (by decide) (by decide)
      (by decide +kernel)
  obtain ⟨twice, final, steppedAgain, sourceRestored, destinationRestored⟩ :=
    restores once exchangesOnce
  exact ⟨⟨tainted, clean⟩, once, between, stepped, toSource.mpr tainted,
    fun member => clean (toDestination.mp member), twice, final, steppedAgain,
    destinationRestored.mpr tainted, fun member => clean (sourceRestored.mp member)⟩

end FaultTriage.Taint
