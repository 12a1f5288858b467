import FaultTriage.Taint.State
import FaultTriage.Proofs.Register.Alias

/-!
# Laws of taint states

What a write does to the tainted, the clean and the expanded operands.  A write that carries taint
only takes names out of the clean set, a clean write only takes names out of the tainted set, and
either way the written name ends up on one side only.
-/

set_option autoImplicit false

namespace FaultTriage.Taint

open Register

def State.Consistent (state : State) : Prop :=
  ∀ name, name ∈ state.taint → name ∉ state.clear

theorem named_of_mem {set : OperandSet} {operand : Operand} (member : operand ∈ set) :
    operand ≠ "" :=
  fun blank => set.named (blank ▸ member)

namespace State

def side (state : State) (tainted : Bool) : OperandSet :=
  if tainted then state.taint else state.clear

/-! ## Members after a write -/

theorem mem_side_assign (architecture : Architecture) (state : State) (tainted : Bool)
    (operand other : Operand) :
    other ∈ (state.assign architecture tainted operand).side tainted ↔
      (other = operand ∧ operand ≠ "") ∨ other ∈ state.side tainted := by
  cases tainted <;> simp [assign, side]

theorem mem_side_not_assign (architecture : Architecture) (state : State) (tainted : Bool)
    (operand other : Operand) :
    other ∈ (state.assign architecture tainted operand).side (!tainted) ↔
      other ∈ state.side (!tainted) ∧ other ∉ overwritten architecture operand := by
  cases tainted <;> simp [assign, side]

@[simp] theorem stack_assign (architecture : Architecture) (tainted : Bool) (state : State)
    (operand : Operand) : (state.assign architecture tainted operand).stack = state.stack := by
  cases tainted <;> rfl

/-! ## Members after several writes -/

theorem assignAll_cons (architecture : Architecture) (state : State) (tainted : Bool)
    (operand : Operand) (rest : List Operand) :
    state.assignAll architecture tainted (operand :: rest) =
      (state.assign architecture tainted operand).assignAll architecture tainted rest :=
  rfl

theorem mem_side_assignAll (architecture : Architecture) (state : State) (tainted : Bool)
    (operands : List Operand) (other : Operand) :
    other ∈ (state.assignAll architecture tainted operands).side tainted ↔
      (other ∈ operands ∧ other ≠ "") ∨ other ∈ state.side tainted := by
  induction operands generalizing state with
  | nil => simp [assignAll]
  | cons operand rest ih =>
      rw [assignAll_cons, ih, mem_side_assign, List.mem_cons]
      grind

theorem mem_side_not_assignAll (architecture : Architecture) (state : State) (tainted : Bool)
    (operands : List Operand) (other : Operand) :
    other ∈ (state.assignAll architecture tainted operands).side (!tainted) ↔
      other ∈ state.side (!tainted) ∧
        ∀ operand ∈ operands, other ∉ overwritten architecture operand := by
  induction operands generalizing state with
  | nil => simp [assignAll]
  | cons operand rest ih =>
      rw [assignAll_cons, ih, mem_side_not_assign, List.forall_mem_cons, and_assoc]

theorem mem_taint_assignAll_true (architecture : Architecture) (state : State)
    (operands : List Operand) (other : Operand) :
    other ∈ (state.assignAll architecture true operands).taint ↔
      (other ∈ operands ∧ other ≠ "") ∨ other ∈ state.taint :=
  mem_side_assignAll architecture state true operands other

theorem mem_taint_assignAll_false (architecture : Architecture) (state : State)
    (operands : List Operand) (other : Operand) :
    other ∈ (state.assignAll architecture false operands).taint ↔
      other ∈ state.taint ∧ ∀ operand ∈ operands, other ∉ overwritten architecture operand :=
  mem_side_not_assignAll architecture state false operands other

theorem mem_clear_assignAll_true (architecture : Architecture) (state : State)
    (operands : List Operand) (other : Operand) :
    other ∈ (state.assignAll architecture true operands).clear ↔
      other ∈ state.clear ∧ ∀ operand ∈ operands, other ∉ overwritten architecture operand :=
  mem_side_not_assignAll architecture state true operands other

theorem mem_clear_assignAll_false (architecture : Architecture) (state : State)
    (operands : List Operand) (other : Operand) :
    other ∈ (state.assignAll architecture false operands).clear ↔
      (other ∈ operands ∧ other ≠ "") ∨ other ∈ state.clear :=
  mem_side_assignAll architecture state false operands other

@[simp] theorem stack_assignAll (architecture : Architecture) (tainted : Bool) (state : State)
    (operands : List Operand) :
    (state.assignAll architecture tainted operands).stack = state.stack := by
  induction operands generalizing state with
  | nil => rfl
  | cons operand rest ih => rw [assignAll_cons, ih, stack_assign]

/-! ## Popped values -/

@[simp] theorem stack_popInto (architecture : Architecture) (state : State) (operand : Operand) :
    (state.popInto architecture operand).stack = state.stack.pop.2 :=
  stack_assign architecture _ _ operand

theorem popAll_cons (architecture : Architecture) (state : State) (operand : Operand)
    (rest : List Operand) :
    state.popAll architecture (operand :: rest) =
      (state.popInto architecture operand).popAll architecture rest :=
  rfl

/-! ## The two sides stay apart -/

theorem consistent_seeded (seeds : OperandSet) : (seeded seeds).Consistent :=
  fun name _ => OperandSet.not_mem_empty name

theorem consistent_iff_side {state : State} (tainted : Bool) :
    state.Consistent ↔ ∀ name, name ∈ state.side tainted → name ∉ state.side (!tainted) := by
  cases tainted with
  | true => exact Iff.rfl
  | false => exact forall_congr' fun name => imp_not_comm

theorem Consistent.assign {state : State} (consistent : state.Consistent)
    (architecture : Architecture) (tainted : Bool) (operand : Operand) :
    (state.assign architecture tainted operand).Consistent := by
  rw [consistent_iff_side tainted] at consistent ⊢
  intro name
  rw [mem_side_assign, mem_side_not_assign]
  rintro (⟨rfl, _⟩ | member) ⟨opposite, uncovered⟩
  · exact uncovered (mem_overwritten_self architecture name)
  · exact consistent name member opposite

theorem Consistent.assignAll {state : State} (consistent : state.Consistent)
    (architecture : Architecture) (tainted : Bool) (operands : List Operand) :
    (state.assignAll architecture tainted operands).Consistent := by
  induction operands generalizing state with
  | nil => exact consistent
  | cons operand rest ih => exact ih (consistent.assign architecture tainted operand)

/-! ## Expanded operands -/

theorem mem_expanded (architecture : Architecture) (state : State) (name : Operand) :
    name ∈ state.expanded architecture ↔
      ((∃ source, source ∈ state.taint ∧ name ∈ marked architecture source) ∧
        name ∉ state.clear ∧ name ≠ "") ∨
      (state.stack.hasTainted = true ∧ name = stackContents) := by
  have registers : name ∈ OperandSet.ofList (state.suspects architecture) ↔
      (∃ source, source ∈ state.taint ∧ name ∈ marked architecture source) ∧
        name ∉ state.clear ∧ name ≠ "" := by
    simp only [suspects, OperandSet.mem_ofList, List.mem_filter, List.mem_flatMap,
      OperandSet.mem_names, Bool.not_eq_eq_eq_not, Bool.not_true, ← Bool.not_eq_true,
      OperandSet.contains_iff, and_assoc]
  have sentinel : stackContents ≠ "" := by decide
  unfold expanded
  split
  · rename_i pushed
    rw [OperandSet.mem_insert, registers]
    simp [pushed, sentinel, or_comm]
  · rename_i untainted
    rw [registers]
    simp [untainted]

/-- A written operand counts as tainted afterwards exactly if the value written was. -/
theorem mem_expanded_assign_self (architecture : Architecture) (state : State) (tainted : Bool)
    {operand : Operand} (named : operand ≠ "") (register : operand ≠ stackContents) :
    operand ∈ (state.assign architecture tainted operand).expanded architecture ↔
      tainted = true := by
  rw [mem_expanded]
  cases tainted with
  | true =>
      refine iff_of_true (.inl ⟨⟨operand, ?_, mem_marked_self architecture operand⟩, ?_, named⟩) rfl
      · exact (mem_side_assign architecture state true operand operand).mpr (.inl ⟨rfl, named⟩)
      · intro clean
        exact ((mem_side_not_assign architecture state true operand operand).mp clean).2
          (mem_overwritten_self architecture operand)
  | false =>
      refine iff_of_false ?_ Bool.false_ne_true
      rintro (⟨_, unclean, _⟩ | ⟨_, sentinel⟩)
      · exact unclean ((mem_side_assign architecture state false operand operand).mpr
          (.inl ⟨rfl, named⟩))
      · exact register sentinel

theorem exhausted_iff {state : State} :
    state.exhausted = true ↔
      (∀ name, name ∉ state.taint) ∧ state.stack.hasTainted = false := by
  simp [exhausted, OperandSet.isEmpty_iff]

end State

end FaultTriage.Taint
