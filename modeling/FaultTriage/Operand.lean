import FaultTriage.Text.Bytes

/-!
# Operands

An operand is a unit of data flow known by its name: a register, a logical processor flag, or a
memory expression such as `ebp-8` that is tracked like a register.  Operands are ordered by the
byte length of their names first and bytewise second.
-/

set_option autoImplicit false

namespace FaultTriage

abbrev Operand := String

namespace Operand

def byteCount (operand : Operand) : Nat :=
  (Text.bytes operand).length

/-- The strict order of operands: shorter names first, names of one length bytewise. -/
def Before (left right : Operand) : Prop :=
  left.byteCount < right.byteCount ∨
    (left.byteCount = right.byteCount ∧ Text.bytes left < Text.bytes right)

instance (left right : Operand) : Decidable (Before left right) := by
  unfold Before; infer_instance

def compare (left right : Operand) : Ordering :=
  if Before left right then .lt else if left = right then .eq else .gt

theorem eq_of_bytes_eq {left right : Operand} (same : Text.bytes left = Text.bytes right) :
    left = right := by
  apply String.ext_iff.mpr
  rw [String.toByteArray_inj.mp (ByteArray.ext (Array.toList_inj.mp same))]

theorem not_before_self (operand : Operand) : ¬ Before operand operand := by
  rintro (shorter | ⟨_, smaller⟩)
  · exact Nat.lt_irrefl _ shorter
  · exact List.lt_irrefl _ smaller

theorem before_trans {first second third : Operand} (left : Before first second)
    (right : Before second third) : Before first third := by
  rcases left with shorter | ⟨same, smaller⟩ <;> rcases right with shorter' | ⟨same', smaller'⟩
  · exact .inl (Nat.lt_trans shorter shorter')
  · exact .inl (same' ▸ shorter)
  · exact .inl (same.symm ▸ shorter')
  · exact .inr ⟨same.trans same', List.lt_trans smaller smaller'⟩

theorem before_or_eq_or_before (left right : Operand) :
    Before left right ∨ left = right ∨ Before right left := by
  rcases Nat.lt_trichotomy left.byteCount right.byteCount with shorter | same | longer
  · exact .inl (.inl shorter)
  · by_cases smaller : Text.bytes left < Text.bytes right
    · exact .inl (.inr ⟨same, smaller⟩)
    · by_cases larger : Text.bytes right < Text.bytes left
      · exact .inr (.inr (.inr ⟨same.symm, larger⟩))
      · exact .inr (.inl (eq_of_bytes_eq
          (List.le_antisymm (List.not_lt.mp larger) (List.not_lt.mp smaller))))
  · exact .inr (.inr (.inl longer))

end Operand

end FaultTriage
