import FaultTriage.OperandSet
import Mathlib.Order.BooleanAlgebra.Set
import Mathlib.Logic.Function.Basic

/-!
# Operand sets after any operations

Whatever operations have built it, an operand set lists the members of one mathematical set in the
order of operands.  Its answers are those of that set, and two operand sets are equal if they stand
for the same one.
-/

set_option autoImplicit false

namespace FaultTriage

namespace OperandSet

inductive Operation where
  | insert (target : Nat) (name : Operand)
  | remove (target : Nat) (name : Operand)
  | extend (target : Nat) (names : List Operand)
  | union (target other : Nat)
  | clear (target : Nat)

namespace Operation

def target : Operation → Nat
  | insert target _ | remove target _ | extend target _ | union target _ | clear target => target

def result (sets : Nat → OperandSet) : Operation → OperandSet
  | insert target name => ((sets target).insertNew name).2
  | remove target name => ((sets target).eraseFound name).2
  | extend target names => (sets target).insertAll names
  | union target other => (sets target).union (sets other)
  | clear _ => ∅

/-- The set that an operation denotes; the empty name is no operand. -/
def denoted (sets : Nat → Set Operand) : Operation → Set Operand
  | insert target name => sets target ∪ {member | member = name ∧ member ≠ ""}
  | remove target name => sets target \ {name}
  | extend target names => sets target ∪ {member | member ∈ names ∧ member ≠ ""}
  | union target other => sets target ∪ sets other
  | clear _ => ∅

end Operation

def perform (sets : Nat → OperandSet) (operation : Operation) : Nat → OperandSet :=
  Function.update sets operation.target (operation.result sets)

def denote (sets : Nat → Set Operand) (operation : Operation) : Nat → Set Operand :=
  Function.update sets operation.target (operation.denoted sets)

def after (operations : List Operation) : Nat → OperandSet :=
  operations.foldl perform fun _ => ∅

def denotedBy (operations : List Operation) : Nat → Set Operand :=
  operations.foldl denote fun _ => ∅

/-! ## Members -/

theorem snd_insertNew (set : OperandSet) (name : Operand) :
    (set.insertNew name).2 = set.insert name := by
  rw [insertNew]
  by_cases blank : name = ""
  · simp [blank, insert]
  · by_cases present : set.lookup name = true
    · simp [present, insert_eq_self ((lookup_iff set name).mp present)]
    · simp [present, blank]

theorem fst_insertNew_iff (set : OperandSet) (name : Operand) :
    (set.insertNew name).1 = true ↔ name ≠ "" ∧ name ∉ set := by
  rw [insertNew, ← lookup_iff]
  by_cases blank : name = ""
  · simp [blank]
  · by_cases present : set.lookup name = true
    · simp [present]
    · simp [present, blank]

theorem fst_eraseFound_iff (set : OperandSet) (name : Operand) :
    (set.eraseFound name).1 = true ↔ name ∈ set := by
  have same : set.size = (set.erase name).size ↔ name ∉ set := by
    rw [size, size, eq_comm]
    simp only [erase, List.length_filter_eq_length_iff]
    constructor
    · intro kept member
      simpa using kept name member
    · intro absent other member
      have different : other ≠ name := fun equal => absent (equal ▸ member)
      simpa using different
  simp only [eraseFound, bne_iff_ne, ne_eq, same, not_not]

def StandsFor (sets : Nat → OperandSet) (denoted : Nat → Set Operand) : Prop :=
  ∀ index name, name ∈ sets index ↔ name ∈ denoted index

theorem StandsFor.result {sets : Nat → OperandSet} {denoted : Nat → Set Operand}
    (standsFor : StandsFor sets denoted) (operation : Operation) (name : Operand) :
    name ∈ operation.result sets ↔ name ∈ operation.denoted denoted := by
  cases operation with
  | insert target added =>
      rw [Operation.result, Operation.denoted, snd_insertNew, mem_insert, standsFor target,
        Set.mem_union, Set.mem_ofPred_eq, or_comm]
      refine or_congr_right (and_congr_right ?_)
      intro same
      rw [same]
  | remove target removed =>
      have remaining := mem_erase (sets target) removed name
      rw [standsFor target] at remaining
      exact remaining
  | extend target names =>
      rw [Operation.result, Operation.denoted, mem_insertAll, standsFor target, Set.mem_union,
        Set.mem_ofPred_eq, or_comm]
  | union target other =>
      rw [Operation.result, Operation.denoted, mem_union, standsFor target, standsFor other,
        Set.mem_union]
  | clear target => simp [Operation.result, Operation.denoted]

theorem StandsFor.perform {sets : Nat → OperandSet} {denoted : Nat → Set Operand}
    (standsFor : StandsFor sets denoted) (operation : Operation) :
    StandsFor (perform sets operation) (denote denoted operation) := by
  intro index name
  rw [OperandSet.perform, denote]
  by_cases changed : index = operation.target
  · rw [changed, Function.update_self, Function.update_self]
    exact standsFor.result operation name
  · rw [Function.update_of_ne changed, Function.update_of_ne changed]
    exact standsFor index name

theorem StandsFor.foldl {sets : Nat → OperandSet} {denoted : Nat → Set Operand}
    (standsFor : StandsFor sets denoted) (operations : List Operation) :
    StandsFor (operations.foldl OperandSet.perform sets) (operations.foldl denote denoted) := by
  induction operations generalizing sets denoted with
  | nil => exact standsFor
  | cons operation rest ih => exact ih (standsFor.perform operation)

theorem standsFor_after (operations : List Operation) :
    StandsFor (after operations) (denotedBy operations) := by
  have start : StandsFor (fun _ => ∅) fun _ => ∅ := by
    intro index name
    simp
  exact start.foldl operations

/-! ## Answers -/

theorem denotedBy_concat (operations : List Operation) (operation : Operation) :
    denotedBy (operations ++ [operation]) operation.target =
      operation.denoted (denotedBy operations) := by
  rw [denotedBy, List.foldl_append]
  exact Function.update_self ..

theorem union_named_eq_self_iff {set : Set Operand} {name : Operand} :
    set ∪ {member | member = name ∧ member ≠ ""} = set ↔ name = "" ∨ name ∈ set := by
  rw [Set.union_eq_left]
  constructor
  · intro contained
    by_cases blank : name = ""
    · exact .inl blank
    · exact .inr (contained ⟨rfl, blank⟩)
  · intro known member added
    obtain ⟨rfl, named⟩ := added
    exact known.resolve_left named

theorem sdiff_named_eq_self_iff {set : Set Operand} {name : Operand} :
    set \ {name} = set ↔ name ∉ set := by
  rw [sdiff_eq_left, Set.disjoint_singleton_right]

theorem insertNew_after_iff (operations : List Operation) (index : Nat) (name : Operand) :
    ((after operations index).insertNew name).1 = true ↔
      denotedBy (operations ++ [.insert index name]) index ≠ denotedBy operations index := by
  have changed : denotedBy (operations ++ [.insert index name]) index =
      denotedBy operations index ∪ {member | member = name ∧ member ≠ ""} :=
    denotedBy_concat operations (.insert index name)
  rw [fst_insertNew_iff, standsFor_after, changed]
  exact not_or.symm.trans (not_congr union_named_eq_self_iff).symm

theorem eraseFound_after_iff (operations : List Operation) (index : Nat) (name : Operand) :
    ((after operations index).eraseFound name).1 = true ↔
      denotedBy (operations ++ [.remove index name]) index ≠ denotedBy operations index := by
  have changed : denotedBy (operations ++ [.remove index name]) index =
      denotedBy operations index \ {name} :=
    denotedBy_concat operations (.remove index name)
  rw [fst_eraseFound_iff, standsFor_after, changed]
  exact not_not.symm.trans (not_congr sdiff_named_eq_self_iff).symm

theorem after_eq_iff (operations others : List Operation) (index other : Nat) :
    after operations index = after others other ↔
      denotedBy operations index = denotedBy others other := by
  rw [Set.ext_iff]
  simp only [← standsFor_after operations index, ← standsFor_after others other]
  constructor
  · intro same name
    rw [same]
  · exact ext

theorem names_eq_iff (left right : OperandSet) : left.names = right.names ↔ left = right := by
  constructor
  · intro same
    apply ext
    intro name
    rw [← mem_names, same, mem_names]
  · intro same
    rw [same]

theorem nodup_names (set : OperandSet) : set.names.Nodup := by
  refine set.ordered.imp ?_
  intro name other before same
  exact Operand.not_before_self name (same ▸ before)

/--
After any operations on sets that were empty, each set lists every member of the set that the
operations denote once and in order, and never the empty name.  Both ways of asking for a member
agree with it, insertions and removals tell whether it changes, and two of these sets are equal, list
the same names or share a member exactly if the denoted ones are equal or share one.
-/
theorem canonical_after (operations : List Operation) (index : Nat) :
    ((after operations index).names.Pairwise Operand.Before ∧
      (after operations index).names.Nodup ∧ "" ∉ (after operations index).names) ∧
    (∀ name, (name ∈ (after operations index).names ↔ name ∈ denotedBy operations index) ∧
      ((after operations index).contains name = true ↔ name ∈ denotedBy operations index) ∧
      ((after operations index).lookup name = true ↔ name ∈ denotedBy operations index)) ∧
    (∀ name, (((after operations index).insertNew name).1 = true ↔
        denotedBy (operations ++ [.insert index name]) index ≠ denotedBy operations index) ∧
      (((after operations index).eraseFound name).1 = true ↔
        denotedBy (operations ++ [.remove index name]) index ≠ denotedBy operations index)) ∧
    ∀ (others : List Operation) (other : Nat),
      ((after operations index == after others other) = true ↔
        denotedBy operations index = denotedBy others other) ∧
      ((after operations index).names = (after others other).names ↔
        denotedBy operations index = denotedBy others other) ∧
      ((after operations index).intersects (after others other) = true ↔
        (denotedBy operations index ∩ denotedBy others other).Nonempty) := by
  have members := standsFor_after operations index
  refine ⟨?listed, ?asked, ?told, ?compared⟩
  case listed =>
    exact ⟨(after operations index).ordered, nodup_names _, (after operations index).named⟩
  case asked =>
    intro name
    rw [mem_names, contains_iff, lookup_iff, members name]
    exact ⟨Iff.rfl, Iff.rfl, Iff.rfl⟩
  case told =>
    intro name
    exact ⟨insertNew_after_iff operations index name, eraseFound_after_iff operations index name⟩
  case compared =>
    intro others other
    rw [beq_iff_eq, names_eq_iff, after_eq_iff, intersects_iff]
    refine ⟨Iff.rfl, Iff.rfl, ?_⟩
    simp only [members, standsFor_after others other]
    exact Iff.rfl

end OperandSet

end FaultTriage
