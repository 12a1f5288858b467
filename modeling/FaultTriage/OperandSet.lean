import FaultTriage.Operand

/-!
# Operand sets

A set of operands is kept as the list of its members in strictly increasing order, without the
empty name.  The order and the absence of the empty name are part of the type, so a set has one
representation only: sets with the same members are equal and list them alike.
-/

set_option autoImplicit false

namespace FaultTriage

/-- Inserts a name into a strictly increasing list, which stays as it is if the name is there. -/
def insertOrdered (name : Operand) : List Operand → List Operand
  | [] => [name]
  | head :: tail =>
      if name = head then head :: tail
      else if Operand.Before name head then name :: head :: tail
      else head :: insertOrdered name tail

theorem mem_insertOrdered (name other : Operand) (names : List Operand) :
    other ∈ insertOrdered name names ↔ other = name ∨ other ∈ names := by
  induction names with
  | nil => simp [insertOrdered]
  | cons head tail ih =>
      simp only [insertOrdered]
      split
      · rename_i same; subst same; simp
      · split
        · simp
        · simp [ih]; grind

theorem pairwise_insertOrdered (name : Operand) (names : List Operand)
    (ordered : names.Pairwise Operand.Before) :
    (insertOrdered name names).Pairwise Operand.Before := by
  induction names with
  | nil => simp [insertOrdered]
  | cons head tail ih =>
      obtain ⟨first, rest⟩ := List.pairwise_cons.mp ordered
      simp only [insertOrdered]
      split
      · exact ordered
      · rename_i different
        split
        · rename_i before
          refine List.pairwise_cons.mpr ⟨fun other member => ?_, ordered⟩
          rcases List.mem_cons.mp member with rfl | member
          · exact before
          · exact Operand.before_trans before (first other member)
        · rename_i notBefore
          refine List.pairwise_cons.mpr ⟨fun other member => ?_, ih rest⟩
          rcases (mem_insertOrdered name other tail).mp member with rfl | member
          · rcases Operand.before_or_eq_or_before other head with before | same | after
            · exact absurd before notBefore
            · exact absurd same different
            · exact after
          · exact first other member

structure OperandSet where
  names : List Operand
  ordered : names.Pairwise Operand.Before
  named : "" ∉ names
deriving DecidableEq

namespace OperandSet

def empty : OperandSet := ⟨[], List.Pairwise.nil, List.not_mem_nil⟩

instance : EmptyCollection OperandSet := ⟨empty⟩

instance : Inhabited OperandSet := ⟨empty⟩

instance : Membership Operand OperandSet := ⟨fun set name => name ∈ set.names⟩

instance (name : Operand) (set : OperandSet) : Decidable (name ∈ set) :=
  inferInstanceAs (Decidable (name ∈ set.names))

theorem mem_names {name : Operand} {set : OperandSet} : name ∈ set.names ↔ name ∈ set := Iff.rfl

@[simp] theorem not_mem_empty (name : Operand) : name ∉ (∅ : OperandSet) := List.not_mem_nil

@[simp] theorem empty_name_not_mem (set : OperandSet) : "" ∉ set := set.named

def size (set : OperandSet) : Nat := set.names.length

def isEmpty (set : OperandSet) : Bool := set.names.isEmpty

/-- Whether a name is among the members, by comparing it with each of them. -/
def contains (set : OperandSet) (name : Operand) : Bool :=
  set.names.any (· == name)

/-- Looks for a name in an increasing list and stops at the first name that comes after it. -/
def findOrdered (name : Operand) : List Operand → Bool
  | [] => false
  | head :: tail =>
      match Operand.compare name head with
      | .lt => false
      | .eq => true
      | .gt => findOrdered name tail

/-- Whether an operand is a member, by looking it up in the order of the set. -/
def lookup (set : OperandSet) (operand : Operand) : Bool :=
  findOrdered operand set.names

/-- Adds a member.  The empty name is never added. -/
def insert (set : OperandSet) (name : Operand) : OperandSet :=
  if named : name = "" then
    set
  else
    ⟨insertOrdered name set.names, pairwise_insertOrdered name set.names set.ordered, by
      simp [mem_insertOrdered, set.named, Ne.symm named]⟩

def erase (set : OperandSet) (name : Operand) : OperandSet :=
  ⟨set.names.filter (· != name), set.ordered.filter _, by simp [set.named]⟩

def insertNew (set : OperandSet) (name : Operand) : Bool × OperandSet :=
  if name = "" || set.lookup name then (false, set) else (true, set.insert name)

def eraseFound (set : OperandSet) (name : Operand) : Bool × OperandSet :=
  let remaining := set.erase name
  (set.size != remaining.size, remaining)

def insertAll (set : OperandSet) (names : List Operand) : OperandSet :=
  names.foldl insert set

def eraseAll (set : OperandSet) (names : List Operand) : OperandSet :=
  names.foldl erase set

def ofList (names : List Operand) : OperandSet :=
  insertAll ∅ names

def union (left right : OperandSet) : OperandSet :=
  left.insertAll right.names

def intersects (left right : OperandSet) : Bool :=
  left.names.any right.lookup

def containsAny (set : OperandSet) (names : List Operand) : Bool :=
  set.names.any names.contains

def render (set : OperandSet) : String :=
  "\x7b" ++ String.intercalate ", " set.names ++ "\x7d"

/-! ## What each operation does to the members -/

theorem eq_of_pairwise_before {left right : List Operand}
    (leftOrdered : left.Pairwise Operand.Before) (rightOrdered : right.Pairwise Operand.Before)
    (same : ∀ name, name ∈ left ↔ name ∈ right) : left = right := by
  induction left generalizing right with
  | nil =>
      cases right with
      | nil => rfl
      | cons head tail => exact absurd ((same head).mpr (by simp)) (by simp)
  | cons leftHead leftTail ih =>
      cases right with
      | nil => exact absurd ((same leftHead).mp (by simp)) (by simp)
      | cons rightHead rightTail =>
          obtain ⟨leftFirst, leftRest⟩ := List.pairwise_cons.mp leftOrdered
          obtain ⟨rightFirst, rightRest⟩ := List.pairwise_cons.mp rightOrdered
          have heads : leftHead = rightHead := by
            rcases List.mem_cons.mp ((same leftHead).mp (by simp)) with equal | later
            · exact equal
            · rcases List.mem_cons.mp ((same rightHead).mpr (by simp)) with equal | later'
              · exact equal.symm
              · exact absurd (Operand.before_trans (rightFirst _ later) (leftFirst _ later'))
                  (Operand.not_before_self _)
          subst heads
          congr 1
          refine ih leftRest rightRest fun name => ⟨fun member => ?_, fun member => ?_⟩
          · rcases List.mem_cons.mp ((same name).mp (by simp [member])) with rfl | member'
            · exact absurd (leftFirst _ member) (Operand.not_before_self _)
            · exact member'
          · rcases List.mem_cons.mp ((same name).mpr (by simp [member])) with rfl | member'
            · exact absurd (rightFirst _ member) (Operand.not_before_self _)
            · exact member'

@[ext] theorem ext {left right : OperandSet} (same : ∀ name, name ∈ left ↔ name ∈ right) :
    left = right := by
  have names := eq_of_pairwise_before left.ordered right.ordered same
  cases left; cases right; simp_all

@[simp] theorem contains_iff (set : OperandSet) (name : Operand) :
    set.contains name = true ↔ name ∈ set := by
  simp only [contains, List.any_eq_true, beq_iff_eq, exists_eq_right]
  exact Iff.rfl

theorem findOrdered_iff (name : Operand) (names : List Operand)
    (ordered : names.Pairwise Operand.Before) :
    findOrdered name names = true ↔ name ∈ names := by
  induction names with
  | nil => simp [findOrdered]
  | cons head tail ih =>
      obtain ⟨first, rest⟩ := List.pairwise_cons.mp ordered
      by_cases before : Operand.Before name head
      · have absent : name ∉ head :: tail := by
          intro member
          rcases List.mem_cons.mp member with rfl | member
          · exact Operand.not_before_self _ before
          · exact Operand.not_before_self _ (Operand.before_trans before (first _ member))
        simp [findOrdered, Operand.compare, before, absent]
      · by_cases same : name = head
        · simp [findOrdered, Operand.compare, same, Operand.not_before_self]
        · simp [findOrdered, Operand.compare, before, same, ih rest]

@[simp] theorem lookup_iff (set : OperandSet) (name : Operand) :
    set.lookup name = true ↔ name ∈ set :=
  findOrdered_iff name set.names set.ordered

@[simp] theorem mem_insert (set : OperandSet) (name other : Operand) :
    other ∈ set.insert name ↔ (other = name ∧ name ≠ "") ∨ other ∈ set := by
  by_cases blank : name = ""
  · simp [insert, blank]
  · simp only [insert, blank, ↓reduceDIte, ← mem_names, mem_insertOrdered, ne_eq, not_false_eq_true,
      and_true]

@[simp] theorem mem_erase (set : OperandSet) (name other : Operand) :
    other ∈ set.erase name ↔ other ∈ set ∧ other ≠ name := by
  simp [erase, ← mem_names]

@[simp] theorem mem_insertAll (set : OperandSet) (names : List Operand) (other : Operand) :
    other ∈ set.insertAll names ↔ (other ∈ names ∧ other ≠ "") ∨ other ∈ set := by
  induction names generalizing set with
  | nil => simp [insertAll]
  | cons name rest ih =>
      have step : set.insertAll (name :: rest) = (set.insert name).insertAll rest := rfl
      rw [step, ih, mem_insert]
      simp only [List.mem_cons]
      grind

@[simp] theorem mem_eraseAll (set : OperandSet) (names : List Operand) (other : Operand) :
    other ∈ set.eraseAll names ↔ other ∈ set ∧ other ∉ names := by
  induction names generalizing set with
  | nil => simp [eraseAll]
  | cons name rest ih =>
      have step : set.eraseAll (name :: rest) = (set.erase name).eraseAll rest := rfl
      rw [step, ih, mem_erase]
      simp only [List.mem_cons]
      grind

@[simp] theorem mem_ofList (names : List Operand) (other : Operand) :
    other ∈ ofList names ↔ other ∈ names ∧ other ≠ "" := by
  simp [ofList]

@[simp] theorem mem_union (left right : OperandSet) (other : Operand) :
    other ∈ left.union right ↔ other ∈ left ∨ other ∈ right := by
  simp only [union, mem_insertAll, mem_names]
  constructor
  · rintro (⟨member, _⟩ | member)
    · exact .inr member
    · exact .inl member
  · rintro (member | member)
    · exact .inr member
    · exact .inl ⟨member, fun blank => right.named (blank ▸ member)⟩

@[simp] theorem intersects_iff (left right : OperandSet) :
    left.intersects right = true ↔ ∃ name, name ∈ left ∧ name ∈ right := by
  simp [intersects, List.any_eq_true, mem_names]

@[simp] theorem containsAny_iff (set : OperandSet) (names : List Operand) :
    set.containsAny names = true ↔ ∃ name, name ∈ set ∧ name ∈ names := by
  simp [containsAny, List.any_eq_true, mem_names]

theorem insertAll_eq_self {set : OperandSet} {names : List Operand}
    (present : ∀ name ∈ names, name ∈ set) : set.insertAll names = set := by
  ext name
  rw [mem_insertAll]
  exact ⟨fun member => member.elim (fun listed => present name listed.1) id, .inr⟩

theorem insert_eq_self {set : OperandSet} {name : Operand} (present : name ∈ set) :
    set.insert name = set := by
  ext other
  rw [mem_insert]
  exact ⟨fun member => member.elim (fun same => same.1 ▸ present) id, .inr⟩

theorem isEmpty_iff (set : OperandSet) : set.isEmpty = true ↔ ∀ name, name ∉ set := by
  simp only [isEmpty, List.isEmpty_iff, ← mem_names]
  exact List.eq_nil_iff_forall_not_mem

end OperandSet

end FaultTriage
