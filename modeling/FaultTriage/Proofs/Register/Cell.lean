import FaultTriage.Proofs.Register.Alias

/-!
# Bits of registers

An operand consists of cells: the bits of its family that its view covers, or, outside every family,
the operand as a whole.  A write may reach more cells than the written operand has, because on x64 a
write to the lower half of a register clears the upper half.  The alias tables are read off these
cells: names that share a written cell are marked together, and an overwritten name loses all cells
that a write to it would reach.
-/

set_option autoImplicit false

namespace FaultTriage.Register

/-- The smallest part of an operand that can be told apart. -/
inductive Cell where
  | bit (family : Family) (position : Nat)
  | whole (name : Operand)
deriving DecidableEq

def bitRange (family : Family) (low high : Nat) : List Cell :=
  (List.range' low (high - low)).map (.bit family)

def cells (architecture : Architecture) (name : Operand) : List Cell :=
  match findView? name (families architecture) with
  | some (family, view) => bitRange family view.low view.high
  | none => [.whole name]

def writtenCells (architecture : Architecture) (name : Operand) : List Cell :=
  match findView? name (families architecture) with
  | some (family, view) =>
      let range := writtenRange architecture family view
      bitRange family range.1 range.2
  | none => [.whole name]

theorem mem_bitRange {family : Family} {low high : Nat} {cell : Cell} :
    cell ∈ bitRange family low high ↔
      ∃ position, low ≤ position ∧ position < high ∧ cell = .bit family position := by
  simp only [bitRange, List.mem_map, List.mem_range'_1]
  constructor
  · rintro ⟨position, ⟨above, below⟩, rfl⟩
    exact ⟨position, above, by omega, rfl⟩
  · rintro ⟨position, above, below, rfl⟩
    exact ⟨position, ⟨above, by omega⟩, rfl⟩

theorem cells_subset_writtenCells {architecture : Architecture} {name : Operand} {cell : Cell}
    (member : cell ∈ cells architecture name) : cell ∈ writtenCells architecture name := by
  rcases findView?_cases architecture name with outside | ⟨family, _, view, _, _, found⟩
  · simpa [cells, writtenCells, outside] using member
  · simp only [cells, writtenCells, found, mem_bitRange] at member ⊢
    obtain ⟨position, above, below, rfl⟩ := member
    have covers := within_writtenRange architecture family view
    exact ⟨position, by omega, by omega, rfl⟩

theorem mem_marked_of_written_cell {architecture : Architecture} {name other : Operand} {cell : Cell}
    (written : cell ∈ writtenCells architecture name) (shared : cell ∈ cells architecture other) :
    other ∈ marked architecture name := by
  rcases findView?_cases architecture name with outside | ⟨family, _, view, _, rfl, found⟩ <;>
    rcases findView?_cases architecture other with
      otherOutside | ⟨otherFamily, listed, sibling, member, rfl, otherFound⟩
  · simp only [writtenCells, cells, outside, otherOutside, List.mem_singleton] at written shared
    cases written.symm.trans shared
    exact mem_marked_self architecture name
  · simp only [writtenCells, cells, outside, otherFound, List.mem_singleton, mem_bitRange] at written shared
    obtain ⟨_, _, _, bit⟩ := shared
    cases written.symm.trans bit
  · simp only [writtenCells, cells, found, otherOutside, List.mem_singleton, mem_bitRange] at written shared
    obtain ⟨_, _, _, bit⟩ := written
    cases shared.symm.trans bit
  · simp only [writtenCells, cells, found, otherFound, mem_bitRange] at written shared
    obtain ⟨position, above, below, rfl⟩ := written
    obtain ⟨_, otherAbove, otherBelow, same⟩ := shared
    cases same
    exact (mem_marked_view found sibling.name).mpr
      ⟨sibling, member, overlaps_of_written listed member (by omega) (by omega), rfl⟩

theorem writtenCells_subset_of_mem_overwritten {architecture : Architecture}
    {name covered : Operand} {cell : Cell} (overwrites : covered ∈ overwritten architecture name)
    (member : cell ∈ writtenCells architecture covered) : cell ∈ writtenCells architecture name := by
  rcases findView?_cases architecture name with outside | ⟨family, listed, view, inside, rfl, found⟩
  · rw [overwritten_of_findView?_none outside, List.mem_singleton] at overwrites
    exact overwrites ▸ member
  · obtain ⟨sibling, siblingMember, within, rfl⟩ := (mem_overwritten_view found covered).mp overwrites
    simp only [View.within, Bool.and_eq_true, decide_eq_true_eq] at within
    have reach := writtenRange_subset listed inside within.1 within.2
    have siblingFound := findView?_of_mem listed siblingMember
    simp only [writtenCells, siblingFound, found, mem_bitRange] at member ⊢
    obtain ⟨position, above, below, rfl⟩ := member
    exact ⟨position, by omega, by omega, rfl⟩

end FaultTriage.Register
