import FaultTriage.Proofs.Register.Cell
import FaultTriage.Proofs.Taint.Causality
import FaultTriage.Proofs.Taint.Flow

/-!
# Taint of single bits

A reference for the taint pass that knows single bits instead of names.  The bits of the sources of
the first instruction are tainted; every instruction makes the bits that it writes tainted or clean,
depending on whether one of its sources has a tainted bit.

The tainted operands of the pass reach all tainted bits as long as every tainted read so far has been
recorded.  What can hide a tainted read is the veto of the clean operands alone: after a register has
been written clean as a whole, writing taint to a part of it does not end the veto.  So the pass
records every tainted read exactly if no tainted read is of an operand still held clean, and there is
no such read where writes never change a part only of what has been written before.
-/

set_option autoImplicit false

namespace FaultTriage.Taint

open Register

/-! ## The reference -/

def carries (architecture : Architecture) (taint : Cell → Bool) (name : Operand) : Bool :=
  (cells architecture name).any taint

def seedBits (architecture : Architecture) (origins : OperandSet) (cell : Cell) : Bool :=
  origins.names.any fun name => (cells architecture name).contains cell

/-- The cells that an instruction writes take the taint of its sources. -/
def stepBits (architecture : Architecture) (taint : Cell → Bool) (instruction : Instruction)
    (cell : Cell) : Bool :=
  if instruction.kind ≠ .noop ∧
      instruction.destination.names.any fun name => (writtenCells architecture name).contains cell
  then instruction.source.names.any (carries architecture taint)
  else taint cell

def bitsBefore (architecture : Architecture) (block : List Instruction) (index : Nat) :
    Cell → Bool :=
  (block.take index).foldl (stepBits architecture) (seedBits architecture (seeds false block))

/-- An instruction that is not idle reads an operand with a tainted cell. -/
def ReadsTaint (architecture : Architecture) (block : List Instruction) (index : Nat)
    (name : Operand) : Prop :=
  ∃ instruction, block[index]? = some instruction ∧ instruction.kind ≠ .noop ∧
    name ∈ inputs instruction ∧
    carries architecture (bitsBefore architecture block index) name = true

def Recorded (architecture : Architecture) (taintPointers : Bool) (block : List Instruction)
    (index : Nat) (name : Operand) : Prop :=
  ∃ after, (propagate architecture taintPointers block).block[index]? = some after ∧
    name ∈ after.taintedInput

/-- The pass over the instructions before a position ends with the operand held clean. -/
def HeldClean (architecture : Architecture) (taintPointers : Bool) (block : List Instruction)
    (index : Nat) (name : Operand) : Prop :=
  name ∈ (propagate architecture taintPointers (block.take index)).outcome.clear

/-- No tainted read before a position is of an operand held clean. -/
def Unvetoed (architecture : Architecture) (taintPointers : Bool) (block : List Instruction)
    (bound : Nat) : Prop :=
  ∀ index < bound, ∀ name, ReadsTaint architecture block index name →
    ¬ HeldClean architecture taintPointers block index name

/-- A write that reaches an operand written before always overwrites it as a whole. -/
def RewritesWhole (architecture : Architecture) (block : List Instruction) : Prop :=
  ∀ (earlier later : Nat) (first second : Instruction) (name written : Operand),
    earlier < later → block[earlier]? = some first → block[later]? = some second →
    name ∈ first.destination → written ∈ second.destination →
    name ∈ marked architecture written → name ∈ overwritten architecture written

/-! ## One step of the reference -/

theorem ReadsTaint.lt_length {architecture : Architecture} {block : List Instruction} {index : Nat}
    {name : Operand} (reads : ReadsTaint architecture block index name) : index < block.length := by
  obtain ⟨_, located, _⟩ := reads
  exact (List.getElem?_eq_some_iff.mp located).1

theorem carries_iff {architecture : Architecture} {taint : Cell → Bool} {name : Operand} :
    carries architecture taint name = true ↔
      ∃ cell ∈ cells architecture name, taint cell = true := by
  simp [carries]

theorem seedBits_iff {architecture : Architecture} {origins : OperandSet} {cell : Cell} :
    seedBits architecture origins cell = true ↔
      ∃ name, name ∈ origins ∧ cell ∈ cells architecture name := by
  simp [seedBits, OperandSet.mem_names]

theorem stepBits_of_noop (architecture : Architecture) (taint : Cell → Bool)
    {instruction : Instruction} (idle : instruction.kind = .noop) :
    stepBits architecture taint instruction = taint := by
  funext cell
  simp [stepBits, idle]

theorem stepBits_iff {architecture : Architecture} {taint : Cell → Bool}
    {instruction : Instruction} (active : instruction.kind ≠ .noop) {cell : Cell} :
    stepBits architecture taint instruction cell = true ↔
      ((∃ name, name ∈ instruction.destination ∧ cell ∈ writtenCells architecture name) ∧
        ∃ used, used ∈ instruction.source ∧ carries architecture taint used = true) ∨
      ((∀ name, name ∈ instruction.destination → cell ∉ writtenCells architecture name) ∧
        taint cell = true) := by
  have written : (instruction.destination.names.any fun name =>
      (writtenCells architecture name).contains cell) = true ↔
      ∃ name, name ∈ instruction.destination ∧ cell ∈ writtenCells architecture name := by
    simp [OperandSet.mem_names]
  unfold stepBits
  by_cases reached : ∃ name, name ∈ instruction.destination ∧ cell ∈ writtenCells architecture name
  · have missed : ¬ ∀ name, name ∈ instruction.destination →
        cell ∉ writtenCells architecture name := by
      obtain ⟨name, member, inside⟩ := reached
      exact fun avoids => avoids name member inside
    rw [if_pos ⟨active, written.mpr reached⟩]
    simp [reached, missed, OperandSet.mem_names]
  · have avoids : ∀ name, name ∈ instruction.destination → cell ∉ writtenCells architecture name :=
      fun name member inside => reached ⟨name, member, inside⟩
    rw [if_neg fun both => reached (written.mp both.2)]
    exact ⟨fun before => .inr ⟨avoids, before⟩,
      fun either => either.elim (fun both => absurd both.1 reached) And.right⟩

theorem bitsBefore_succ (architecture : Architecture) {block : List Instruction} {index : Nat}
    {instruction : Instruction} (located : block[index]? = some instruction) :
    bitsBefore architecture block (index + 1) =
      stepBits architecture (bitsBefore architecture block index) instruction := by
  have bound := (List.getElem?_eq_some_iff.mp located).1
  have last := (List.getElem?_eq_some_iff.mp located).2
  unfold bitsBefore
  rw [List.take_succ_eq_append_getElem bound, List.foldl_append, last]
  rfl

/-- Taint that is gone does not come back. -/
theorem bitsBefore_clean {architecture : Architecture} {block : List Instruction}
    {count index : Nat} (before : count ≤ index)
    (clean : ∀ cell, bitsBefore architecture block count cell = false) (cell : Cell) :
    bitsBefore architecture block index cell = false := by
  have later : ∀ (rest : List Instruction) (taint : Cell → Bool), (∀ cell, taint cell = false) →
      ∀ cell, rest.foldl (stepBits architecture) taint cell = false := by
    intro rest
    induction rest with
    | nil => exact fun _ clean => clean
    | cons instruction rest ih =>
        intro taint clean
        refine ih _ fun cell => ?_
        simp [stepBits, carries, clean]
  have split : block.take index = block.take count ++ (block.take index).drop count := by
    have taken := List.take_append_drop count (block.take index)
    rw [List.take_take, Nat.min_eq_left before] at taken
    exact taken.symm
  rw [bitsBefore, split, List.foldl_append]
  exact later _ _ clean cell

/-! ## The tainted operands reach the tainted bits -/

/-- Every tainted cell is written by a write to some tainted operand. -/
def Covers (architecture : Architecture) (taint : Cell → Bool) (state : State) : Prop :=
  ∀ cell, taint cell = true →
    ∃ name, name ∈ state.taint ∧ cell ∈ writtenCells architecture name

section

variable {architecture : Architecture} {taint : Cell → Bool} {state : State}
  {instruction : Instruction}

theorem covers_seeded (architecture : Architecture) (taintPointers : Bool)
    (block : List Instruction) :
    Covers architecture (bitsBefore architecture block 0)
      (.seeded (seeds taintPointers block)) := by
  intro cell tainted
  obtain ⟨name, member, inside⟩ := seedBits_iff.mp tainted
  refine ⟨name, ?_, cells_subset_writtenCells inside⟩
  cases block with
  | nil => exact absurd member (OperandSet.not_mem_empty name)
  | cons first rest =>
      cases taintPointers with
      | true => exact (OperandSet.mem_union _ _ _).mpr (.inl member)
      | false => exact member

theorem Covers.mem_expanded (covers : Covers architecture taint state) {name : Operand}
    (named : name ≠ "") (carried : carries architecture taint name = true)
    (unheld : name ∉ state.clear) : name ∈ state.expanded architecture := by
  obtain ⟨cell, inside, tainted⟩ := carries_iff.mp carried
  obtain ⟨source, member, written⟩ := covers cell tainted
  exact (State.mem_expanded architecture state name).mpr
    (.inl ⟨⟨source, member, mem_marked_of_written_cell written inside⟩, unheld, named⟩)

theorem Covers.intersects (covers : Covers architecture taint state)
    (unheld : ∀ used, used ∈ instruction.source → carries architecture taint used = true →
      used ∉ state.clear)
    (tainted : ∃ used, used ∈ instruction.source ∧ carries architecture taint used = true) :
    instruction.source.intersects (state.expanded architecture) = true := by
  obtain ⟨used, reads, carried⟩ := tainted
  exact (OperandSet.intersects_iff _ _).mpr
    ⟨used, reads, covers.mem_expanded (named_of_mem reads) carried (unheld used reads carried)⟩

theorem Covers.clean_of_exhausted (covers : Covers architecture taint state)
    (dry : state.exhausted = true) (cell : Cell) : taint cell = false := by
  have noneLeft : state.taint.isEmpty = true := (Bool.and_eq_true_iff.mp dry).1
  refine Bool.eq_false_iff.mpr fun tainted => ?_
  obtain ⟨source, member, _⟩ := covers cell tainted
  exact (OperandSet.isEmpty_iff _).mp noneLeft source member

/-- A flow keeps the tainted bits reached if it has seen the taint of its sources. -/
theorem Covers.flow (covers : Covers architecture taint state) (active : instruction.kind ≠ .noop)
    (seen : (∃ used, used ∈ instruction.source ∧ carries architecture taint used = true) →
      instruction.source.intersects (state.expanded architecture) = true) :
    Covers architecture (stepBits architecture taint instruction)
      (flow architecture (state.expanded architecture) state instruction) := by
  intro cell tainted
  rw [stepBits_iff active] at tainted
  unfold Taint.flow
  cases carried : instruction.source.intersects (state.expanded architecture) with
  | true =>
      simp only [State.mem_taint_assignAll_true, OperandSet.mem_names]
      rcases tainted with ⟨⟨name, member, written⟩, _⟩ | ⟨_, before⟩
      · exact ⟨name, .inl ⟨member, named_of_mem member⟩, written⟩
      · obtain ⟨name, member, written⟩ := covers cell before
        exact ⟨name, .inr member, written⟩
  | false =>
      simp only [State.mem_taint_assignAll_false, OperandSet.mem_names]
      rcases tainted with ⟨_, used⟩ | ⟨avoids, before⟩
      · exact absurd (seen used) (by simp [carried])
      · obtain ⟨name, member, written⟩ := covers cell before
        -- A clean write drops a name only together with all cells that the name stood for.
        refine ⟨name, ⟨member, fun operand destination overwrites => ?_⟩, written⟩
        exact avoids operand destination (writtenCells_subset_of_mem_overwritten overwrites written)

end

/-! ## The operands held clean have no tainted bit -/

structure CleanBits (architecture : Architecture) (block : List Instruction) (index : Nat)
    (state : State) : Prop where
  written : ∀ name, name ∈ state.clear → ∃ earlier instruction, earlier < index ∧
    block[earlier]? = some instruction ∧ name ∈ instruction.destination
  untainted : ∀ name, name ∈ state.clear →
    ¬ carries architecture (bitsBefore architecture block index) name = true

section

variable {architecture : Architecture} {block : List Instruction} {index : Nat} {state : State}
  {instruction : Instruction}

theorem CleanBits.of_noop (clean : CleanBits architecture block index state)
    (located : block[index]? = some instruction) (idle : instruction.kind = .noop) :
    CleanBits architecture block (index + 1) state where
  written name member := by
    obtain ⟨earlier, writer, below, found, defines⟩ := clean.written name member
    exact ⟨earlier, writer, by omega, found, defines⟩
  untainted name member := by
    rw [bitsBefore_succ architecture located, stepBits_of_noop architecture _ idle]
    exact clean.untainted name member

/-- A flow keeps the clean operands free of taint where writes overwrite as a whole. -/
theorem CleanBits.flow (clean : CleanBits architecture block index state)
    (rewrites : RewritesWhole architecture block) (located : block[index]? = some instruction)
    (active : instruction.kind ≠ .noop)
    (seen : (∃ used, used ∈ instruction.source ∧
        carries architecture (bitsBefore architecture block index) used = true) →
      instruction.source.intersects (state.expanded architecture) = true) :
    CleanBits architecture block (index + 1)
      (flow architecture (state.expanded architecture) state instruction) := by
  unfold Taint.flow
  cases carried : instruction.source.intersects (state.expanded architecture) with
  | true =>
      constructor
      · intro name member
        obtain ⟨held, _⟩ := (State.mem_clear_assignAll_true _ _ _ _).mp member
        obtain ⟨earlier, writer, below, found, defines⟩ := clean.written name held
        exact ⟨earlier, writer, by omega, found, defines⟩
      · intro name member tainted
        obtain ⟨held, uncovered⟩ := (State.mem_clear_assignAll_true _ _ _ _).mp member
        obtain ⟨earlier, writer, below, found, defines⟩ := clean.written name held
        rw [bitsBefore_succ architecture located] at tainted
        obtain ⟨cell, inside, bit⟩ := carries_iff.mp tainted
        rcases (stepBits_iff active).mp bit with ⟨⟨operand, destination, reached⟩, _⟩ | ⟨_, before⟩
        · have suspect := mem_marked_of_written_cell reached inside
          exact uncovered operand destination (rewrites earlier index writer instruction name
            operand below found located defines destination suspect)
        · exact clean.untainted name held (carries_iff.mpr ⟨cell, inside, before⟩)
  | false =>
      constructor
      · intro name member
        rcases (State.mem_clear_assignAll_false _ _ _ _).mp member with ⟨destination, _⟩ | held
        · exact ⟨index, instruction, Nat.lt_succ_self index, located, destination⟩
        · obtain ⟨earlier, writer, below, found, defines⟩ := clean.written name held
          exact ⟨earlier, writer, by omega, found, defines⟩
      · intro name member tainted
        rw [bitsBefore_succ architecture located] at tainted
        obtain ⟨cell, inside, bit⟩ := carries_iff.mp tainted
        rcases (stepBits_iff active).mp bit with ⟨_, used⟩ | ⟨avoids, before⟩
        · exact absurd (seen used) (by simp [carried])
        · rcases (State.mem_clear_assignAll_false _ _ _ _).mp member with ⟨destination, _⟩ | held
          · exact avoids name destination (cells_subset_writtenCells inside)
          · exact clean.untainted name held (carries_iff.mpr ⟨cell, inside, before⟩)

end

/-! ## The pass against the reference -/

section

variable {architecture : Architecture} {taintPointers : Bool} {block : List Instruction}

theorem Unvetoed.mono {bound count : Nat}
    (unvetoed : Unvetoed architecture taintPointers block bound) (before : count ≤ bound) :
    Unvetoed architecture taintPointers block count :=
  fun index below => unvetoed index (by omega)

theorem Run.heldClean_iff {index : Nat} {changed : List Instruction} {state : State}
    (run : Run architecture (.seeded (seeds taintPointers block)) (block.take index) changed state)
    (name : Operand) :
    HeldClean architecture taintPointers block index name ↔ name ∈ state.clear := by
  unfold HeldClean
  by_cases begun : block.take index = []
  · obtain ⟨_, rfl⟩ := run.eq_start begun
    rw [begun]
    rfl
  · rw [run.propagate_processed (List.take_prefix _ _) begun]

/-- While no tainted read is vetoed, the tainted operands reach all tainted bits. -/
theorem Run.covers {count : Nat} {changed : List Instruction} {final : State}
    (run : Run architecture (.seeded (seeds taintPointers block)) (block.take count) changed final)
    (bounded : count ≤ block.length)
    (certain : ∀ instruction ∈ block, Flows instruction ∧ instruction.kind ≠ .unpredictable)
    (unvetoed : Unvetoed architecture taintPointers block count) :
    Covers architecture (bitsBefore architecture block count) final := by
  have kept := run.invariant (List.take_prefix _ _)
    (fun position state => Unvetoed architecture taintPointers block position →
      Covers architecture (bitsBefore architecture block position) state)
    (fun _ => covers_seeded architecture taintPointers block)
  rw [List.length_take_of_le bounded] at kept
  refine kept ?_ unvetoed
  intro index _ state instruction after next reached located before stepped unvetoed
  have covers := before (unvetoed.mono (Nat.le_succ index))
  obtain ⟨flows, predictable⟩ := certain instruction (List.mem_of_getElem? located)
  rw [bitsBefore_succ architecture located]
  rcases step?_flows_cases flows stepped with ⟨idle, _, rfl⟩ | ⟨active, _, rfl⟩
  · rw [stepBits_of_noop architecture _ idle]
    exact covers
  · rw [flowed, if_neg predictable]
    refine covers.flow active (covers.intersects fun used reads carried => ?_)
    have unheld := unvetoed index (Nat.lt_succ_self index) used
      ⟨instruction, located, active, mem_inputs.mpr (.inl reads), carried⟩
    exact mt (reached.heldClean_iff used).mpr unheld

/-- Where writes overwrite as a whole, taint and clean operands both agree with the bits. -/
theorem Run.covers_and_cleanBits {count : Nat} {changed : List Instruction} {final : State}
    (run : Run architecture (.seeded (seeds taintPointers block)) (block.take count) changed final)
    (bounded : count ≤ block.length)
    (certain : ∀ instruction ∈ block, Flows instruction ∧ instruction.kind ≠ .unpredictable)
    (rewrites : RewritesWhole architecture block) :
    Covers architecture (bitsBefore architecture block count) final ∧
      CleanBits architecture block count final := by
  have kept := run.invariant (List.take_prefix _ _)
    (fun position state => Covers architecture (bitsBefore architecture block position) state ∧
      CleanBits architecture block position state)
    ⟨covers_seeded architecture taintPointers block,
      fun name held => absurd held (OperandSet.not_mem_empty name),
      fun name held => absurd held (OperandSet.not_mem_empty name)⟩
  rw [List.length_take_of_le bounded] at kept
  refine kept ?_
  intro index _ state instruction after next _ located both stepped
  obtain ⟨covers, clean⟩ := both
  obtain ⟨flows, predictable⟩ := certain instruction (List.mem_of_getElem? located)
  rcases step?_flows_cases flows stepped with ⟨idle, _, rfl⟩ | ⟨active, _, rfl⟩
  · refine ⟨?_, clean.of_noop located idle⟩
    rw [bitsBefore_succ architecture located, stepBits_of_noop architecture _ idle]
    exact covers
  · have seen := covers.intersects fun used (_ : used ∈ instruction.source) carried held =>
      clean.untainted used held carried
    rw [flowed, if_neg predictable, bitsBefore_succ architecture located]
    exact ⟨covers.flow active seen, clean.flow rewrites located active seen⟩

/-- The pass arrives at a tainted read, and records it if the operand counts as tainted. -/
theorem ReadsTaint.reached {index : Nat} {name : Operand}
    (reads : ReadsTaint architecture block index name)
    (flows : ∀ instruction ∈ block, Flows instruction)
    (covered : ∀ count ≤ index, ∀ changed state,
      Run architecture (.seeded (seeds taintPointers block)) (block.take count) changed state →
      Covers architecture (bitsBefore architecture block count) state) :
    ∃ changed state,
      Run architecture (.seeded (seeds taintPointers block)) (block.take index) changed state ∧
      (name ∈ state.expanded architecture →
        Recorded architecture taintPointers block index name) := by
  obtain ⟨instruction, located, active, input, carried⟩ := reads
  obtain ⟨after, found, ⟨changed, state, run, _, recorded⟩ |
      ⟨count, earlier, changed, state, run, dry, _⟩⟩ :=
    taintedInput_at architecture taintPointers flows located
  · exact ⟨changed, state, run, fun expanded =>
      ⟨after, found, (recorded name).mpr (.inr ⟨active, input, expanded⟩)⟩⟩
  · -- The taint has run out at `count`, so no bit has been tainted since.
    have clean := (covered count earlier changed state run).clean_of_exhausted dry
    obtain ⟨cell, _, tainted⟩ := carries_iff.mp carried
    rw [bitsBefore_clean earlier clean] at tainted
    cases tainted

theorem ReadsTaint.recorded {index : Nat} {name : Operand}
    (reads : ReadsTaint architecture block index name)
    (certain : ∀ instruction ∈ block, Flows instruction ∧ instruction.kind ≠ .unpredictable)
    (unvetoed : Unvetoed architecture taintPointers block (index + 1)) :
    Recorded architecture taintPointers block index name := by
  have bound := reads.lt_length
  have covered : ∀ count ≤ index, ∀ changed state,
      Run architecture (.seeded (seeds taintPointers block)) (block.take count) changed state →
      Covers architecture (bitsBefore architecture block count) state :=
    fun count before changed state run =>
      run.covers (by omega) certain (unvetoed.mono (by omega))
  obtain ⟨changed, state, run, records⟩ :=
    reads.reached (fun instruction member => (certain instruction member).1) covered
  have unheld := unvetoed index (Nat.lt_succ_self index) name reads
  obtain ⟨instruction, located, active, input, carried⟩ := reads
  exact records ((covered index (Nat.le_refl index) changed state run).mem_expanded
    (named_of_mem_inputs input) carried (mt (run.heldClean_iff name).mpr unheld))

theorem RewritesWhole.unvetoed (rewrites : RewritesWhole architecture block)
    (certain : ∀ instruction ∈ block, Flows instruction ∧ instruction.kind ≠ .unpredictable)
    (taintPointers : Bool) (bound : Nat) :
    Unvetoed architecture taintPointers block bound := by
  intro index _ name reads held
  have bound := reads.lt_length
  obtain ⟨changed, state, run, _⟩ :=
    reads.reached (fun instruction member => (certain instruction member).1)
      fun count before changed state run =>
        (run.covers_and_cleanBits (by omega) certain rewrites).1
  obtain ⟨_, clean⟩ := run.covers_and_cleanBits (by omega) certain rewrites
  obtain ⟨_, _, _, _, carried⟩ := reads
  exact clean.untainted name ((run.heldClean_iff name).mp held) carried

theorem HeldClean.not_recorded {index : Nat} {name : Operand}
    (held : HeldClean architecture taintPointers block index name)
    (flows : ∀ instruction ∈ block, Flows instruction)
    (fresh : ∀ instruction ∈ block, instruction.taintedInput = ∅) :
    ¬ Recorded architecture taintPointers block index name := by
  rintro ⟨result, there, recorded⟩
  have bound := (List.getElem?_eq_some_iff.mp there).1
  rw [length_block_propagate] at bound
  have located := List.getElem?_eq_getElem bound
  have empty := fresh block[index] (List.getElem_mem bound)
  obtain ⟨after, found, ⟨changed, state, run, _, exactly⟩ | ⟨_, _, _, _, _, _, rfl⟩⟩ :=
    taintedInput_at architecture taintPointers flows located
  · cases there.symm.trans found
    have settled := run.settled fun other member => flows other (List.mem_of_mem_take member)
    rw [exactly, empty] at recorded
    rcases recorded with impossible | ⟨_, _, expanded⟩
    · exact OperandSet.not_mem_empty name impossible
    · exact settled.not_mem_expanded architecture ((run.heldClean_iff name).mp held) expanded
  · cases there.symm.trans found
    rw [empty] at recorded
    exact OperandSet.not_mem_empty name recorded

end

/--
In a block of plain flow that certainly executes, the pass records all tainted reads before a
position if none of them is of an operand held clean, and, where nothing has been recorded before
the pass, only then.  No tainted read is of an operand held clean if writes always overwrite as a
whole what has been written before.
-/
theorem records_tainted_reads_unless_vetoed (architecture : Architecture) (taintPointers : Bool)
    (block : List Instruction)
    (certain : ∀ instruction ∈ block, Flows instruction ∧ instruction.kind ≠ .unpredictable)
    (bound : Nat) :
    (Unvetoed architecture taintPointers block bound →
      ∀ index < bound, ∀ name, ReadsTaint architecture block index name →
        Recorded architecture taintPointers block index name) ∧
    ((∀ instruction ∈ block, instruction.taintedInput = ∅) →
      (∀ index < bound, ∀ name, ReadsTaint architecture block index name →
        Recorded architecture taintPointers block index name) →
      Unvetoed architecture taintPointers block bound) ∧
    (RewritesWhole architecture block → Unvetoed architecture taintPointers block bound) := by
  refine ⟨?_, ?_, fun rewrites => rewrites.unvetoed certain taintPointers bound⟩
  · intro unvetoed index below name reads
    exact reads.recorded certain (unvetoed.mono below)
  · intro fresh records index below name reads held
    exact held.not_recorded (fun instruction member => (certain instruction member).1) fresh
      (records index below name reads)

def loadClearByteCopy : List Instruction :=
  [.bare .x86 false .unknown "mov".toList "ecx,dword ptr [eax]".toList,
    .bare .x86 false .unknown "mov".toList "cl,0".toList,
    .bare .x86 false .unknown "mov".toList "edx,ecx".toList]

def loadClearFillCopyByte : List Instruction :=
  [.bare .x86 false .unknown "mov".toList "ecx,dword ptr [eax]".toList,
    .bare .x86 false .unknown "mov".toList "edx,0".toList,
    .bare .x86 false .unknown "mov".toList "edx,ecx".toList,
    .bare .x86 false .unknown "mov".toList "bl,dl".toList]

theorem copies_of_partly_cleared_and_refilled_recorded :
    (ReadsTaint .x86 loadClearByteCopy 2 "ecx" ∧
      Recorded .x86 false loadClearByteCopy 2 "ecx") ∧
    ReadsTaint .x86 loadClearFillCopyByte 3 "dl" ∧
      ¬ HeldClean .x86 false loadClearFillCopyByte 3 "dl" := by
  have certain : ∀ instruction ∈ loadClearByteCopy,
      Flows instruction ∧ instruction.kind ≠ .unpredictable := by decide +kernel
  have unheld : ∀ index < 3, ∀ instruction ∈ loadClearByteCopy[index]?,
      ∀ name ∈ inputs instruction,
        name ∉ (propagate .x86 false (loadClearByteCopy.take index)).outcome.clear := by
    decide +kernel
  have reads : ReadsTaint .x86 loadClearByteCopy 2 "ecx" :=
    ⟨_, rfl, by decide +kernel, by decide +kernel, by decide +kernel⟩
  have refillCertain : ∀ instruction ∈ loadClearFillCopyByte,
      Flows instruction ∧ instruction.kind ≠ .unpredictable := by decide +kernel
  have nested : ∀ first ∈ loadClearFillCopyByte, ∀ second ∈ loadClearFillCopyByte,
      ∀ name ∈ first.destination.names, ∀ written ∈ second.destination.names,
        name ∈ marked .x86 written → name ∈ overwritten .x86 written := by decide +kernel
  have refillReads : ReadsTaint .x86 loadClearFillCopyByte 3 "dl" :=
    ⟨_, rfl, by decide +kernel, by decide +kernel, by decide +kernel⟩
  refine ⟨⟨reads, ?_⟩, refillReads, ?_⟩
  · refine (records_tainted_reads_unless_vetoed .x86 false loadClearByteCopy certain 3).1
      ?_ 2 (by decide) "ecx" reads
    rintro index below name ⟨instruction, located, _, input, _⟩
    exact unheld index below instruction located name input
  · refine (records_tainted_reads_unless_vetoed .x86 false loadClearFillCopyByte refillCertain 4).2.2
      ?_ 3 (by decide) "dl" refillReads
    intro earlier later first second name written _ firstLocated secondLocated defines writes
    exact nested first (List.mem_of_getElem? firstLocated) second
      (List.mem_of_getElem? secondLocated) name defines written writes

def loadClearByteFillCopy : List Instruction :=
  [.bare .x86 false .unknown "mov".toList "ecx,dword ptr [eax]".toList,
    .bare .x86 false .unknown "mov".toList "edx,0".toList,
    .bare .x86 false .unknown "mov".toList "dl,cl".toList,
    .bare .x86 false .unknown "mov".toList "esi,edx".toList]

theorem loadClearByteFillCopy_misses_copy :
    (∀ instruction ∈ loadClearByteFillCopy,
        Flows instruction ∧ instruction.kind ≠ .unpredictable) ∧
      ReadsTaint .x86 loadClearByteFillCopy 3 "edx" ∧
      ¬ Recorded .x86 false loadClearByteFillCopy 3 "edx" := by
  refine ⟨by decide +kernel,
    ⟨_, rfl, by decide +kernel, by decide +kernel, by decide +kernel⟩, ?_⟩
  have missed : ∀ after ∈ (propagate .x86 false loadClearByteFillCopy).block[3]?,
      "edx" ∉ after.taintedInput := by decide +kernel
  rintro ⟨after, found, recorded⟩
  exact missed after found recorded

end FaultTriage.Taint
