import FaultTriage.Proofs.Taint.Flow

/-!
# Definition-use chains

In a block whose operands do not overlap, taint is what travels along chains of definitions and
uses.  A chain starts with a seed.  Each link is an instruction that reads the name of the link
before and defines the next one, and between two links no instruction that certainly executes
redefines the name in between.  An input is recorded as tainted exactly if such a chain ends in it.
-/

set_option autoImplicit false

namespace FaultTriage.Taint

open Register

/-- The instruction certainly executes and gives the operand a new value. -/
def Redefines (instruction : Instruction) (name : Operand) : Prop :=
  instruction.kind ≠ .noop ∧ instruction.kind ≠ .unpredictable ∧ name ∈ instruction.destination

/-- No instruction from `first`, included, to `last`, excluded, redefines the operand. -/
def Survives (block : List Instruction) (name : Operand) (first last : Nat) : Prop :=
  ∀ position instruction, first ≤ position → position < last →
    block[position]? = some instruction → ¬ Redefines instruction name

/-- A chain of definitions and uses from a seed to an operand just before a position. -/
inductive DefUse (origins : OperandSet) (block : List Instruction) : Operand → Nat → Prop where
  | seed {name : Operand} {index : Nat} :
      name ∈ origins → Survives block name 0 index → DefUse origins block name index
  | link {used name : Operand} {definer index : Nat} {instruction : Instruction} :
      DefUse origins block used definer → block[definer]? = some instruction →
      instruction.kind ≠ .noop → used ∈ instruction.source → name ∈ instruction.destination →
      definer < index → Survives block name (definer + 1) index →
      DefUse origins block name index

def operandNames (block : List Instruction) : List Operand :=
  block.flatMap fun instruction => inputs instruction ++ instruction.destination.names

def NamesApart (architecture : Architecture) (block : List Instruction) : Prop :=
  ∀ left ∈ operandNames block, ∀ right ∈ operandNames block, left ≠ right →
    left ∉ marked architecture right

instance (architecture : Architecture) (block : List Instruction) :
    Decidable (NamesApart architecture block) :=
  inferInstanceAs (Decidable (∀ left ∈ operandNames block, ∀ right ∈ operandNames block,
    left ≠ right → left ∉ marked architecture right))

/-! ## Chains, one instruction at a time -/

namespace DefUse

variable {origins : OperandSet} {block : List Instruction} {name : Operand} {index : Nat}

theorem zero_iff : DefUse origins block name 0 ↔ name ∈ origins := by
  constructor
  · intro chain
    cases chain with
    | seed member _ => exact member
    | link _ _ _ _ _ below _ => exact absurd below (Nat.not_lt_zero _)
  · intro member
    exact .seed member fun _ _ _ below => absurd below (Nat.not_lt_zero _)

/-- A chain passes an instruction that does not redefine its name, or gets its last link there. -/
theorem succ_iff {instruction : Instruction} (located : block[index]? = some instruction) :
    DefUse origins block name (index + 1) ↔
      (DefUse origins block name index ∧ ¬ Redefines instruction name) ∨
        (instruction.kind ≠ .noop ∧ name ∈ instruction.destination ∧
          ∃ used, used ∈ instruction.source ∧ DefUse origins block used index) := by
  have shorten : ∀ first ≤ index, Survives block name first (index + 1) →
      Survives block name first index ∧ ¬ Redefines instruction name := by
    intro first before survives
    exact ⟨fun position other low high => survives position other low (by omega),
      survives index instruction before (by omega) located⟩
  have extend : ∀ first, Survives block name first index → ¬ Redefines instruction name →
      Survives block name first (index + 1) := by
    intro first survives intact position other low high found
    rcases Nat.lt_or_eq_of_le (Nat.le_of_lt_succ high) with earlier | rfl
    · exact survives position other low earlier found
    · cases located.symm.trans found
      exact intact
  constructor
  · intro chain
    cases chain with
    | seed member survives =>
        obtain ⟨before, intact⟩ := shorten 0 (Nat.zero_le _) survives
        exact .inl ⟨.seed member before, intact⟩
    | @link used _ definer _ other chain found active reads defines below survives =>
        rcases Nat.lt_or_eq_of_le (Nat.le_of_lt_succ below) with earlier | rfl
        · obtain ⟨before, intact⟩ := shorten (definer + 1) earlier survives
          exact .inl ⟨.link chain found active reads defines earlier before, intact⟩
        · cases located.symm.trans found
          exact .inr ⟨active, defines, used, reads, chain⟩
  · rintro (⟨chain, intact⟩ | ⟨active, defines, used, reads, chain⟩)
    · cases chain with
      | seed member survives => exact .seed member (extend 0 survives intact)
      | link chain found active reads defines below survives =>
          exact .link chain found active reads defines (by omega) (extend _ survives intact)
    · exact .link chain located active reads defines (Nat.lt_succ_self _)
        fun position other low high => absurd high (by omega)

theorem exists_earlier (chain : DefUse origins block name index) {count : Nat}
    (before : count ≤ index) : ∃ other, DefUse origins block other count := by
  induction chain with
  | @seed name index member survives =>
      exact ⟨name, .seed member fun position other low high =>
        survives position other low (by omega)⟩
  | @link used name definer index instruction chain found active reads defines below survives ih =>
      by_cases reached : count ≤ definer
      · exact ih reached
      · exact ⟨name, .link chain found active reads defines (by omega)
          fun position other low high => survives position other low (by omega)⟩

theorem mem_operandNames {taintPointers : Bool}
    (chain : DefUse (seeds taintPointers block) block name index) : name ∈ operandNames block := by
  cases chain with
  | seed member _ =>
      cases block with
      | nil => exact absurd member (OperandSet.not_mem_empty name)
      | cons first rest =>
          have read : name ∈ inputs first := by
            cases taintPointers with
            | true =>
                have either := (OperandSet.mem_union _ _ _).mp member
                exact mem_inputs.mpr (either.imp_right .inl)
            | false => exact mem_inputs.mpr (.inl member)
          exact List.mem_flatMap.mpr ⟨first, List.mem_cons_self, List.mem_append_left _ read⟩
  | link _ found _ _ defines _ _ =>
      exact List.mem_flatMap.mpr ⟨_, List.mem_of_getElem? found, List.mem_append_right _ defines⟩

end DefUse

/-! ## The pass follows the chains -/

/-- The state before a position knows exactly the ends of chains as tainted. -/
def Tracks (origins : OperandSet) (block : List Instruction) (index : Nat) (state : State) : Prop :=
  ∀ name, name ∈ state.taint ↔ DefUse origins block name index

section

variable {architecture : Architecture} {taintPointers : Bool} {block : List Instruction}
  {index : Nat} {state : State} {instruction : Instruction}

theorem Tracks.mem_expanded (tracks : Tracks (seeds taintPointers block) block index state)
    (settled : state.Settled) (apart : NamesApart architecture block) {name : Operand}
    (occurs : name ∈ operandNames block) (named : name ≠ "") :
    name ∈ state.expanded architecture ↔ DefUse (seeds taintPointers block) block name index := by
  rw [State.mem_expanded, settled.unpushed, ← tracks]
  constructor
  · rintro (⟨⟨source, tainted, suspect⟩, _, _⟩ | ⟨impossible, _⟩)
    · have chain := (tracks source).mp tainted
      by_cases same : name = source
      · exact same ▸ tainted
      · exact absurd suspect (apart name occurs source chain.mem_operandNames same)
    · cases impossible
  · intro tainted
    exact .inl ⟨⟨name, tainted, mem_marked_self architecture name⟩,
      settled.consistent name tainted, named⟩

theorem Tracks.intersects_iff (tracks : Tracks (seeds taintPointers block) block index state)
    (settled : state.Settled) (apart : NamesApart architecture block)
    (located : block[index]? = some instruction) :
    instruction.source.intersects (state.expanded architecture) = true ↔
      ∃ used, used ∈ instruction.source ∧
        DefUse (seeds taintPointers block) block used index := by
  rw [OperandSet.intersects_iff]
  refine exists_congr fun used => and_congr_right fun reads => ?_
  have occurs : used ∈ operandNames block := List.mem_flatMap.mpr
    ⟨instruction, List.mem_of_getElem? located,
      List.mem_append_left _ (mem_inputs.mpr (.inl reads))⟩
  exact tracks.mem_expanded settled apart occurs (named_of_mem reads)

theorem mem_overwritten_iff (apart : NamesApart architecture block) {name operand : Operand}
    (occurs : name ∈ operandNames block) (defined : operand ∈ operandNames block) :
    name ∈ overwritten architecture operand ↔ name = operand := by
  constructor
  · intro covered
    by_cases same : name = operand
    · exact same
    · exact absurd (mem_marked_of_mem_overwritten covered) (apart name occurs operand defined same)
  · rintro rfl
    exact mem_overwritten_self architecture name

/-- A flow gives its destinations the last link of a chain, or ends the chains to them. -/
theorem Tracks.flowed (tracks : Tracks (seeds taintPointers block) block index state)
    (settled : state.Settled) (apart : NamesApart architecture block)
    (located : block[index]? = some instruction) (active : instruction.kind ≠ .noop) :
    Tracks (seeds taintPointers block) block (index + 1)
      (flowed architecture state instruction) := by
  intro name
  have defined : ∀ operand ∈ instruction.destination.names, operand ∈ operandNames block :=
    fun operand member => List.mem_flatMap.mpr
      ⟨instruction, List.mem_of_getElem? located, List.mem_append_right _ member⟩
  have named : name ∈ instruction.destination → name ≠ "" := named_of_mem
  rw [DefUse.succ_iff located]
  unfold Taint.flowed
  cases carried : instruction.source.intersects (state.expanded architecture) with
  | true =>
      -- Executed or not, the destinations join the tainted names, and nothing leaves them.
      have used := (tracks.intersects_iff settled apart located).mp carried
      have added : name ∈ (state.assignAll architecture true instruction.destination.names).taint ↔
          name ∈ instruction.destination ∨
            DefUse (seeds taintPointers block) block name index := by
        rw [State.mem_taint_assignAll_true, OperandSet.mem_names, tracks name,
          and_iff_left_of_imp named]
      simp only [possibleFlow, flow, carried, if_true, ite_self, added, Redefines]
      by_cases member : name ∈ instruction.destination
      · simp [member, active, used]
      · simp [member]
  | false =>
      have unused := mt (tracks.intersects_iff settled apart located).mpr (by simp [carried])
      -- Only an instruction that certainly executes ends the chains to its destinations.
      by_cases uncertain : instruction.kind = .unpredictable
      · simp only [uncertain, possibleFlow, carried, if_true, Bool.false_eq_true, if_false,
          Redefines, tracks name]
        simp [unused]
      · have removed : name ∈ (state.assignAll architecture false
            instruction.destination.names).taint ↔
            DefUse (seeds taintPointers block) block name index ∧
              name ∉ instruction.destination := by
          rw [State.mem_taint_assignAll_false, tracks name]
          refine and_congr_right fun chain => ?_
          constructor
          · intro uncovered member
            exact uncovered name member (mem_overwritten_self architecture name)
          · intro absent operand member covered
            have same := (mem_overwritten_iff apart chain.mem_operandNames
              (defined operand member)).mp covered
            exact absent (same ▸ member)
        simp only [uncertain, flow, carried, if_false, removed, Redefines]
        simp [active, uncertain, unused]

theorem Run.tracks {processed changed : List Instruction} {final : State}
    (run : Run architecture (.seeded (seeds taintPointers block)) processed changed final)
    (leading : processed <+: block) (flows : ∀ instruction ∈ block, Flows instruction)
    (apart : NamesApart architecture block) :
    Tracks (seeds taintPointers block) block processed.length final := by
  refine run.invariant leading (Tracks (seeds taintPointers block) block)
    (fun _ => DefUse.zero_iff.symm) ?_
  intro index _ state instruction after next reached located tracks stepped
  have settled := reached.settled fun other member => flows other (List.mem_of_mem_take member)
  rcases step?_flows_cases (flows instruction (List.mem_of_getElem? located)) stepped with
    ⟨idle, _, rfl⟩ | ⟨active, _, rfl⟩
  · intro name
    rw [DefUse.succ_iff located, tracks name]
    simp [Redefines, idle]
  · exact tracks.flowed settled apart located active

end

/--
In a block of plain flow whose operands do not overlap and of which nothing has been recorded yet,
an input of an instruction is recorded as tainted exactly if the instruction is not idle and a chain
of definitions and uses leads from a seed to the input.
-/
theorem mem_taintedInput_iff_defUse (architecture : Architecture) (taintPointers : Bool)
    (block : List Instruction) (flows : ∀ instruction ∈ block, Flows instruction)
    (apart : NamesApart architecture block)
    (fresh : ∀ instruction ∈ block, instruction.taintedInput = ∅) (index : Nat)
    (instruction : Instruction) (located : block[index]? = some instruction) (name : Operand)
    (input : name ∈ inputs instruction) :
    ∃ after, (propagate architecture taintPointers block).block[index]? = some after ∧
      (name ∈ after.taintedInput ↔ instruction.kind ≠ .noop ∧
        DefUse (seeds taintPointers block) block name index) := by
  have bound := (List.getElem?_eq_some_iff.mp located).1
  have empty := fresh instruction (List.mem_of_getElem? located)
  obtain ⟨after, found, ⟨changed, state, run, _, recorded⟩ |
      ⟨count, earlier, changed, state, run, dry, rfl⟩⟩ :=
    taintedInput_at architecture taintPointers flows located
  · refine ⟨after, found, ?_⟩
    have tracks := run.tracks (List.take_prefix _ _) flows apart
    rw [List.length_take_of_le (by omega)] at tracks
    have occurs : name ∈ operandNames block := List.mem_flatMap.mpr
      ⟨instruction, List.mem_of_getElem? located, List.mem_append_left _ input⟩
    have settled := run.settled fun other member => flows other (List.mem_of_mem_take member)
    rw [recorded, empty, tracks.mem_expanded settled apart occurs
      (named_of_mem_inputs input)]
    simp [input]
  · refine ⟨after, found, iff_of_false (by simp [empty]) ?_⟩
    rintro ⟨_, chain⟩
    -- The taint has run out at `count`, so no chain passes there.
    have tracks := run.tracks (List.take_prefix _ _) flows apart
    rw [List.length_take_of_le (by omega)] at tracks
    obtain ⟨other, passing⟩ := chain.exists_earlier earlier
    have none_left : state.taint.isEmpty = true := (Bool.and_eq_true_iff.mp dry).1
    exact (OperandSet.isEmpty_iff _).mp none_left other ((tracks other).mpr passing)

def loadCopyClearCopy : List Instruction :=
  [.bare .x86 false .unknown "mov".toList "ecx,dword ptr [eax]".toList,
    .bare .x86 false .unknown "mov".toList "edx,ecx".toList,
    .bare .x86 false .unknown "mov".toList "ecx,10h".toList,
    .bare .x86 false .unknown "mov".toList "esi,ecx".toList]

theorem loadCopyClearCopy_taints_first_copy_only :
    (∃ after, (propagate .x86 false loadCopyClearCopy).block[1]? = some after ∧
        "ecx" ∈ after.taintedInput) ∧
      ¬ DefUse (seeds false loadCopyClearCopy) loadCopyClearCopy "ecx" 3 := by
  have flows : ∀ instruction ∈ loadCopyClearCopy, Flows instruction := by decide +kernel
  have apart : NamesApart .x86 loadCopyClearCopy := by decide +kernel
  have fresh : ∀ instruction ∈ loadCopyClearCopy, instruction.taintedInput = ∅ := by
    decide +kernel
  have recorded := mem_taintedInput_iff_defUse .x86 false loadCopyClearCopy flows apart fresh
  constructor
  · obtain ⟨after, found, exact⟩ := recorded 1 _ rfl "ecx" (by decide +kernel)
    refine ⟨after, found, exact.mpr ⟨by decide +kernel, ?_⟩⟩
    have seeded : DefUse (seeds false loadCopyClearCopy) loadCopyClearCopy "eax" 0 :=
      DefUse.zero_iff.mpr (by decide +kernel)
    exact (DefUse.succ_iff rfl).mpr
      (.inr ⟨by decide +kernel, by decide +kernel, "eax", by decide +kernel, seeded⟩)
  · intro chain
    obtain ⟨after, found, exact⟩ := recorded 3 _ rfl "ecx" (by decide +kernel)
    have absent : ∀ after, (propagate .x86 false loadCopyClearCopy).block[3]? = some after →
        "ecx" ∉ after.taintedInput := by decide +kernel
    exact absent after found (exact.mpr ⟨by decide +kernel, chain⟩)

end FaultTriage.Taint
