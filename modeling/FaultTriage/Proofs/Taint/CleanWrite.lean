import FaultTriage.Proofs.Taint.Frame

/-!
# Clean writes

A clean write notes one name as clean, and drops from the tainted operands what it overwrites.  A
name that the write covers is then suspect only on account of a wider view, which keeps its taint
because some of its bits are not written.  The written name itself is vetoed by its own note.  A
narrower name is not: unless it has a note of its own, it stays suspect although all its bits are
clean.
-/

set_option autoImplicit false

namespace FaultTriage.Taint

open Register

def stepChanges? (architecture : Architecture) (state : State) (instruction : Instruction) :
    Option (List Change) :=
  if instruction.kind = .noop then
    some []
  else
    changes? architecture (state.expanded architecture) state
      (recordInputs (state.expanded architecture) instruction)

def Apart (architecture : Architecture) (changes : List Change) (operand : Operand) : Prop :=
  ∀ other tainted, .write other tainted ∈ changes → other ≠ operand →
    ¬ Overlap architecture other operand

/-- The last write to the operand is clean, and no other operand that is written overlaps it. -/
structure CleansAlone (architecture : Architecture) (changes : List Change) (operand : Operand) :
    Prop where
  cleaned : ∃ past future, changes = past ++ .write operand false :: future ∧
    .write operand true ∉ future
  apart : Apart architecture changes operand

/--
A name that a clean write to another operand leaves suspect: a wider view of that operand is
tainted, and the name has not been noted as clean, or the same instruction has taken that back.
-/
structure LeftSuspect (architecture : Architecture) (state : State) (changes : List Change)
    (written name : Operand) : Prop where
  narrower : name ≠ written
  unvetoed : name ∈ state.clear → .write written true ∈ changes
  wider : ∃ wider, wider ∈ state.taint ∧ written ∈ overwritten architecture wider ∧
    wider ∉ overwritten architecture written

def IsHalf (architecture : Architecture) (name : Operand) : Prop :=
  ∃ family ∈ families architecture, ∃ view ∈ family,
    view.name = name ∧ view.low = 0 ∧ view.high = 16

/-! ## The changes of a step -/

theorem map_snd_step? (architecture : Architecture) (state : State) (instruction : Instruction) :
    (step? architecture state instruction).map Prod.snd =
      (stepChanges? architecture state instruction).map (replay architecture state) := by
  by_cases idle : instruction.kind = .noop
  · rw [step?_of_noop architecture state idle, stepChanges?, if_pos idle]
    rfl
  · rw [step?_of_not_noop architecture state idle, stepChanges?, if_neg idle]
    exact map_snd_transition? architecture _ state _

theorem eq_replay_of_step {architecture : Architecture} {state next : State}
    {instruction after : Instruction} {changes : List Change}
    (stepped : step? architecture state instruction = some (after, next))
    (logged : stepChanges? architecture state instruction = some changes) :
    next = replay architecture state changes := by
  have agreed := map_snd_step? architecture state instruction
  rw [stepped, logged] at agreed
  exact Option.some.inj agreed

/-! ## Names around a written operand -/

section

variable {architecture : Architecture} {changes : List Change} {written name : Operand}

theorem Apart.of_cons {change : Change} (apart : Apart architecture (change :: changes) written) :
    Apart architecture changes written :=
  fun other tainted member => apart other tainted (List.mem_cons_of_mem _ member)

theorem not_mem_overwritten_of_covered {other : Operand}
    (apart : ¬ Overlap architecture other written)
    (covers : name ∈ overwritten architecture written) :
    name ∉ overwritten architecture other := by
  intro covered
  have suspect := mem_marked_comm (mem_marked_of_mem_overwritten covered)
  exact apart (.inr (.inl (mem_marked_of_overwritten_of_marked covers suspect)))

theorem not_mem_overwritten_of_covers {other : Operand}
    (apart : ¬ Overlap architecture other written)
    (covers : written ∈ overwritten architecture name) :
    name ∉ overwritten architecture other := by
  intro covered
  have suspect := mem_marked_of_mem_overwritten covers
  exact apart (.inr (.inr (mem_marked_of_overwritten_of_marked covered suspect)))

theorem sameAt_replay (untouched : ∀ other tainted, .write other tainted ∈ changes →
      name ∉ overwritten architecture other) (state : State) :
    SameAt name state (replay architecture state changes) := by
  induction changes generalizing state with
  | nil => exact .refl name state
  | cons change rest ih =>
      have later := ih fun other tainted member =>
        untouched other tainted (List.mem_cons_of_mem _ member)
      have here : SameAt name state (change.apply architecture state) := by
        cases change with
        | write operand tainted =>
            exact State.sameAt_assign (untouched operand tainted List.mem_cons_self) state tainted
        | push tainted => exact .refl name state
        | drop => exact .refl name state
      exact here.trans (later _)

theorem sameAt_replay_of_wider (apart : Apart architecture changes written)
    (covers : written ∈ overwritten architecture name)
    (wider : name ∉ overwritten architecture written) (state : State) :
    SameAt name state (replay architecture state changes) := by
  refine sameAt_replay (fun other tainted member => ?_) state
  by_cases same : other = written
  · exact same ▸ wider
  · exact not_mem_overwritten_of_covers (apart other tainted member same) covers

/-- Only tainted writes to the operand take back what has been noted of a name that it covers. -/
theorem mem_clear_replay_of_covered (apart : Apart architecture changes written)
    (covers : name ∈ overwritten architecture written) (narrower : name ≠ written) (state : State) :
    name ∈ (replay architecture state changes).clear ↔
      name ∈ state.clear ∧ .write written true ∉ changes := by
  induction changes generalizing state with
  | nil => simp [replay]
  | cons change rest ih =>
      refine (ih apart.of_cons (change.apply architecture state)).trans ?_
      cases change with
      | write operand tainted =>
          by_cases same : operand = written
          · subst same
            cases tainted with
            | true => simp [Change.apply, State.assign, covers]
            | false => simp [Change.apply, State.assign, narrower]
          · have kept := (State.sameAt_assign (not_mem_overwritten_of_covered
              (apart operand tainted List.mem_cons_self same) covers) state tainted).2
            simp [Change.apply, ← kept, Ne.symm same]
      | push tainted => simp [Change.apply]
      | drop => simp [Change.apply]

theorem cleaner_replay_of_covered (apart : Apart architecture changes written)
    (clean : .write written true ∉ changes) (covers : name ∈ overwritten architecture written)
    (state : State) :
    (name ∈ (replay architecture state changes).taint → name ∈ state.taint) ∧
      (name ∈ state.clear → name ∈ (replay architecture state changes).clear) := by
  induction changes generalizing state with
  | nil => exact ⟨id, id⟩
  | cons change rest ih =>
      obtain ⟨notTainted, later⟩ := not_or.mp (mt List.mem_cons.mpr clean)
      obtain ⟨untainted, noted⟩ := ih apart.of_cons later (change.apply architecture state)
      have here : (name ∈ (change.apply architecture state).taint → name ∈ state.taint) ∧
          (name ∈ state.clear → name ∈ (change.apply architecture state).clear) := by
        cases change with
        | write operand value =>
            by_cases same : operand = written
            · subst same
              cases value with
              | true => exact absurd rfl notTainted
              | false =>
                  exact ⟨fun tainted => ((State.mem_side_not_assign _ _ false _ _).mp tainted).1,
                    fun cleared => (State.mem_side_assign _ _ false _ _).mpr (.inr cleared)⟩
            · have kept := State.sameAt_assign (not_mem_overwritten_of_covered
                (apart operand value List.mem_cons_self same) covers) state value
              exact ⟨kept.1.mpr, kept.2.mp⟩
        | push value => exact ⟨id, id⟩
        | drop => exact ⟨id, id⟩
      exact ⟨here.1 ∘ untainted, noted ∘ here.2⟩

theorem CleansAlone.cleaned_replay (cleans : CleansAlone architecture changes written)
    (state : State) :
    (written ≠ "" → written ∈ (replay architecture state changes).clear) ∧
      ∀ name ∈ overwritten architecture written,
        name ∉ (replay architecture state changes).taint := by
  obtain ⟨⟨past, future, rfl, clean⟩, apart⟩ := cleans
  have apartLater : Apart architecture future written := fun other tainted member =>
    apart other tainted (List.mem_append_right _ (List.mem_cons_of_mem _ member))
  rw [replay_append, replay_cons]
  refine ⟨fun named => ?_, fun name covers tainted => ?_⟩
  · refine (cleaner_replay_of_covered apartLater clean (mem_overwritten_self architecture written)
      _).2 ?_
    exact (State.mem_side_assign _ _ false _ _).mpr (.inl ⟨rfl, named⟩)
  · have before := (cleaner_replay_of_covered apartLater clean covers _).1 tainted
    exact ((State.mem_side_not_assign _ _ false _ _).mp before).2 covers

/-- The taint of a wider view is all that can make a covered name suspect after a clean write. -/
theorem CleansAlone.mem_expanded_replay_iff (cleans : CleansAlone architecture changes written)
    (covers : name ∈ overwritten architecture written) (state : State) :
    name ∈ (replay architecture state changes).expanded architecture ↔
      LeftSuspect architecture state changes written name ∨
        (name = stackContents ∧ (replay architecture state changes).stack.hasTainted = true) := by
  obtain ⟨noted, untainted⟩ := cleans.cleaned_replay state
  rw [State.mem_expanded, and_comm (a := _ = true)]
  refine or_congr_left ⟨?_, ?_⟩
  · rintro ⟨⟨source, tainted, suspect⟩, unnoted, named⟩
    have narrower : name ≠ written := fun same => unnoted (same ▸ noted (same ▸ named))
    have outside : source ∉ overwritten architecture written :=
      fun covered => untainted source covered tainted
    -- The source overlaps what the write covers and is not covered itself, so it is a wider view.
    have overlaps := mem_marked_of_overwritten_of_marked covers (mem_marked_comm suspect)
    have wider := (mem_overwritten_of_mem_marked overlaps).resolve_left outside
    refine ⟨narrower, fun earlier => ?_, source, ?_, wider, outside⟩
    · refine Classical.byContradiction fun clean => unnoted ?_
      exact (mem_clear_replay_of_covered cleans.apart covers narrower state).mpr ⟨earlier, clean⟩
    · exact (sameAt_replay_of_wider cleans.apart wider outside state).1.mpr tainted
  · rintro ⟨narrower, unvetoed, wider, tainted, within, outside⟩
    refine ⟨⟨wider, ?_, ?_⟩, fun cleared => ?_, named_of_mem_overwritten covers narrower⟩
    · exact (sameAt_replay_of_wider cleans.apart within outside state).1.mp tainted
    · exact mem_marked_of_overwritten_of_marked within (mem_marked_of_mem_overwritten covers)
    · obtain ⟨earlier, clean⟩ :=
        (mem_clear_replay_of_covered cleans.apart covers narrower state).mp cleared
      exact clean (unvetoed earlier)

theorem LeftSuspect.isHalf {state : State} (left : LeftSuspect architecture state changes written name)
    (covers : name ∈ overwritten architecture written) : IsHalf architecture written := by
  obtain ⟨wider, _, within, outside⟩ := left.wider
  exact half_of_between covers left.narrower within outside

end

/-- A clean write to any other operand than the lower half of a register cleans all it covers. -/
theorem not_mem_expanded_of_cleansAlone {architecture : Architecture} {state next : State}
    {instruction after : Instruction} {changes : List Change} {written name : Operand}
    (stepped : step? architecture state instruction = some (after, next))
    (logged : stepChanges? architecture state instruction = some changes)
    (cleans : CleansAlone architecture changes written)
    (covers : name ∈ overwritten architecture written) (whole : ¬ IsHalf architecture written)
    (register : name ≠ stackContents) : name ∉ next.expanded architecture := by
  rw [eq_replay_of_step stepped logged, cleans.mem_expanded_replay_iff covers state]
  rintro (left | ⟨sentinel, _⟩)
  · exact whole (left.isHalf covers)
  · exact register sentinel

/--
After a step whose only write around an operand is a clean one, a name that the write covers counts
as tainted exactly if it is left suspect, or if it is the stack operand and a tainted value is on
the stack.  An instruction that comes next records the name among its tainted inputs exactly then.
-/
theorem covered_tainted_after_clean_write_iff {architecture : Architecture} {state next : State}
    {instruction after : Instruction} {changes : List Change} {written name : Operand}
    (stepped : step? architecture state instruction = some (after, next))
    (logged : stepChanges? architecture state instruction = some changes)
    (cleans : CleansAlone architecture changes written)
    (covers : name ∈ overwritten architecture written) :
    (name ∈ next.expanded architecture ↔
      LeftSuspect architecture state changes written name ∨
        (name = stackContents ∧ next.stack.hasTainted = true)) ∧
    ∀ reader, name ∈ inputs reader → name ∉ reader.taintedInput →
      (name ∈ (recordInputs (next.expanded architecture) reader).taintedInput ↔
        LeftSuspect architecture state changes written name ∨
          (name = stackContents ∧ next.stack.hasTainted = true)) := by
  have reached := eq_replay_of_step stepped logged
  have exactly := cleans.mem_expanded_replay_iff covers state
  rw [← reached] at exactly
  refine ⟨exactly, fun reader input unrecorded => ?_⟩
  rw [mem_taintedInput_recordInputs, ← exactly]
  simp [unrecorded, input]

def loadClearByte : List Instruction :=
  [.bare .x86 false .unknown "mov".toList "ecx,dword ptr [eax]".toList,
    .bare .x86 false .unknown "mov".toList "cl,0".toList]

def loadedExceptByte : State := (propagate .x86 false loadClearByte).outcome.toState

def clearHalf : Instruction := .bare .x86 false .unknown "mov".toList "cx,0".toList

theorem clearHalf_cleans_noted_byte_only :
    "cl" ∉ (stateAfter .x86 loadedExceptByte clearHalf).expanded .x86 ∧
      "ch" ∈ (stateAfter .x86 loadedExceptByte clearHalf).expanded .x86 := by
  have stepped : step? .x86 loadedExceptByte clearHalf =
      some (clearHalf, stateAfter .x86 loadedExceptByte clearHalf) := by decide +kernel
  have logged : stepChanges? .x86 loadedExceptByte clearHalf = some [.write "cx" false] := by
    decide +kernel
  have cleans : CleansAlone .x86 [.write "cx" false] "cx" := by
    refine ⟨⟨[], [], rfl, List.not_mem_nil⟩, fun other tainted member different => ?_⟩
    cases List.mem_singleton.mp member
    exact absurd rfl different
  constructor
  · intro tainted
    have byte : "cl" ∈ overwritten .x86 "cx" := by decide
    rcases (covered_tainted_after_clean_write_iff stepped logged cleans byte).1.mp tainted with
      left | ⟨sentinel, _⟩
    · have retracted := left.unvetoed (by decide +kernel)
      exact absurd retracted (by decide)
    · exact absurd sentinel (by decide)
  · have upperByte : "ch" ∈ overwritten .x86 "cx" := by decide
    refine (covered_tainted_after_clean_write_iff stepped logged cleans upperByte).1.mpr (.inl ?_)
    exact ⟨by decide, fun noted => absurd noted (by decide +kernel), "ecx", by decide +kernel,
      by decide, by decide⟩

def loadClearHalfCopyByte : List Instruction :=
  [.bare .x86 false .unknown "mov".toList "ecx,dword ptr [eax]".toList, clearHalf,
    .bare .x86 false .unknown "mov".toList "bl,cl".toList]

theorem loadClearHalfCopyByte_reports_clean_byte :
    stepChanges? .x86 (propagate .x86 false (loadClearHalfCopyByte.take 1)).outcome.toState
        clearHalf = some [.write "cx" false] ∧
      "cl" ∈ overwritten .x86 "cx" ∧
      "cl" ∈ (propagate .x86 false (loadClearHalfCopyByte.take 2)).outcome.expanded .x86 ∧
      (propagate .x86 false loadClearHalfCopyByte).block[2]?.map (·.taintedInput.names) =
        some ["cl"] := by
  decide +kernel

end FaultTriage.Taint
