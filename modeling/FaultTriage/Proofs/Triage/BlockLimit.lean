import FaultTriage.Proofs.Taint.Causality
import FaultTriage.Proofs.Triage.Block
import FaultTriage.Triage.Listing
import FaultTriage.Triage.Report

/-!
# A smaller block limit cuts a report short

Neither the block nor the taint in it looks ahead, so the report with a smaller limit is the
beginning of the report with a larger one.  The limit does not decide whether there is a report, as
long as it asks for one instruction at least.
-/

set_option autoImplicit false

namespace FaultTriage

namespace Block

theorem extend_of_le {smaller larger : Nat} (ordered : smaller ≤ larger) (host : Host)
    (flagsValid : Bool) (address : Option Address) :
    extend host smaller flagsValid address =
      (extend host larger flagsValid address).take smaller := by
  induction smaller generalizing larger flagsValid address with
  | zero => simp [extend]
  | succ smaller ih =>
      obtain ⟨further, rfl⟩ := Nat.exists_eq_add_of_lt ordered
      cases address with
      | none => simp [extend_none]
      | some address =>
          cases shown : instructionAt host flagsValid address with
          | error error => simp [extend, shown]
          | ok instruction =>
              simp only [extend, shown, List.take_succ_cons]
              rw [ih (Nat.le_add_right smaller further)]

theorem build_of_le {smaller larger : Nat} (positive : 1 ≤ smaller) (ordered : smaller ≤ larger)
    (host : Host) (start : Address) :
    build host smaller start = (build host larger start).map (List.take smaller) := by
  cases smaller with
  | zero => cases positive
  | succ smaller =>
      cases larger with
      | zero => cases ordered
      | succ larger =>
          cases shown : instructionAt host host.flags.valid start with
          | error error => simp [build, shown, Except.map]
          | ok instruction =>
              simp only [build, shown, Except.map, List.take_succ_cons]
              rw [extend_of_le (Nat.le_of_succ_le_succ ordered)]

end Block

namespace Taint

/-- A pass over fewer instructions halts where the longer one does, if it gets that far. -/
theorem outcome_propagate_take {architecture : Architecture} {taintPointers : Bool}
    {block : List Instruction} {index count : Nat}
    (stopped : (propagate architecture taintPointers block).outcome.status.index? = some index)
    (within : index < count) :
    (propagate architecture taintPointers (block.take count)).outcome =
      (propagate architecture taintPointers block).outcome := by
  obtain ⟨processed, changed, unprocessed, left, final, status, rfl, run, halt, passed⟩ :=
    propagate_eq architecture taintPointers block
  rw [passed] at stopped ⊢
  have reached : processed.length = index := by
    cases halt with
    | completed => cases stopped
    | exhausted => exact Option.some.inj stopped
    | unsupported => exact Option.some.inj stopped
  have beyond : 0 < count - processed.length := by omega
  have whole : processed.take count = processed := List.take_of_length_le (by omega)
  rw [propagate, seeds_take _ _ (by omega), List.take_append, whole,
    run.walk_eq (halt.take beyond), Nat.zero_add]

theorem status_propagate_take {architecture : Architecture} {taintPointers : Bool}
    {block : List Instruction} {count : Nat}
    (unreached : ∀ index,
      (propagate architecture taintPointers block).outcome.status.index? = some index →
        count ≤ index) :
    (propagate architecture taintPointers (block.take count)).outcome.status = .completed := by
  rcases Nat.eq_zero_or_pos count with rfl | positive
  · rfl
  obtain ⟨processed, changed, unprocessed, left, final, status, rfl, run, halt, passed⟩ :=
    propagate_eq architecture taintPointers block
  rw [passed] at unreached
  have taken : (processed ++ unprocessed).take count = processed.take count := by
    cases halt with
    | completed => rw [List.append_nil]
    | exhausted => exact List.take_append_of_le_length (unreached _ rfl)
    | unsupported => exact List.take_append_of_le_length (unreached _ rfl)
  obtain ⟨state, shorter⟩ := run.take (Nat.min_le_right count processed.length)
  have walked := shorter.walk_eq .completed 0
  rw [List.append_nil, ← List.take_eq_take_min] at walked
  rw [propagate, seeds_take _ _ positive, taken, walked]

end Taint

namespace TriageReport

/--
With a smaller limit the report has fewer instructions and is otherwise the same, up to the status
of a pass that is cut off before it stops.  Triage fails for the same reason with both limits.
-/
theorem ofCrash_of_le_limit (host : Host) (faultAddress : Address) (frames : List Frame)
    (config : AnalysisConfig) {smaller larger : UInt64} (positive : 1 ≤ smaller)
    (ordered : smaller ≤ larger) :
    (∀ error,
      ofCrash host faultAddress frames { config with maxBlockInstructions := smaller } =
          .error error ↔
        ofCrash host faultAddress frames { config with maxBlockInstructions := larger } =
          .error error) ∧
    ∀ long,
      ofCrash host faultAddress frames { config with maxBlockInstructions := larger } = .ok long →
      ∃ short,
        ofCrash host faultAddress frames { config with maxBlockInstructions := smaller } =
          .ok short ∧
        short.instructions =
          long.instructions.take (min smaller.toNat long.instructions.length) ∧
        short.stackHash = long.stackHash ∧
        (∀ index, long.status.index? = some index → index < smaller.toNat →
          short.status = long.status) ∧
        ((∀ index, long.status.index? = some index → smaller.toNat ≤ index) →
          short.status = .completed) := by
  have built := Block.build_of_le (UInt64.le_iff_toNat_le.mp positive)
    (UInt64.le_iff_toNat_le.mp ordered) host faultAddress
  simp only [ofCrash, built]
  cases Block.build host larger.toNat faultAddress with
  | error error =>
      constructor
      · intro cause
        rfl
      · intro long impossible
        cases impossible
  | ok block =>
      constructor
      · intro cause
        constructor <;> intro impossible <;> cases impossible
      · intro long made
        cases made
        refine ⟨_, rfl, ?_, rfl, ?_, ?_⟩
        · simp only [Taint.block_propagate_take, List.map_take]
          rw [← List.take_eq_take_min]
        · intro index stopped within
          exact congrArg (·.status) (Taint.outcome_propagate_take stopped within)
        · intro unreached
          exact Taint.status_propagate_take unreached

def copyClearBothListing : Listing :=
  { lines :=
      [(0x1000, "00001000 8bc8 mov ecx,eax"), (0x1002, "00001002 b800000000 mov eax,0"),
        (0x1007, "00001007 b900000000 mov ecx,0"), (0x100c, "0000100c 8bd3 mov edx,ebx"),
        (0x100e, "0000100e 8bf2 mov esi,edx")]
    symbols := [] }

theorem copyClearBoth_cut_after_exhaustion :
    (1 : UInt64) ≤ 4 ∧ (4 : UInt64) ≤ 5 ∧ ∃ long short,
      ofCrash (copyClearBothListing.toHost .x86 .unknown) 0x1000 []
        { AnalysisConfig.standard with maxBlockInstructions := 5 } = .ok long ∧
      ofCrash (copyClearBothListing.toHost .x86 .unknown) 0x1000 []
        { AnalysisConfig.standard with maxBlockInstructions := 4 } = .ok short ∧
      long.instructions.length = 5 ∧ long.status = .exhausted 3 ∧
      short.instructions = long.instructions.take 4 ∧ short.status = .exhausted 3 := by
  have positive : (1 : UInt64) ≤ 4 := by decide
  have ordered : (4 : UInt64) ≤ 5 := by decide
  have full : (ofCrash (copyClearBothListing.toHost .x86 .unknown) 0x1000 []
      { AnalysisConfig.standard with maxBlockInstructions := 5 }).toOption.map
        (fun report => (report.instructions.length, report.status)) = some (5, .exhausted 3) := by
    decide +kernel
  cases made : ofCrash (copyClearBothListing.toHost .x86 .unknown) 0x1000 []
      { AnalysisConfig.standard with maxBlockInstructions := 5 } with
  | error error =>
      rw [made] at full
      cases full
  | ok long =>
      rw [made] at full
      simp only [Except.toOption, Option.map_some, Option.some.injEq, Prod.mk.injEq] at full
      obtain ⟨length, status⟩ := full
      obtain ⟨short, cut, instructions, _, sameStatus, _⟩ :=
        (ofCrash_of_le_limit _ _ _ _ positive ordered).2 long made
      refine ⟨positive, ordered, long, short, rfl, cut, length, status, ?_, ?_⟩
      · rw [instructions, length]
        rfl
      · rw [sameStatus 3 (by rw [status]; rfl) (by decide), status]

end TriageReport

end FaultTriage
