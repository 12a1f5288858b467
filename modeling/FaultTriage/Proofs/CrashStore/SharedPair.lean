import FaultTriage.Proofs.CrashStore.Partition
import FaultTriage.Proofs.CrashStore.ReadBack
import FaultTriage.Proofs.Hash.ExcludedFrames

/-!
# Buckets that share their halves

The crashes of a pair of halves are those of every bucket with the pair, and each summary counts
those of its mode.  A summary therefore describes them all exactly if no recording of another mode
has the pair.  Stacks without a frame that counts do share one: both custom hashes leave it at zero.
-/

set_option autoImplicit false

namespace FaultTriage

namespace StackHash

theorem toHashPair_ofFrames_of_excluded {mode : HashMode} {exclusions : ExclusionList}
    {frames : List Frame} (custom : mode ≠ .sha256)
    (excluded : ∀ frame ∈ frames, (hashedFrame exclusions frame).excluded = true) :
    (ofFrames mode exclusions frames).toHashPair = ⟨0, 0⟩ := by
  have unchanged := toHashPair_append_of_leavesOut mode [] excluded
  rw [List.nil_append] at unchanged
  rw [unchanged]
  cases mode with
  | customV1 => rfl
  | customV2 => rfl
  | sha256 => exact absurd rfl custom

end StackHash

namespace CrashStore

/-- A summary describes records: it counts all of them, and they have its mode. -/
def Describes (summary : BucketSummary) (records : List CrashRecord) : Prop :=
  records.length = summary.count ∧ ∀ record ∈ records, record.hashMode = summary.hashMode

theorem map_hashMode_recordsOf (history : List Recording) (pair : HashPair) :
    (recordsOf history pair).map (·.hashMode) =
      (history.filter (·.pair = pair)).map (·.mode.name) := by
  rw [recordsOf, List.map_map]
  exact map_filter_numbered history (·.pair = pair) (·.mode.name)

theorem length_recordsOf (history : List Recording) (pair : HashPair) :
    (recordsOf history pair).length = history.countP (·.pair = pair) := by
  have modes := congrArg List.length (map_hashMode_recordsOf history pair)
  rwa [List.length_map, List.length_map, ← List.countP_eq_length_filter] at modes

theorem forall_hashMode_recordsOf_iff (history : List Recording) (pair : HashPair)
    (name : String) :
    (∀ record ∈ recordsOf history pair, record.hashMode = name) ↔
      ∀ recording ∈ history, recording.pair = pair → recording.mode.name = name := by
  have onModes : (∀ mode ∈ (recordsOf history pair).map (·.hashMode), mode = name) ↔
      ∀ mode ∈ (history.filter (·.pair = pair)).map (·.mode.name), mode = name := by
    rw [map_hashMode_recordsOf]
  rw [List.forall_mem_map, List.forall_mem_map] at onModes
  rw [onModes]
  simp only [List.mem_filter, decide_eq_true_eq, and_imp]

theorem countP_hashMode_recordsOf (history : List Recording) (bucket : Bucket) :
    (recordsOf history bucket.pair).countP (·.hashMode = bucket.mode.name) =
      (summaryOf history bucket).count := by
  have modes := congrArg (List.countP (· = bucket.mode.name))
    (map_hashMode_recordsOf history bucket.pair)
  rw [List.countP_map, List.countP_map, List.countP_filter] at modes
  refine modes.trans (List.countP_congr ?_)
  intro recording _
  obtain ⟨pair, mode⟩ := bucket
  simp [Recording.bucket, HashMode.name_inj, and_comm]

theorem describes_iff (history : List Recording) (bucket : Bucket) :
    Describes (summaryOf history bucket) (recordsOf history bucket.pair) ↔
      ∀ recording ∈ history, recording.pair = bucket.pair →
        recording.mode.name = bucket.mode.name := by
  rw [← forall_hashMode_recordsOf_iff]
  constructor
  · intro describes
    exact describes.2
  · intro sameMode
    refine ⟨?_, sameMode⟩
    -- The summary counts the records of its mode, which are all of them.
    rw [← countP_hashMode_recordsOf, eq_comm, List.countP_eq_length]
    intro record member
    exact decide_eq_true (sameMode record member)

/-- Two modes with the same halves leave both summaries short of a record. -/
theorem not_describes_of_shared_pair {history : List Recording} {recording other : Recording}
    (present : other ∈ history) (samePair : other.pair = recording.pair)
    (otherMode : other.mode ≠ recording.mode) :
    ¬ Describes (summaryOf history recording.bucket) (recordsOf history recording.pair) := by
  intro describes
  have sameName := (describes_iff history recording.bucket).mp describes other present samePair
  exact otherMode (HashMode.name_inj.mp sameName)

/-- The records of a pair are those of all the buckets with the pair. -/
theorem length_recordsOf_eq_sum {history : List Recording} {order : List Bucket}
    (enumerates : Enumerates order history) (pair : HashPair) :
    (recordsOf history pair).length =
      (((order.map (summaryOf history)).filter (·.pair = pair)).map (·.count)).sum := by
  have sum := sum_count_summaries enumerates (·.pair = pair)
  rw [List.filter_map, List.map_map, length_recordsOf]
  exact sum.symm

theorem summary_describes_crashes_iff (history : List Recording) :
    ∃ store ids summaries, ofHistory history = .ok (store, ids) ∧ store.buckets = .ok summaries ∧
      ∀ summary ∈ summaries, ∃ records,
        store.crashesIn summary.pair = .ok records ∧
        records.countP (·.hashMode = summary.hashMode) = summary.count ∧
        records.length = ((summaries.filter (·.pair = summary.pair)).map (·.count)).sum ∧
        (Describes summary records ↔
          ∀ recording ∈ history, recording.pair = summary.pair →
            recording.mode.name = summary.hashMode) := by
  obtain ⟨store, made, kept⟩ := exists_store_ofHistory history
  obtain ⟨order, enumerates, listed, _⟩ := buckets_of_rows kept
  refine ⟨store, _, _, made, listed, ?_⟩
  intro summary member
  obtain ⟨bucket, _, rfl⟩ := List.mem_map.mp member
  exact ⟨recordsOf history bucket.pair, crashesIn_of_rows kept bucket.pair,
    countP_hashMode_recordsOf history bucket, length_recordsOf_eq_sum enumerates bucket.pair,
    describes_iff history bucket⟩

def bareRecording (mode : HashMode) (seconds : Int) : Recording :=
  { report :=
      { architecture := .x86
        faultAddress := 0x401000
        status := .completed
        instructions := []
        finalTaint := .empty
        finalClear := .empty
        stackHash := .ofFrames mode ⟨[]⟩ [] }
    moment := ⟨seconds, 0⟩ }

theorem pair_bareRecording {mode : HashMode} (custom : mode ≠ .sha256) (seconds : Int) :
    (bareRecording mode seconds).pair = ⟨0, 0⟩ :=
  StackHash.toHashPair_ofFrames_of_excluded custom (by simp)

def bareHistory : List Recording :=
  [bareRecording .customV1 1709294400, bareRecording .customV2 1709294401]

theorem bareHistory_shares_pair :
    ∃ store ids first second records, ofHistory bareHistory = .ok (store, ids) ∧
      store.buckets = .ok [first, second] ∧ first.count = 1 ∧ second.count = 1 ∧
      store.crashesIn first.pair = .ok records ∧ store.crashesIn second.pair = .ok records ∧
      records.map (·.hashMode) = ["custom_v1", "custom_v2"] ∧
      ¬ Describes first records ∧ ¬ Describes second records := by
  obtain ⟨store, made, kept⟩ := exists_store_ofHistory bareHistory
  -- The sort does not reduce; the groups are in order before it.
  have sorted : (grouped (rowsOf bareHistory)).mergeSort BucketRows.mayPrecede =
      grouped (rowsOf bareHistory) := List.mergeSort_of_pairwise (by decide +kernel)
  have listed : store.buckets = .ok
      [summaryOf bareHistory ⟨⟨0, 0⟩, .customV1⟩, summaryOf bareHistory ⟨⟨0, 0⟩, .customV2⟩] := by
    rw [buckets, kept, Except.map, sorted]
    refine congrArg Except.ok ?_
    decide +kernel
  have firstPair := pair_bareRecording (by decide : HashMode.customV1 ≠ .sha256) 1709294400
  have secondPair := pair_bareRecording (by decide : HashMode.customV2 ≠ .sha256) 1709294401
  have found := crashesIn_of_rows kept ⟨0, 0⟩
  refine ⟨store, _, _, _, _, made, listed, rfl, rfl, found, found, ?_, ?_, ?_⟩
  · exact map_hashMode_recordsOf bareHistory ⟨0, 0⟩
  · have present : bareRecording .customV2 1709294401 ∈ bareHistory := by simp [bareHistory]
    exact not_describes_of_shared_pair present (secondPair.trans firstPair.symm) (by decide)
  · have present : bareRecording .customV1 1709294400 ∈ bareHistory := by simp [bareHistory]
    exact not_describes_of_shared_pair present (firstPair.trans secondPair.symm) (by decide)

end CrashStore

end FaultTriage
