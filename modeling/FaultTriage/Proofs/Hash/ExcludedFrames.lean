import FaultTriage.Proofs.Hash.MajorHalf

/-!
# Frames that are left out

The first custom hash, the major half of the second one and the minor half of digests go by the
frames that are not left out alone.  The two other halves count places: the second custom hash
weights a displacement by the place of its frame, and digests cover the first places in their major
half.  Below the last frame that is not left out, neither place matters to any half.
-/

set_option autoImplicit false

namespace FaultTriage

namespace ExclusionList

theorem kept_kept (exclusions : ExclusionList) (frames : List Frame) :
    exclusions.kept (exclusions.kept frames) = exclusions.kept frames := by
  simp [kept]

theorem kept_of_leavesOut {exclusions : ExclusionList} {frames : List Frame}
    (leftOut : ∀ frame ∈ frames, exclusions.leavesOut frame = true) :
    exclusions.kept frames = [] := by
  rw [kept, List.filter_eq_nil_iff]
  intro frame member
  simp [leftOut frame member]

theorem kept_append_of_leavesOut {exclusions : ExclusionList} (frames : List Frame)
    {appended : List Frame} (leftOut : ∀ frame ∈ appended, exclusions.leavesOut frame = true) :
    exclusions.kept (frames ++ appended) = exclusions.kept frames := by
  have nothing : exclusions.kept appended = [] := kept_of_leavesOut leftOut
  rw [kept, List.filter_append]
  exact (congrArg _ nothing).trans (List.append_nil _)

end ExclusionList

namespace StackHash

/-! ## Halves that go by the kept frames -/

theorem toHashPair_customV1 (exclusions : ExclusionList) (frames : List Frame) :
    (ofFrames .customV1 exclusions frames).toHashPair =
      (((exclusions.kept frames).map (hashedFrame exclusions)).foldl LaneState.mixFrame
        ⟨⟨0, 0⟩, 0, 0⟩).pair := by
  rw [← exclusions.filter_map_hashedFrame]
  rfl

theorem toHashPair_sha256 (exclusions : ExclusionList) (frames : List Frame) :
    (ofFrames .sha256 exclusions frames).toHashPair =
      { major := majorOfSymbols .sha256 ((topFrames .sha256 exclusions frames).map (·.symbol))
        minor := fold (Sha256.digest
          (((exclusions.kept frames).map (hashedFrame exclusions)).flatMap digestText)) } := by
  rw [← major_ofFrames, ← exclusions.filter_map_hashedFrame]
  rfl

/-! ## Frames at the end -/

theorem mixFrames_of_excluded {frames : List HashedFrame}
    (excluded : ∀ frame ∈ frames, frame.excluded = true) (position counted : Nat)
    (pair : HashPair) : mixFrames position counted pair frames = pair := by
  induction frames generalizing position with
  | nil => rfl
  | cons frame rest ih =>
      obtain ⟨first, others⟩ := List.forall_mem_cons.mp excluded
      rw [mixFrames, if_pos first]
      exact ih others (position + 1)

theorem mixFrames_append_of_excluded (frames : List HashedFrame) {appended : List HashedFrame}
    (excluded : ∀ frame ∈ appended, frame.excluded = true) (position counted : Nat)
    (pair : HashPair) :
    mixFrames position counted pair (frames ++ appended) =
      mixFrames position counted pair frames := by
  induction frames generalizing position counted pair with
  | nil => exact mixFrames_of_excluded excluded position counted pair
  | cons frame rest ih => simp only [List.cons_append, mixFrames, ih]

theorem topFrames_append_of_leavesOut (mode : HashMode) {exclusions : ExclusionList}
    (frames : List Frame) {appended : List Frame}
    (leftOut : ∀ frame ∈ appended, exclusions.leavesOut frame = true) :
    topFrames mode exclusions (frames ++ appended) = topFrames mode exclusions frames := by
  have kept := exclusions.kept_append_of_leavesOut frames leftOut
  cases mode with
  | customV1 => rw [topFrames, topFrames, kept]
  | customV2 => rw [topFrames, topFrames, kept]
  | sha256 =>
      rw [topFrames, topFrames, List.take_append]
      apply exclusions.kept_append_of_leavesOut
      intro frame member
      exact leftOut frame (List.mem_of_mem_take member)

theorem toHashPair_append_of_leavesOut (mode : HashMode) {exclusions : ExclusionList}
    (frames : List Frame) {appended : List Frame}
    (leftOut : ∀ frame ∈ appended, exclusions.leavesOut frame = true) :
    (ofFrames mode exclusions (frames ++ appended)).toHashPair =
      (ofFrames mode exclusions frames).toHashPair := by
  have kept := exclusions.kept_append_of_leavesOut frames leftOut
  cases mode with
  | customV1 => rw [toHashPair_customV1, toHashPair_customV1, kept]
  | customV2 =>
      have excluded : ∀ frame ∈ appended.map (hashedFrame exclusions), frame.excluded = true :=
        List.forall_mem_map.mpr leftOut
      have ended := mixFrames_append_of_excluded (frames.map (hashedFrame exclusions)) excluded
        0 0 ⟨0, 0⟩
      rw [← List.map_append] at ended
      exact ended
  | sha256 =>
      have top := topFrames_append_of_leavesOut .sha256 frames leftOut
      rw [toHashPair_sha256, toHashPair_sha256, top, kept]

/--
The frames that are left out do not contribute to the first custom hash, to the major half of the
second one and to the minor half of digests, wherever they stand.  At the end of a stack they
contribute to no half of any mode.
-/
theorem leftOut_frames_do_not_contribute (exclusions : ExclusionList) (frames : List Frame) :
    (ofFrames .customV1 exclusions (exclusions.kept frames)).toHashPair =
        (ofFrames .customV1 exclusions frames).toHashPair ∧
    (ofFrames .customV2 exclusions (exclusions.kept frames)).major =
        (ofFrames .customV2 exclusions frames).major ∧
    (ofFrames .sha256 exclusions (exclusions.kept frames)).minor =
        (ofFrames .sha256 exclusions frames).minor ∧
    ∀ (mode : HashMode) (appended : List Frame),
      (∀ frame ∈ appended, exclusions.leavesOut frame = true) →
        (ofFrames mode exclusions (frames ++ appended)).toHashPair =
          (ofFrames mode exclusions frames).toHashPair := by
  refine ⟨?firstCustom, ?secondCustom, ?digests, ?atEnd⟩
  case firstCustom => rw [toHashPair_customV1, toHashPair_customV1, exclusions.kept_kept]
  case secondCustom =>
    rw [major_ofFrames, major_ofFrames, topFrames, topFrames, exclusions.kept_kept]
  case digests => rw [toHashPair_sha256, toHashPair_sha256, exclusions.kept_kept]
  case atEnd =>
    intro mode appended leftOut
    exact toHashPair_append_of_leavesOut mode frames leftOut

def verifierStack : List Frame :=
  [.resolved "apvrf" 0x4, .resolved "f" 0x10]

theorem verifierStack_hashed_without_verifier :
    ExclusionList.kept ⟨[]⟩ verifierStack = [.resolved "f" 0x10] ∧
    (ofFrames .customV1 ⟨[]⟩ [.resolved "f" 0x10]).toHashPair =
      (ofFrames .customV1 ⟨[]⟩ verifierStack).toHashPair ∧
    (∀ frame ∈ [Frame.resolved "apvrf" 0x8], ExclusionList.leavesOut ⟨[]⟩ frame = true) ∧
    (ofFrames .sha256 ⟨[]⟩ (verifierStack ++ [.resolved "apvrf" 0x8])).toHashPair =
      (ofFrames .sha256 ⟨[]⟩ verifierStack).toHashPair := by
  have kept : ExclusionList.kept ⟨[]⟩ verifierStack = [.resolved "f" 0x10] := by cbv
  have leftOut : ∀ frame ∈ [Frame.resolved "apvrf" 0x8],
      ExclusionList.leavesOut ⟨[]⟩ frame = true := by
    rw [List.forall_mem_singleton]
    cbv
  obtain ⟨firstCustom, _, _, atEnd⟩ := leftOut_frames_do_not_contribute ⟨[]⟩ verifierStack
  rw [kept] at firstCustom
  exact ⟨kept, firstCustom, leftOut, atEnd .sha256 _ leftOut⟩

end StackHash

end FaultTriage
