import Mathlib
import FaultTriage.Hash.StackHash

/-!
# What the major half covers

In every mode the major half is made of the symbols of a few top frames in order.  The custom modes
count the frames that are not left out; digests take those that are not left out of the first few.
Displacements enter the minor half only, and so does every frame further down: the state that the
halves share while they are computed is the lane that is next in turn, which the names alone move
on.
-/

set_option autoImplicit false

namespace FaultTriage

namespace ExclusionList

def leavesOut (exclusions : ExclusionList) (frame : Frame) : Bool :=
  exclusions.excludes (frame.symbol.getD StackHash.unknownName)

def kept (exclusions : ExclusionList) (frames : List Frame) : List Frame :=
  frames.filter (!exclusions.leavesOut ·)

theorem filter_map_hashedFrame (exclusions : ExclusionList) (frames : List Frame) :
    (frames.map (StackHash.hashedFrame exclusions)).filter (!·.excluded) =
      (exclusions.kept frames).map (StackHash.hashedFrame exclusions) :=
  List.filter_map

end ExclusionList

namespace StackHash

/-- The frames of a stack whose symbols the major half covers. -/
def topFrames (mode : HashMode) (exclusions : ExclusionList) (frames : List Frame) : List Frame :=
  match mode with
  | .customV1 | .customV2 => (exclusions.kept frames).take majorDepth
  | .sha256 => exclusions.kept (frames.take majorDepth)

/-! ## Top frames in order -/

theorem take_cons_of_top {counted : Nat} (top : counted < majorDepth) (frame : HashedFrame)
    (rest : List HashedFrame) :
    (frame :: rest).take (majorDepth - counted) =
      frame :: rest.take (majorDepth - (counted + 1)) := by
  have depth : majorDepth - counted = majorDepth - (counted + 1) + 1 := by omega
  rw [depth, List.take_succ_cons]

theorem take_of_deep {counted : Nat} (deep : majorDepth ≤ counted) (frames : List HashedFrame) :
    frames.take (majorDepth - counted) = [] := by
  rw [Nat.sub_eq_zero_of_le deep, List.take_zero]

/-! ## First custom hash -/

def inLanes (place : Nat) : List UInt8 → UInt32
  | [] => 0
  | byte :: rest => inLane (UInt32.ofNat (place % 4)) byte ^^^ inLanes (place + 1) rest

theorem inLanes_append (place : Nat) (left right : List UInt8) :
    inLanes place (left ++ right) = inLanes place left ^^^ inLanes (place + left.length) right := by
  induction left generalizing place with
  | nil => simp [inLanes]
  | cons byte left ih =>
      have shifted : place + 1 + left.length = place + (byte :: left).length := by
        simp only [List.length_cons]
        omega
      rw [List.cons_append, inLanes, inLanes, ih, shifted, UInt32.xor_assoc]

theorem lane_succ (place : Nat) :
    (UInt32.ofNat (place % 4) + 1) % 4 = UInt32.ofNat ((place + 1) % 4) := by
  apply UInt32.toNat_inj.mp
  simp only [UInt32.toNat_mod, UInt32.toNat_add, UInt32.toNat_ofNat', UInt32.reduceToNat]
  omega

namespace LaneState

/-- A name moves the lane on by its length and enters the major half only among the top frames. -/
theorem foldl_mixByte (bytes : List UInt8) {state : LaneState} {place : Nat}
    (turn : state.lane = UInt32.ofNat (place % 4)) :
    bytes.foldl mixByte state =
      { pair :=
          { major :=
              if state.counted < majorDepth then state.pair.major ^^^ inLanes place bytes
              else state.pair.major
            minor := state.pair.minor ^^^ inLanes place bytes }
        lane := UInt32.ofNat ((place + bytes.length) % 4)
        counted := state.counted } := by
  induction bytes generalizing state place with
  | nil => simp [inLanes, ← turn]
  | cons byte rest ih =>
      have moved : (state.mixByte byte).lane = UInt32.ofNat ((place + 1) % 4) := by
        rw [mixByte, turn, lane_succ]
      rw [List.foldl_cons, ih moved]
      have later : place + 1 + rest.length = place + (byte :: rest).length := by
        simp only [List.length_cons]
        omega
      by_cases top : state.counted < majorDepth
      · simp only [mixByte, turn, inLanes, later, if_pos top, UInt32.xor_assoc]
      · simp only [mixByte, turn, inLanes, later, if_neg top, UInt32.xor_assoc]

theorem mixFrame_of_lane {state : LaneState} {place : Nat}
    (turn : state.lane = UInt32.ofNat (place % 4)) (frame : HashedFrame) :
    state.mixFrame frame =
      { pair :=
          { major :=
              if state.counted < majorDepth then
                state.pair.major ^^^ inLanes place (laneName frame)
              else state.pair.major
            minor :=
              (laneDisplacement frame).foldl
                (fun minor byte => minor ^^^
                  inLane (UInt32.ofNat ((place + (laneName frame).length) % 4)) byte)
                (state.pair.minor ^^^ inLanes place (laneName frame)) }
        lane := UInt32.ofNat ((place + (laneName frame).length) % 4)
        counted := state.counted + 1 } := by
  rw [mixFrame, foldl_mixByte _ turn]

theorem major_foldl_mixFrame (frames : List HashedFrame) {state : LaneState} {place : Nat}
    (turn : state.lane = UInt32.ofNat (place % 4)) :
    (frames.foldl mixFrame state).pair.major =
      state.pair.major ^^^
        inLanes place ((frames.take (majorDepth - state.counted)).flatMap laneName) := by
  induction frames generalizing state place with
  | nil => simp [inLanes]
  | cons frame rest ih =>
      have mixed := mixFrame_of_lane turn frame
      have moved : (state.mixFrame frame).lane =
          UInt32.ofNat ((place + (laneName frame).length) % 4) := by rw [mixed]
      rw [List.foldl_cons, ih moved, mixed]
      by_cases top : state.counted < majorDepth
      · rw [if_pos top, take_cons_of_top top, List.flatMap_cons, inLanes_append, UInt32.xor_assoc]
      · have deep : majorDepth ≤ state.counted := Nat.le_of_not_lt top
        rw [if_neg top, take_of_deep deep, take_of_deep (Nat.le_succ_of_le deep)]
        rfl

end LaneState

theorem major_customV1 (frames : List HashedFrame) :
    (customV1 frames).major =
      inLanes 0 (((frames.filter (!·.excluded)).take majorDepth).flatMap laneName) := by
  have start : (⟨⟨0, 0⟩, 0, 0⟩ : LaneState).lane = UInt32.ofNat (0 % 4) := rfl
  rw [customV1, LaneState.major_foldl_mixFrame _ start, UInt32.zero_xor]
  rfl

/-! ## Second custom hash -/

theorem major_mixFrames (frames : List HashedFrame) (position counted : Nat) (pair : HashPair) :
    (mixFrames position counted pair frames).major =
      (((frames.filter (!·.excluded)).take (majorDepth - counted)).flatMap
        fun frame => Text.bytes frame.name).foldl rotateMix pair.major := by
  induction frames generalizing position counted pair with
  | nil => simp [mixFrames]
  | cons frame rest ih =>
      cases excluded : frame.excluded with
      | true =>
          simp only [mixFrames, excluded, if_true, ih, List.filter_cons, Bool.not_true,
            Bool.false_eq_true, if_false]
      | false =>
          simp only [mixFrames, excluded, Bool.false_eq_true, if_false, ih, List.filter_cons,
            Bool.not_false, if_true]
          by_cases top : counted < majorDepth
          · rw [if_pos top, take_cons_of_top top, List.flatMap_cons, List.foldl_append]
          · have deep : majorDepth ≤ counted := Nat.le_of_not_lt top
            rw [if_neg top, take_of_deep deep, take_of_deep (Nat.le_succ_of_le deep)]

theorem major_customV2 (frames : List HashedFrame) :
    (customV2 frames).major =
      (((frames.filter (!·.excluded)).take majorDepth).flatMap
        fun frame => Text.bytes frame.name).foldl rotateMix 0 :=
  major_mixFrames frames 0 0 ⟨0, 0⟩

/-! ## The half of a stack -/

def laneSymbol (symbol : Option String) : List UInt8 :=
  match symbol with
  | none => Text.bytes unknownName
  | some name => Text.bytes (String.ofList (Text.lowercase name.toList))

def symbolBytes (symbol : Option String) : List UInt8 :=
  Text.bytes (symbol.getD unknownName)

def majorOfSymbols (mode : HashMode) (symbols : List (Option String)) : UInt32 :=
  match mode with
  | .customV1 => inLanes 0 (symbols.flatMap laneSymbol)
  | .customV2 => (symbols.flatMap symbolBytes).foldl rotateMix 0
  | .sha256 => fold (Sha256.digest (symbols.flatMap symbolBytes))

theorem laneName_hashedFrame (exclusions : ExclusionList) (frame : Frame) :
    laneName (hashedFrame exclusions frame) = laneSymbol frame.symbol := by
  obtain ⟨symbol, displacement⟩ := frame
  cases symbol with
  | none => rfl
  | some name => rfl

theorem major_ofFrames (mode : HashMode) (exclusions : ExclusionList) (frames : List Frame) :
    (ofFrames mode exclusions frames).major =
      majorOfSymbols mode ((topFrames mode exclusions frames).map (·.symbol)) := by
  cases mode with
  | customV1 =>
      have covered := major_customV1 (frames.map (hashedFrame exclusions))
      rw [exclusions.filter_map_hashedFrame, ← List.map_take, List.flatMap_map] at covered
      simp only [laneName_hashedFrame] at covered
      rw [majorOfSymbols, topFrames, List.flatMap_map]
      exact covered
  | customV2 =>
      have covered := major_customV2 (frames.map (hashedFrame exclusions))
      rw [exclusions.filter_map_hashedFrame, ← List.map_take, List.flatMap_map] at covered
      rw [majorOfSymbols, topFrames, List.flatMap_map]
      exact covered
  | sha256 =>
      simp only [ofFrames, pairOf, sha256, majorOfSymbols, topFrames, ← List.map_take,
        exclusions.filter_map_hashedFrame, List.flatMap_map]
      rfl

/-- The symbols of the top frames decide the major half, whatever else two stacks differ in. -/
theorem major_eq_of_same_top_symbols (mode : HashMode) (exclusions : ExclusionList)
    {left right : List Frame}
    (sameSymbols : (topFrames mode exclusions left).map (·.symbol) =
      (topFrames mode exclusions right).map (·.symbol)) :
    (ofFrames mode exclusions left).major = (ofFrames mode exclusions right).major := by
  rw [major_ofFrames, major_ofFrames, sameSymbols]

def verifiedStack : List Frame :=
  [.resolved "f" 0x10, .resolved "apvrf" 0x2, .unknown, .resolved "f" 0x1, .resolved "f" 0x2,
    .resolved "f" 0x3, .resolved "g" 0x4]

def otherStack : List Frame :=
  [.resolved "f" 0x14, .unknown, .resolved "f" 0x8, .resolved "f" 0, .resolved "apvrf" 0x2,
    .resolved "f" 0x9, .resolved "h" 0x4]

theorem verifiedStack_shares_major :
    (topFrames .customV2 ⟨[]⟩ verifiedStack).map (·.symbol) =
      (topFrames .customV2 ⟨[]⟩ otherStack).map (·.symbol) ∧
    (ofFrames .customV2 ⟨[]⟩ verifiedStack).major = (ofFrames .customV2 ⟨[]⟩ otherStack).major := by
  have sameSymbols : (topFrames .customV2 ⟨[]⟩ verifiedStack).map (·.symbol) =
      (topFrames .customV2 ⟨[]⟩ otherStack).map (·.symbol) := by cbv
  exact ⟨sameSymbols, major_eq_of_same_top_symbols .customV2 ⟨[]⟩ sameSymbols⟩

end StackHash

end FaultTriage
