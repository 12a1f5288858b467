import FaultTriage.Proofs.Hash.LetterCase
import FaultTriage.Proofs.Hash.MajorHalf
import FaultTriage.Proofs.Text.HexNumber

/-!
# The first custom hash by places

The first custom hash carries a lane from byte to byte and from frame to frame.  The lane is the
number of bytes of names so far, modulo four, so both halves are sums without carry over the places
of the bytes in the names written one after another.  A displacement has a place of its own, the one
after the last byte of its name.
-/

set_option autoImplicit false

namespace FaultTriage

namespace StackHash

/-! ## Numbers at places -/

def xorOf (numbers : List Nat) : Nat :=
  numbers.foldr (· ^^^ ·) 0

/-- A number in the byte of a word that a place falls on. -/
def atPlace (place number : Nat) : Nat :=
  number * 2 ^ (8 * (place % 4))

/-- Bytes one after another, the first of them at the given place. -/
def atPlacesFrom (place : Nat) (bytes : List UInt8) : Nat :=
  xorOf ((bytes.zipIdx place).map fun placed => atPlace placed.2 placed.1.toNat)

theorem xorOf_append (left right : List Nat) : xorOf (left ++ right) = xorOf left ^^^ xorOf right := by
  induction left with
  | nil => simp [xorOf]
  | cons number left ih =>
      simp only [xorOf, List.cons_append, List.foldr_cons] at ih ⊢
      rw [ih, Nat.xor_assoc]

theorem xor_atPlace (place left right : Nat) :
    atPlace place (left ^^^ right) = atPlace place left ^^^ atPlace place right := by
  simp only [atPlace, ← Nat.shiftLeft_eq, Nat.shiftLeft_xor_distrib]

theorem atPlacesFrom_append (place : Nat) (left right : List UInt8) :
    atPlacesFrom place (left ++ right) =
      atPlacesFrom place left ^^^ atPlacesFrom (place + left.length) right := by
  rw [atPlacesFrom, List.zipIdx_append, List.map_append, xorOf_append]
  rfl

/-! ## Bytes in lanes -/

theorem toNat_lane (place : Nat) : (UInt32.ofNat (place % 4)).toNat = place % 4 := by
  have small : place % 4 < 2 ^ 32 := (Nat.mod_lt place (by decide)).trans (by decide)
  rw [UInt32.toNat_ofNat', Nat.mod_eq_of_lt small]

theorem toNat_lane_mul {lane : UInt32} (bounded : lane.toNat < 4) :
    (lane * 8).toNat = lane.toNat * 8 := by
  simp only [UInt32.toNat_mul, UInt32.reduceToNat]
  omega

theorem toNat_inLane {lane : UInt32} (bounded : lane.toNat < 4) (byte : UInt8) :
    (inLane lane byte).toNat = byte.toNat * 2 ^ (8 * lane.toNat) := by
  have distance : (lane * 8).toNat = 8 * lane.toNat :=
    (toNat_lane_mul bounded).trans (Nat.mul_comm _ 8)
  have within : byte.toNat * 2 ^ (8 * lane.toNat) < 2 ^ 32 := by
    calc byte.toNat * 2 ^ (8 * lane.toNat)
        < 2 ^ 8 * 2 ^ (8 * lane.toNat) := Nat.mul_lt_mul_of_pos_right byte.toNat_lt (by positivity)
      _ = 2 ^ (8 + 8 * lane.toNat) := (Nat.pow_add 2 8 _).symm
      _ ≤ 2 ^ 32 := Nat.pow_le_pow_right (by decide) (by omega)
  have inWord : 8 * lane.toNat % 32 = 8 * lane.toNat := by omega
  rw [inLane, UInt32.toNat_shiftLeft, distance, inWord, UInt8.toNat_toUInt32, Nat.shiftLeft_eq,
    Nat.mod_eq_of_lt within]

theorem toNat_inLane_place (place : Nat) (byte : UInt8) :
    (inLane (UInt32.ofNat (place % 4)) byte).toNat = atPlace place byte.toNat := by
  have bounded : (UInt32.ofNat (place % 4)).toNat < 4 := by
    rw [toNat_lane]
    exact Nat.mod_lt place (by decide)
  rw [toNat_inLane bounded, toNat_lane, atPlace]

theorem toNat_inLanes (place : Nat) (bytes : List UInt8) :
    (inLanes place bytes).toNat = atPlacesFrom place bytes := by
  induction bytes generalizing place with
  | nil => rfl
  | cons byte rest ih =>
      rw [inLanes, UInt32.toNat_xor, toNat_inLane_place, ih]
      rfl

theorem toNat_foldl_inLane (place : Nat) (bytes : List UInt8) (minor : UInt32) :
    (bytes.foldl (fun minor byte => minor ^^^ inLane (UInt32.ofNat (place % 4)) byte) minor).toNat =
      minor.toNat ^^^ atPlace place (xorOf (bytes.map UInt8.toNat)) := by
  induction bytes generalizing minor with
  | nil => simp [xorOf, atPlace]
  | cons byte rest ih =>
      have first : xorOf ((byte :: rest).map UInt8.toNat) =
          byte.toNat ^^^ xorOf (rest.map UInt8.toNat) := rfl
      rw [List.foldl_cons, ih, UInt32.toNat_xor, toNat_inLane_place, Nat.xor_assoc, first,
        xor_atPlace]

/-! ## Names and displacements -/

def countedFrames (frames : List HashedFrame) : List HashedFrame :=
  frames.filter (!·.excluded)

def namesOf (frames : List HashedFrame) : List UInt8 :=
  frames.flatMap laneName

/-- A plus sign and the digits of a displacement modulo `2 ^ 32`, all in one byte. -/
def displacementCode (frame : HashedFrame) : Nat :=
  xorOf (('+' :: Nat.toDigits 16 (frame.displacement.toNat % 2 ^ 32)).map Char.toNat)

/-- The displacements of frames, each at the place after the names up to its own. -/
def displacementsOf (frames : List HashedFrame) : Nat :=
  xorOf (frames.zipIdx.map fun ranked =>
    atPlace (namesOf (frames.take (ranked.2 + 1))).length (displacementCode ranked.1))

theorem map_toNat_bytes {text : String}
    (ascii : ∀ character ∈ text.toList, character.toNat < 0x80) :
    (Text.bytes text).map UInt8.toNat = text.toList.map Char.toNat := by
  rw [Text.bytes_of_ascii ascii, List.map_map]
  apply List.map_congr_left
  intro character member
  have small : character.toNat < 2 ^ 8 := (ascii character member).trans (by decide)
  exact UInt8.toNat_ofNat_of_lt small

theorem xorOf_laneDisplacement (frame : HashedFrame) :
    xorOf ((laneDisplacement frame).map UInt8.toNat) = displacementCode frame := by
  have word : frame.displacement.toUInt32.toNat = frame.displacement.toNat % 2 ^ 32 :=
    UInt64.toNat_toUInt32 frame.displacement
  have denotes := Text.denotes_hexDigits (frame.displacement.toNat % 2 ^ 32)
  have ascii : ∀ character ∈ '+' :: Text.hexDigits (frame.displacement.toNat % 2 ^ 32),
      character.toNat < 0x80 := by
    intro character member
    cases member with
    | head => decide
    | tail _ digit => exact (Text.plain_of_hexValue? (denotes.isDigit character digit)).1
  rw [laneDisplacement, word, map_toNat_bytes (by rwa [String.toList_ofList]),
    String.toList_ofList]
  rfl

theorem displacementsOf_concat (frames : List HashedFrame) (frame : HashedFrame) :
    displacementsOf (frames ++ [frame]) =
      displacementsOf frames ^^^
        atPlace (namesOf (frames ++ [frame])).length (displacementCode frame) := by
  have earlier : (frames.zipIdx.map fun ranked => atPlace
        (namesOf ((frames ++ [frame]).take (ranked.2 + 1))).length (displacementCode ranked.1)) =
      frames.zipIdx.map fun ranked => atPlace
        (namesOf (frames.take (ranked.2 + 1))).length (displacementCode ranked.1) := by
    apply List.map_congr_left
    intro ranked member
    have within := List.snd_lt_of_mem_zipIdx member
    rw [List.take_append_of_le_length (by omega)]
  rw [displacementsOf, List.zipIdx_append, List.map_append, xorOf_append, earlier]
  simp [displacementsOf, xorOf, List.take_of_length_le]

/-! ## The state after some frames -/

namespace LaneState

def start : LaneState := ⟨⟨0, 0⟩, 0, 0⟩

/-- The state after whole frames and the first bytes of the name of the next one. -/
def after (mixed : List HashedFrame) (read : List UInt8) : LaneState :=
  read.foldl mixByte (mixed.foldl mixFrame start)

structure Mixed (frames : List HashedFrame) (state : LaneState) : Prop where
  lane : state.lane = UInt32.ofNat ((namesOf frames).length % 4)
  counted : state.counted = frames.length
  minor : state.pair.minor.toNat = atPlacesFrom 0 (namesOf frames) ^^^ displacementsOf frames

theorem Mixed.mixFrame {frames : List HashedFrame} {state : LaneState} (mixed : Mixed frames state)
    (frame : HashedFrame) : Mixed (frames ++ [frame]) (state.mixFrame frame) := by
  have names : namesOf (frames ++ [frame]) = namesOf frames ++ laneName frame := by
    simp [namesOf]
  have length : (namesOf frames).length + (laneName frame).length =
      (namesOf (frames ++ [frame])).length := by rw [names, List.length_append]
  rw [mixFrame_of_lane mixed.lane]
  constructor
  case lane => rw [length]
  case counted => rw [mixed.counted, List.length_append, List.length_singleton]
  case minor =>
    -- The displacement goes into the lane that its name has led to.
    rw [toNat_foldl_inLane, UInt32.toNat_xor, mixed.minor, toNat_inLanes, length,
      xorOf_laneDisplacement, displacementsOf_concat, names, atPlacesFrom_append, Nat.zero_add]
    ac_rfl

theorem mixed_foldl (frames : List HashedFrame) : Mixed frames (frames.foldl mixFrame start) := by
  induction frames using List.reverseRecOn with
  | nil => exact ⟨rfl, rfl, rfl⟩
  | append_singleton frames frame ih =>
      rw [List.foldl_append]
      exact ih.mixFrame frame

theorem lane_after (mixed : List HashedFrame) (read : List UInt8) :
    (after mixed read).lane.toNat = ((namesOf mixed).length + read.length) % 4 := by
  rw [after, foldl_mixByte read (mixed_foldl mixed).lane, toNat_lane]

theorem counted_after (mixed : List HashedFrame) (read : List UInt8) :
    (after mixed read).counted = mixed.length := by
  rw [after, foldl_mixByte read (mixed_foldl mixed).lane, (mixed_foldl mixed).counted]

structure StaysInWord (state : LaneState) : Prop where
  distance : (state.lane * 8).toNat = state.lane.toNat * 8
  shifted : state.lane.toNat * 8 < 32
  placed : ∀ byte, (inLane state.lane byte).toNat = byte.toNat * 2 ^ (8 * state.lane.toNat)
  turned : (state.lane + 1).toNat = state.lane.toNat + 1

theorem staysInWord_of_lane {state : LaneState} (bounded : state.lane.toNat < 4) :
    StaysInWord state := by
  constructor
  case distance => exact toNat_lane_mul bounded
  case shifted => omega
  case placed => exact toNat_inLane bounded
  case turned =>
    simp only [UInt32.toNat_add, UInt32.reduceToNat]
    omega

end LaneState

/--
The halves of the first custom hash by the places of their bytes.  In every state that the hash goes
through on the way to them, for these frames or any others, the lane and the number of frames are
those of what has been read, and nothing that is computed for a byte leaves the word.
-/
theorem customV1_by_places (frames : List HashedFrame) :
    (customV1 frames).major.toNat = atPlacesFrom 0 (namesOf ((countedFrames frames).take 5)) ∧
    (customV1 frames).minor.toNat =
      atPlacesFrom 0 (namesOf (countedFrames frames)) ^^^ displacementsOf (countedFrames frames) ∧
    customV1 frames = (LaneState.after (countedFrames frames) []).pair ∧
    ∀ (mixed : List HashedFrame) (read : List UInt8),
      (LaneState.after mixed read).lane.toNat = ((namesOf mixed).length + read.length) % 4 ∧
        (LaneState.after mixed read).counted = mixed.length ∧
        (LaneState.after mixed read).StaysInWord := by
  refine ⟨?major, ?minor, rfl, ?loop⟩
  case major =>
    rw [major_customV1, toNat_inLanes]
    rfl
  case minor => exact (LaneState.mixed_foldl (countedFrames frames)).minor
  case loop =>
    intro mixed read
    have lane := LaneState.lane_after mixed read
    have bounded : (LaneState.after mixed read).lane.toNat < 4 := by
      rw [lane]
      exact Nat.mod_lt _ (by decide)
    exact ⟨lane, LaneState.counted_after mixed read, LaneState.staysInWord_of_lane bounded⟩

end StackHash

end FaultTriage
