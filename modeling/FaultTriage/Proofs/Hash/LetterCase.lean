import Mathlib
import FaultTriage.Proofs.Address
import FaultTriage.Proofs.Hash.Wildcard
import FaultTriage.Hash.StackHash

/-!
# Letter case of symbols

Both custom hashes and the exclusion patterns read a symbol without regard to the case of its
letters, each in its own way: as a text in lowercase, byte by byte in lowercase, and by comparing
every byte with one of the pattern.  Within ASCII the three agree.
-/

set_option autoImplicit false

namespace FaultTriage

/-! ## Bytes of ASCII text -/

namespace Text

theorem bytes_of_ascii {text : String}
    (ascii : ∀ character ∈ text.toList, character.toNat < 0x80) :
    bytes text = text.toList.map fun character => UInt8.ofNat character.toNat := by
  have single : ∀ character ∈ text.toList,
      String.utf8EncodeChar character = [UInt8.ofNat character.toNat] := by
    intro character member
    have small : character.val.toNat ≤ 127 := Nat.le_of_lt_succ (ascii character member)
    simp only [String.utf8EncodeChar, if_pos small]
    rfl
  calc bytes text
      = bytes (String.ofList text.toList) := by rw [String.ofList_toList]
    _ = text.toList.flatMap String.utf8EncodeChar := by
        rw [bytes, String.toByteArray_ofList, List.utf8Encode, List.data_toByteArray]
    _ = text.toList.flatMap fun character => [UInt8.ofNat character.toNat] :=
        List.flatMap_congr single
    _ = text.toList.map fun character => UInt8.ofNat character.toNat :=
        List.map_eq_flatMap.symm

theorem asciiLower_eq_toLower {character : Char} (ascii : character.toNat < 0x80) :
    asciiLower character = character.toLower :=
  forall_ascii (fun character => asciiLower character = character.toLower) (by decide) ascii

theorem lowerByte_of_ascii {character : Char} (ascii : character.toNat < 0x80) :
    Glob.lowerByte (UInt8.ofNat character.toNat) = UInt8.ofNat character.toLower.toNat :=
  forall_ascii (fun character =>
    Glob.lowerByte (UInt8.ofNat character.toNat) = UInt8.ofNat character.toLower.toNat)
    (by decide) ascii

structure SameLetters (left right : String) : Prop where
  leftAscii : ∀ character ∈ left.toList, character.toNat < 0x80
  rightAscii : ∀ character ∈ right.toList, character.toNat < 0x80
  letters : left.toList.map Char.toLower = right.toList.map Char.toLower

theorem lowercase_eq_map_toLower {characters : List Char}
    (ascii : ∀ character ∈ characters, character.toNat < 0x80) :
    lowercase characters = characters.map Char.toLower := by
  rw [lowercase_of_ascii characters ascii, asciiLowercase]
  apply List.map_congr_left
  intro character member
  exact asciiLower_eq_toLower (ascii character member)

theorem map_lowerByte_bytes {text : String}
    (ascii : ∀ character ∈ text.toList, character.toNat < 0x80) :
    (bytes text).map Glob.lowerByte =
      (text.toList.map Char.toLower).map fun character => UInt8.ofNat character.toNat := by
  rw [bytes_of_ascii ascii, List.map_map, List.map_map]
  apply List.map_congr_left
  intro character member
  exact lowerByte_of_ascii (ascii character member)

namespace SameLetters

theorem lowercase_eq {left right : String} (same : SameLetters left right) :
    lowercase left.toList = lowercase right.toList := by
  rw [lowercase_eq_map_toLower same.leftAscii, lowercase_eq_map_toLower same.rightAscii,
    same.letters]

theorem map_lowerByte_eq {left right : String} (same : SameLetters left right) :
    (bytes left).map Glob.lowerByte = (bytes right).map Glob.lowerByte := by
  rw [map_lowerByte_bytes same.leftAscii, map_lowerByte_bytes same.rightAscii, same.letters]

end SameLetters

end Text

/-! ## Exclusion patterns -/

namespace Glob

theorem Matches.of_lowered {pattern text : List UInt8} (matched : Matches pattern text)
    {other : List UInt8} (same : other.map lowerByte = text.map lowerByte) :
    Matches pattern other := by
  induction matched generalizing other with
  | nil =>
      rw [List.map_eq_nil_iff.mp same]
      exact .nil
  | run absorbed _ ih =>
      rw [List.map_append] at same
      obtain ⟨before, after, rfl, _, sameAfter⟩ := List.map_eq_append_iff.mp same
      exact .run before (ih sameAfter)
  | any byte _ ih =>
      obtain ⟨first, rest, rfl, _, sameRest⟩ := List.map_eq_cons_iff.mp same
      exact .any first (ih sameRest)
  | letter notStar notQuestion fits _ ih =>
      obtain ⟨first, rest, rfl, sameFirst, sameRest⟩ := List.map_eq_cons_iff.mp same
      exact .letter notStar notQuestion (fits.trans sameFirst.symm) (ih sameRest)

theorem isMatch_of_lowered (pattern : String) {left right : String}
    (same : (Text.bytes left).map lowerByte = (Text.bytes right).map lowerByte) :
    isMatch pattern left = isMatch pattern right := by
  rw [Bool.eq_iff_iff, isMatch_iff, isMatch_iff]
  constructor
  · intro matched
    exact matched.of_lowered same.symm
  · intro matched
    exact matched.of_lowered same

end Glob

theorem ExclusionList.excludes_of_lowered (exclusions : ExclusionList) {left right : String}
    (same : (Text.bytes left).map Glob.lowerByte = (Text.bytes right).map Glob.lowerByte) :
    exclusions.excludes left = exclusions.excludes right := by
  have alike : (fun pattern => Glob.isMatch pattern left) =
      fun pattern => Glob.isMatch pattern right :=
    funext fun pattern => Glob.isMatch_of_lowered pattern same
  rw [excludes, excludes, alike]

/-! ## Frames -/

inductive Frame.SameButCase : Frame → Frame → Prop where
  | unknown (displacement : UInt64) : SameButCase ⟨none, displacement⟩ ⟨none, displacement⟩
  | resolved {left right : String} (displacement : UInt64) :
      Text.SameLetters left right →
      SameButCase ⟨some left, displacement⟩ ⟨some right, displacement⟩

namespace StackHash

/-- Two frames that neither custom hash can tell apart. -/
structure HashedAlike (left right : HashedFrame) : Prop where
  displacement : left.displacement = right.displacement
  excluded : left.excluded = right.excluded
  laneName : laneName left = laneName right
  letters : (Text.bytes left.name).map Glob.lowerByte = (Text.bytes right.name).map Glob.lowerByte

theorem hashedAlike_of_sameButCase (exclusions : ExclusionList) {left right : Frame}
    (same : Frame.SameButCase left right) :
    HashedAlike (hashedFrame exclusions left) (hashedFrame exclusions right) := by
  cases same with
  | unknown displacement => exact ⟨rfl, rfl, rfl, rfl⟩
  | resolved displacement letters =>
      have lowered := letters.map_lowerByte_eq
      refine ⟨rfl, exclusions.excludes_of_lowered lowered, ?_, lowered⟩
      exact congrArg (fun name => Text.bytes (String.ofList name)) letters.lowercase_eq

/-! ## Custom hashes -/

theorem foldl_rotateMix_of_lowered {left right : List UInt8}
    (same : left.map Glob.lowerByte = right.map Glob.lowerByte) (word : UInt32) :
    left.foldl rotateMix word = right.foldl rotateMix word := by
  induction left generalizing right word with
  | nil => rw [List.map_eq_nil_iff.mp same.symm]
  | cons byte left ih =>
      obtain ⟨other, rest, rfl, sameByte, sameRest⟩ := List.map_eq_cons_iff.mp same.symm
      have step : rotateMix word byte = rotateMix word other := by
        rw [rotateMix, rotateMix, sameByte]
      rw [List.foldl_cons, List.foldl_cons, step, ih sameRest.symm]

theorem customV1_of_hashedAlike {left right : List HashedFrame}
    (alike : List.Forall₂ HashedAlike left right) : customV1 left = customV1 right := by
  have mixed : ∀ state : LaneState,
      (left.filter (!·.excluded)).foldl LaneState.mixFrame state =
        (right.filter (!·.excluded)).foldl LaneState.mixFrame state := by
    induction alike with
    | nil => exact fun _ => rfl
    | @cons first other rest others same _ ih =>
        intro state
        have excluded := same.excluded
        cases out : other.excluded with
        | true => simp [excluded, out, ih]
        | false =>
            have step : state.mixFrame first = state.mixFrame other := by
              simp only [LaneState.mixFrame, laneDisplacement, same.laneName, same.displacement]
            simp [excluded, out, step, ih]
  rw [customV1, customV1, mixed]

theorem mixFrames_of_hashedAlike {left right : List HashedFrame}
    (alike : List.Forall₂ HashedAlike left right) (position counted : Nat) (pair : HashPair) :
    mixFrames position counted pair left = mixFrames position counted pair right := by
  induction alike generalizing position counted pair with
  | nil => rfl
  | cons same _ ih =>
      simp only [mixFrames, same.excluded, same.displacement,
        foldl_rotateMix_of_lowered same.letters, ih]

/--
Stacks that differ in the case of letters only have the same custom hashes, and the same frames of
them are left out.
-/
theorem letterCase_does_not_matter (exclusions : ExclusionList) {mode : HashMode}
    (custom : mode ≠ .sha256) {left right : List Frame}
    (same : List.Forall₂ Frame.SameButCase left right) :
    (ofFrames mode exclusions left).toHashPair = (ofFrames mode exclusions right).toHashPair ∧
      (ofFrames mode exclusions left).frames.map (·.excluded) =
        (ofFrames mode exclusions right).frames.map (·.excluded) := by
  have alike : List.Forall₂ HashedAlike (left.map (hashedFrame exclusions))
      (right.map (hashedFrame exclusions)) := by
    rw [List.forall₂_map_left_iff, List.forall₂_map_right_iff]
    exact same.imp fun _ _ frames => hashedAlike_of_sameButCase exclusions frames
  constructor
  · cases mode with
    | customV1 => exact customV1_of_hashedAlike alike
    | customV2 => exact mixFrames_of_hashedAlike alike 0 0 ⟨0, 0⟩
    | sha256 => exact absurd rfl custom
  · have marked : List.Forall₂ Eq
        ((left.map (hashedFrame exclusions)).map (·.excluded))
        ((right.map (hashedFrame exclusions)).map (·.excluded)) := by
      rw [List.forall₂_map_left_iff, List.forall₂_map_right_iff]
      exact alike.imp fun _ _ frames => frames.excluded
    exact List.forall₂_eq_eq_eq ▸ marked

def loudStack : List Frame :=
  [.resolved "LOG" 0x8, .unknown, .resolved "App!F" 0x10]

def quietStack : List Frame :=
  [.resolved "Log" 0x8, .unknown, .resolved "app!f" 0x10]

theorem loudStack_hashed_as_quietStack :
    List.Forall₂ Frame.SameButCase loudStack quietStack ∧
    (ofFrames .customV2 ⟨["l?g"]⟩ loudStack).toHashPair =
      (ofFrames .customV2 ⟨["l?g"]⟩ quietStack).toHashPair ∧
    (ofFrames .customV2 ⟨["l?g"]⟩ loudStack).frames.map (·.excluded) = [true, false, false] := by
  have logging : Text.SameLetters "LOG" "Log" :=
    ⟨by simp, by simp, by decide +kernel⟩
  have faulting : Text.SameLetters "App!F" "app!f" :=
    ⟨by simp, by simp, by decide +kernel⟩
  have same : List.Forall₂ Frame.SameButCase loudStack quietStack :=
    .cons (.resolved 0x8 logging) (.cons (.unknown 0) (.cons (.resolved 0x10 faulting) .nil))
  have marked : (ofFrames .customV2 ⟨["l?g"]⟩ quietStack).frames.map (·.excluded) =
      [true, false, false] := by cbv
  have alike := letterCase_does_not_matter ⟨["l?g"]⟩ (by decide : HashMode.customV2 ≠ .sha256) same
  exact ⟨same, alike.1, alike.2.trans marked⟩

end StackHash

end FaultTriage
