import FaultTriage.Command.Argument
import FaultTriage.CrashStore.Bucket
import FaultTriage.Proofs.Address
import FaultTriage.Proofs.Text.Hex

/-!
# Labels of buckets

A stack hash, a recorded crash and the summary of a bucket show the same label for the same two
halves.  What is typed to ask for a bucket is read more freely than labels are written, but a label,
and a label with blanks around its halves, gives back the halves that it was written for.
-/

set_option autoImplicit false

namespace FaultTriage

namespace HashPair

def WrittenHalf (characters : List Char) : Prop :=
  ∃ digits, characters = '0' :: 'x' :: digits ∧ digits.length = 8 ∧
    ∀ digit ∈ digits, digit ∈ Text.hexAlphabet

def halfText (half : UInt32) : List Char :=
  '0' :: 'x' :: Text.paddedHexDigits 8 half.toNat

theorem label_eq (pair : HashPair) :
    pair.label = String.ofList (halfText pair.major ++ '.' :: halfText pair.minor) := by
  apply String.toList_inj.mp
  simp [label, Text.hexWordText, halfText]

theorem writtenHalf_halfText (half : UInt32) : WrittenHalf (halfText half) := by
  refine ⟨_, rfl, Text.length_paddedHexDigits (by decide) ?_, ?_⟩
  · exact half.toNat_lt
  · exact fun _ member => Text.mem_hexAlphabet_of_mem_paddedHexDigits member

/-! ## Reading a half -/

theorem WrittenHalf.plain {characters : List Char} (isHalf : WrittenHalf characters) :
    ∀ character ∈ characters, character ≠ '.' ∧ Text.isBlank character = false := by
  obtain ⟨digits, rfl, _, written⟩ := isHalf
  have checked : Text.hexAlphabet.all (fun digit => digit != '.' && !Text.isBlank digit) = true := by
    decide
  have plainDigits : ∀ digit ∈ digits, digit ≠ '.' ∧ Text.isBlank digit = false := by
    intro digit member
    simpa using List.all_eq_true.mp checked digit (written digit member)
  simp only [List.forall_mem_cons]
  exact ⟨by decide, by decide, plainDigits⟩

theorem dropHexMarkers_marked {digits : List Char} (unmarked : 'x' ∉ digits) :
    Text.dropHexMarkers ('0' :: 'x' :: digits) = digits := by
  rw [Text.dropHexMarkers]
  unfold Text.dropHexMarkers
  split
  · simp at unmarked
  · rfl

theorem half?_surrounded (half : UInt32) {before after : List Char}
    (blanks : ∀ character ∈ before ++ after, Text.isBlank character = true) :
    half? (before ++ (halfText half ++ after)) = some half := by
  have written := writtenHalf_halfText half
  have unmarked : 'x' ∉ Text.paddedHexDigits 8 half.toNat := fun member =>
    absurd (Text.mem_hexAlphabet_of_mem_paddedHexDigits member) (by decide)
  have read : Text.readHex? halfBound (Text.paddedHexDigits 8 half.toNat) = some half.toNat := by
    refine Text.readHex?_eq_some_iff.mpr ⟨_, .inr rfl, ?_,
      Text.hexNumberFrom?_paddedHexDigits 8 half.toNat, half.toNat_lt⟩
    intro empty
    have length := Text.length_paddedHexDigits (by decide : 0 < 8) half.toNat_lt
    rw [empty] at length
    cases length
  rw [half?, Text.trim_append blanks fun character member => (written.plain character member).2,
    halfText, dropHexMarkers_marked unmarked, read, Option.map_some, UInt32.ofNat_toNat]

theorem parse_surrounded (pair : HashPair) {before after otherBefore otherAfter : List Char}
    (blanks : ∀ character ∈ before ++ after, Text.isBlank character = true)
    (otherBlanks : ∀ character ∈ otherBefore ++ otherAfter, Text.isBlank character = true) :
    parse (String.ofList (before ++ (halfText pair.major ++ after) ++
      '.' :: (otherBefore ++ (halfText pair.minor ++ otherAfter)))) = .ok pair := by
  have undivided : '.' ∉ before ++ (halfText pair.major ++ after) := by
    have point : Text.isBlank '.' ≠ true := by decide
    simp only [List.mem_append, not_or]
    refine ⟨fun member => ?_, fun member => ?_, fun member => ?_⟩
    · exact point (blanks _ (List.mem_append_left _ member))
    · exact ((writtenHalf_halfText pair.major).plain _ member).1 rfl
    · exact point (blanks _ (List.mem_append_right _ member))
  rw [parse, String.toList_ofList, Text.splitFirst?_append undivided]
  simp only [half?_surrounded _ blanks, half?_surrounded _ otherBlanks]

theorem parse_label (pair : HashPair) : parse pair.label = .ok pair := by
  have noBlanks : ∀ character ∈ ([] ++ [] : List Char), Text.isBlank character = true := by simp
  have read := parse_surrounded pair noBlanks noBlanks
  simpa [label_eq] using read

/-! ## Labels -/

/--
The label that a stack hash, a recorded crash and a summary show for two halves is made of the two
halves with eight digits each.  It is read back as these halves, with or without blanks around each
of them, and no other halves have it.
-/
theorem labels_round_trip (pair : HashPair) :
    ((∀ hash : StackHash, { hash with toHashPair := pair }.label = pair.label) ∧
      (∀ crash : CrashRecord, { crash with pair := pair }.bucket = pair.label) ∧
      ∀ summary : BucketSummary, { summary with pair := pair }.bucket = pair.label) ∧
    (pair.label = String.ofList (halfText pair.major ++ '.' :: halfText pair.minor) ∧
      WrittenHalf (halfText pair.major) ∧ WrittenHalf (halfText pair.minor)) ∧
    parse pair.label = .ok pair ∧
    (∀ before after otherBefore otherAfter : List Char,
      (∀ character ∈ before ++ after, Text.isBlank character = true) →
      (∀ character ∈ otherBefore ++ otherAfter, Text.isBlank character = true) →
      parse (String.ofList (before ++ (halfText pair.major ++ after) ++
        '.' :: (otherBefore ++ (halfText pair.minor ++ otherAfter)))) = .ok pair) ∧
    ∀ other : HashPair, other.label = pair.label → other = pair := by
  refine ⟨⟨fun _ => rfl, fun _ => rfl, fun _ => rfl⟩, ?form, parse_label pair, ?surrounded,
    ?injective⟩
  case form =>
    exact ⟨label_eq pair, writtenHalf_halfText pair.major, writtenHalf_halfText pair.minor⟩
  case surrounded =>
    intro before after otherBefore otherAfter blanks otherBlanks
    exact parse_surrounded pair blanks otherBlanks
  case injective =>
    intro other same
    have read := parse_label other
    rw [same, parse_label] at read
    exact (Except.ok.inj read).symm

theorem blanksAroundHalves_read_back :
    parse "\t0x0000000a .0xffffffff\u2003" = .ok ⟨0xA, 0xFFFFFFFF⟩ := by
  have text : "\t0x0000000a .0xffffffff\u2003" =
      String.ofList (['\t'] ++ (halfText 0xA ++ [' ']) ++
        '.' :: ([] ++ (halfText 0xFFFFFFFF ++ ['\u2003']))) := by decide +kernel
  have read := (labels_round_trip ⟨0xA, 0xFFFFFFFF⟩).2.2.2.1 ['\t'] [' '] [] ['\u2003']
    (List.all_eq_true.mp (by decide)) (List.all_eq_true.mp (by decide))
  rw [text]
  exact read

end HashPair

end FaultTriage
