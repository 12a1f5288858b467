import FaultTriage.Proofs.Hash.FrameText

/-!
# Texts of addresses

An address may be written with zeros in front, in either letter case, after a marker and with marks
between its digits.  Both readers give it back.  What they refuse has a number that is no address, no
digit at all, or a character that is no digit where the digits have to stand.

The marks go first: only then is a marker looked for, so that a mark may also part a marker.
-/

set_option autoImplicit false

namespace FaultTriage

namespace Text

structure Unpadded (text : List Char) : Prop where
  starts : ∀ character ∈ text.head?, isBlank character = false
  ends : ∀ character ∈ text.getLast?, isBlank character = false

theorem Unpadded.trim_eq {text : List Char} (unpadded : Unpadded text) : trim text = text := by
  rw [trim, trimStart_of_solid unpadded.starts, trimEnd_of_solid unpadded.ends]

theorem unpadded_of_all {text : List Char} (solid : text.all (!isBlank ·) = true) :
    Unpadded text := by
  have noBlank : ∀ character ∈ text, isBlank character = false := by simpa using solid
  constructor
  · exact fun character member => noBlank character (List.mem_of_mem_head? member)
  · exact fun character member => noBlank character (List.mem_of_getLast? member)

end Text

namespace Address

/-! ## Marks -/

/-- Digits, and a text that has marks inserted anywhere among them. -/
inductive Marked : List Char → List Char → Prop where
  | nil : Marked [] []
  | digit {digits text : List Char} (character : Char) :
      Marked digits text → Marked (character :: digits) (character :: text)
  | mark {digits text : List Char} : Marked digits text → Marked digits (halfMark :: text)

def unmarked (text : List Char) : List Char :=
  text.filter (· != halfMark)

/-- What has to be the digits of an address: the marks, one marker and one plus sign are gone. -/
def numeral (text : List Char) : List Char :=
  Text.dropSign (Text.dropHexMarker (unmarked text))

theorem marked_unmarked (text : List Char) : Marked (unmarked text) text := by
  induction text with
  | nil => exact .nil
  | cons character text ih =>
      by_cases mark : character = halfMark
      · rw [mark, unmarked, List.filter_cons_of_neg (by simp)]
        exact .mark ih
      · rw [unmarked, List.filter_cons_of_pos (by simpa using mark)]
        exact .digit character ih

theorem Marked.unmarked_eq {digits text : List Char} (marked : Marked digits text)
    (noMark : halfMark ∉ digits) : unmarked text = digits := by
  induction marked with
  | nil => rfl
  | digit character _ ih =>
      rw [List.mem_cons, not_or] at noMark
      rw [unmarked, List.filter_cons_of_pos (by simpa using Ne.symm noMark.1)]
      exact congrArg (character :: ·) (ih noMark.2)
  | mark _ ih =>
      rw [unmarked, List.filter_cons_of_neg (by simp)]
      exact ih noMark

theorem Marked.solid {digits text : List Char} (marked : Marked digits text)
    (solid : ∀ character ∈ digits, Text.isBlank character = false) :
    ∀ character ∈ text, Text.isBlank character = false := by
  induction marked with
  | nil => exact solid
  | digit character _ ih =>
      rw [List.forall_mem_cons] at solid ⊢
      exact ⟨solid.1, ih solid.2⟩
  | mark _ ih =>
      rw [List.forall_mem_cons]
      exact ⟨by decide, ih solid⟩

theorem unmarked_marker {marker : List Char} (isMarker : Frame.IsMarker marker) :
    unmarked marker = marker := by
  cases isMarker with
  | missing => rfl
  | present => decide

theorem numeral_append {marker digits body : List Char} {number : Nat}
    (isMarker : Frame.IsMarker marker) (denotes : Text.Denotes digits number)
    (marked : Marked digits body) : numeral (marker ++ body) = digits := by
  have whole : unmarked (marker ++ body) = marker ++ digits := by
    rw [unmarked, List.filter_append]
    exact congrArg₂ (· ++ ·) (unmarked_marker isMarker)
      (marked.unmarked_eq (denotes.not_mem (by decide)))
  rw [numeral, whole, Frame.dropHexMarker_append isMarker denotes,
    Text.dropSign_of_unsigned (denotes.not_mem (by decide))]

/-! ## What is read -/

theorem parse?_eq_some_iff {text : List Char} {address : Address} :
    parse? text = some address ↔ Text.Denotes (numeral text) address.toNat :=
  Text.map_readHex?_eq_some_iff

theorem parseArgument_eq_ok_iff {text : String} {address : Address} :
    parseArgument text = .ok address ↔ parse? (Text.trim text.toList) = some address := by
  rw [parseArgument, parse?]
  cases ofDigits? (Text.trim text.toList) with
  | none => simp
  | some read => simp

theorem parseArgument_eq_error_iff {text : String} :
    parseArgument text = .error ⟨text⟩ ↔ parse? (Text.trim text.toList) = none := by
  rw [parseArgument, parse?]
  cases ofDigits? (Text.trim text.toList) with
  | none => simp
  | some read => simp

theorem solid_append {marker digits body : List Char} {number : Nat}
    (isMarker : Frame.IsMarker marker) (denotes : Text.Denotes digits number)
    (marked : Marked digits body) :
    ∀ character ∈ marker ++ body, Text.isBlank character = false := by
  rw [List.forall_mem_append]
  refine ⟨?_, marked.solid fun character member => ?_⟩
  · cases isMarker with
    | missing => simp
    | present =>
        rw [List.forall_mem_cons, List.forall_mem_singleton]
        decide
  · exact (Text.plain_of_hexValue? (denotes.isDigit character member)).2

/-! ## What is refused -/

inductive Refused (text : List Char) : Prop where
  | tooLarge {number : Nat} :
      Text.Renders (Text.digitsOf text) number → bound ≤ number → Refused text
  | noDigit :
      (∀ character ∈ Text.dropHexMarker (unmarked text), Text.hexValue? character = none) →
      Refused text
  | stray {character : Char} :
      character ∈ numeral text → Text.hexValue? character = none → Refused text

theorem digitsOf_unmarked (text : List Char) :
    Text.digitsOf (unmarked text) = Text.digitsOf text := by
  rw [Text.digitsOf, unmarked, List.filter_filter, Text.digitsOf]
  refine List.filter_congr fun character _ => ?_
  by_cases mark : character = halfMark
  · subst mark
    decide
  · simp [mark]

/-- The digits of a text are those of its numeral, but for the zero of a marker. -/
theorem digitsOf_eq_numeral (text : List Char) :
    Text.digitsOf text = Text.digitsOf (numeral text) ∨
      Text.digitsOf text = '0' :: Text.digitsOf (numeral text) := by
  obtain ⟨marker, isMarker, whole⟩ := Frame.exists_marker_append (unmarked text)
  rw [← digitsOf_unmarked text, numeral, Text.digitsOf_dropSign]
  generalize Text.dropHexMarker (unmarked text) = rest at whole ⊢
  rw [whole, Text.digitsOf_append]
  cases isMarker with
  | missing => exact .inl rfl
  | present => exact .inr rfl

theorem denotes_digitsOf {text : List Char} {number : Nat}
    (denotes : Text.Denotes (numeral text) number) :
    Text.Denotes (Text.digitsOf text) number := by
  rcases digitsOf_eq_numeral text with same | zero
  · rwa [same, denotes.digitsOf_eq]
  · rw [zero, denotes.digitsOf_eq]
    exact denotes.zero_cons

theorem Refused.parse?_eq_none {text : List Char} (refused : Refused text) :
    parse? text = none := by
  rw [Option.eq_none_iff_forall_ne_some]
  intro address parsed
  have denotes := parse?_eq_some_iff.mp parsed
  cases refused with
  | tooLarge rendered large =>
      have same := (Text.renders_iff_denotes.mp rendered).unique (denotes_digitsOf denotes)
      exact absurd address.toNat_lt (Nat.not_lt.mpr (same ▸ large))
  | noDigit none =>
      obtain ⟨first, member⟩ := List.exists_mem_of_ne_nil _ denotes.1
      have isDigit := denotes.isDigit first member
      rw [none first (Text.mem_of_mem_dropSign member)] at isDigit
      cases isDigit
  | stray member other => exact denotes.not_mem other member

theorem refused_of_parse?_eq_none {text : List Char} (unread : parse? text = none) :
    Refused text := by
  -- Without another character in it the numeral is empty, or it denotes a number.
  by_cases areDigits : ∀ character ∈ numeral text, (Text.hexValue? character).isSome
  · by_cases empty : numeral text = []
    · refine .noDigit ?_
      rcases Text.eq_cons_dropSign_or (Text.dropHexMarker (unmarked text)) with signed | unsigned
      · rw [signed, ← numeral, empty, List.forall_mem_singleton]
        decide
      · rw [unsigned, ← numeral, empty]
        simp
    · obtain ⟨number, denotes⟩ := Text.exists_denotes empty areDigits
      have rendered := Text.renders_iff_denotes.mpr (denotes_digitsOf denotes)
      refine .tooLarge rendered (Nat.le_of_not_lt fun bounded => ?_)
      have parsed : parse? text = some (UInt64.ofNat number) := by
        rwa [parse?_eq_some_iff, UInt64.toNat_ofNat_of_lt' bounded]
      rw [unread] at parsed
      cases parsed
  · push Not at areDigits
    obtain ⟨character, member, other⟩ := areDigits
    exact .stray member (Option.not_isSome_iff_eq_none.mp other)

theorem parse?_eq_none_iff {text : List Char} : parse? text = none ↔ Refused text :=
  ⟨refused_of_parse?_eq_none, Refused.parse?_eq_none⟩

/-! ## Both readers -/

/--
Every text that renders an address, with marks inserted anywhere among the digits and after a marker
or none, is read as this address, also as an argument with blanks around it.  A text without blanks
at its ends is refused, as a field and as an argument, exactly if its digits denote no 64-bit word, if
it has none behind the marker, or if another character stands among them; all else is read alike.
-/
theorem renderings_read_others_refused :
    (∀ (address : Address) (marker digits body : List Char), Frame.IsMarker marker →
      Text.Renders digits address.toNat → Marked digits body →
      parse? (marker ++ body) = some address ∧
        ∀ before after : List Char,
          (∀ character ∈ before ++ after, Text.isBlank character = true) →
          parseArgument (String.ofList (before ++ ((marker ++ body) ++ after))) = .ok address) ∧
    ∀ text : List Char, Text.Unpadded text →
      (parse? text = none ↔ Refused text) ∧
      (parseArgument (String.ofList text) = .error ⟨String.ofList text⟩ ↔ Refused text) ∧
      ∀ address, parseArgument (String.ofList text) = .ok address ↔ parse? text = some address := by
  refine ⟨?read, ?others⟩
  case read =>
    intro address marker digits body isMarker rendered marked
    have denotes := Text.renders_iff_denotes.mp rendered
    have parsed : parse? (marker ++ body) = some address := by
      rwa [parse?_eq_some_iff, numeral_append isMarker denotes marked]
    refine ⟨parsed, fun before after blanks => ?_⟩
    rw [parseArgument_eq_ok_iff, String.toList_ofList,
      Text.trim_append blanks (solid_append isMarker denotes marked), parsed]
  case others =>
    intro text unpadded
    have trimmed : Text.trim (String.ofList text).toList = text := by
      rw [String.toList_ofList, unpadded.trim_eq]
    refine ⟨parse?_eq_none_iff, ?_, fun address => ?_⟩
    · rw [parseArgument_eq_error_iff, trimmed, parse?_eq_none_iff]
    · rw [parseArgument_eq_ok_iff, trimmed]

theorem highestAddress_read_back :
    (Frame.IsMarker "0x".toList ∧
      Text.Renders "00ffffffffFFFFFFFF".toList (0xFFFFFFFFFFFFFFFF : Address).toNat ∧
      Marked "00ffffffffFFFFFFFF".toList "00`ffffffff`FFFFFFFF".toList) ∧
    parse? "0x00`ffffffff`FFFFFFFF".toList = some 0xFFFFFFFFFFFFFFFF ∧
    parseArgument "\t0x00`ffffffff`FFFFFFFF\u2003" = .ok 0xFFFFFFFFFFFFFFFF ∧
    Text.Unpadded "1`0000000000000000".toList ∧ Refused "1`0000000000000000".toList ∧
    parse? "1`0000000000000000".toList = none ∧
    parseArgument "1`0000000000000000" = .error ⟨"1`0000000000000000"⟩ := by
  have isMarker : Frame.IsMarker "0x".toList := .present
  have rendered :
      Text.Renders "00ffffffffFFFFFFFF".toList (0xFFFFFFFFFFFFFFFF : Address).toNat :=
    ⟨2, by decide +kernel⟩
  have marked : Marked "00ffffffffFFFFFFFF".toList "00`ffffffff`FFFFFFFF".toList := by
    have inserted := marked_unmarked "00`ffffffff`FFFFFFFF".toList
    rwa [show unmarked "00`ffffffff`FFFFFFFF".toList = "00ffffffffFFFFFFFF".toList by
      decide +kernel] at inserted
  have unpadded : Text.Unpadded "1`0000000000000000".toList :=
    Text.unpadded_of_all (by decide +kernel)
  have renderedNext : Text.Renders (Text.digitsOf "1`0000000000000000".toList)
      0x10000000000000000 := ⟨0, by decide +kernel⟩
  have refused : Refused "1`0000000000000000".toList := .tooLarge renderedNext (by decide)
  obtain ⟨read, others⟩ := renderings_read_others_refused
  obtain ⟨parsed, surrounded⟩ := read 0xFFFFFFFFFFFFFFFF _ _ _ isMarker rendered marked
  obtain ⟨unread, reported, _⟩ := others "1`0000000000000000".toList unpadded
  refine ⟨⟨isMarker, rendered, marked⟩, ?_, ?_, unpadded, refused, unread.mpr refused, ?_⟩
  · exact parsed
  · exact surrounded ['\t'] ['\u2003'] (List.all_eq_true.mp (by decide))
  · exact reported.mpr refused

/-- A mark may part the marker, though the letter of the marker is neither a digit nor a mark. -/
theorem partedMarker_read :
    Text.Unpadded "0`x10".toList ∧
      ('x' ∈ Text.dropSign (Text.dropHexMarker "0`x10".toList) ∧ Text.hexValue? 'x' = none ∧
        'x' ≠ halfMark) ∧
      parse? "0`x10".toList = some 0x10 ∧ parseArgument "0`x10" = .ok 0x10 := by
  have unpadded : Text.Unpadded "0`x10".toList := Text.unpadded_of_all (by decide +kernel)
  have parsed : parse? "0`x10".toList = some 0x10 := by decide +kernel
  refine ⟨unpadded, by decide +kernel, parsed, ?_⟩
  rw [parseArgument_eq_ok_iff, unpadded.trim_eq, parsed]

end Address

end FaultTriage
