import FaultTriage.Hash.Frame
import FaultTriage.Proofs.Text.HexNumber

/-!
# Texts of frames

A frame is read from exactly the texts of a small grammar, with blanks around them: the question
mark, a name without a plus sign, and a name, a plus sign and hexadecimal digits.  A name in front of
a displacement may hold plus signs of its own, since the text is divided at its last one.
-/

set_option autoImplicit false

namespace FaultTriage

namespace Frame

structure IsName (name : List Char) : Prop where
  nonempty : name ≠ []
  solid : ∀ character ∈ name, Text.isBlank character = false

inductive IsMarker : List Char → Prop where
  | missing : IsMarker []
  | present : IsMarker ['0', 'x']

inductive Written : List Char → Frame → Prop where
  | unknown : Written ['?'] .unknown
  | plain {name : List Char} :
      IsName name → '+' ∉ name → name ≠ ['?'] → Written name (.resolved (String.ofList name) 0)
  | displaced {name marker digits : List Char} {displacement : UInt64} :
      IsName name → IsMarker marker → Text.Denotes digits displacement.toNat →
      Written (name ++ '+' :: (marker ++ digits)) (.resolved (String.ofList name) displacement)

/-! ## Displacements -/

theorem dropHexMarker_of_denotes {digits : List Char} {number : Nat}
    (denotes : Text.Denotes digits number) : Text.dropHexMarker digits = digits := by
  unfold Text.dropHexMarker
  split
  · next rest =>
      -- The letter of the marker is no digit.
      have unmarked := denotes.not_mem (by decide : Text.hexValue? 'x' = none)
      exact absurd (List.mem_cons_of_mem _ List.mem_cons_self) unmarked
  · rfl

theorem dropHexMarker_append {marker digits : List Char} {number : Nat} (isMarker : IsMarker marker)
    (denotes : Text.Denotes digits number) : Text.dropHexMarker (marker ++ digits) = digits := by
  cases isMarker with
  | missing => exact dropHexMarker_of_denotes denotes
  | present => rfl

theorem exists_marker_append (characters : List Char) :
    ∃ marker, IsMarker marker ∧ characters = marker ++ Text.dropHexMarker characters := by
  unfold Text.dropHexMarker
  split
  · exact ⟨['0', 'x'], .present, rfl⟩
  · exact ⟨[], .missing, rfl⟩

theorem readDisplacement_eq_some_iff {characters : List Char} (unsigned : '+' ∉ characters)
    {displacement : UInt64} :
    (Text.readHex? Address.bound (Text.dropHexMarker characters)).map UInt64.ofNat =
        some displacement ↔
      ∃ marker digits, IsMarker marker ∧ Text.Denotes digits displacement.toNat ∧
        characters = marker ++ digits := by
  rw [Text.map_readHex?_eq_some_iff]
  constructor
  · intro denotes
    obtain ⟨marker, isMarker, whole⟩ := exists_marker_append characters
    rw [whole, List.mem_append, not_or] at unsigned
    rw [Text.dropSign_of_unsigned unsigned.2] at denotes
    exact ⟨marker, Text.dropHexMarker characters, isMarker, denotes, whole⟩
  · intro written
    obtain ⟨marker, digits, isMarker, denotes, rfl⟩ := written
    rwa [dropHexMarker_append isMarker denotes,
      Text.dropSign_of_unsigned (denotes.not_mem (by decide))]

/-! ## Lines -/

theorem isName_iff {line : List Char} :
    IsName line ↔ ¬ (line.isEmpty || line.any Text.isBlank) = true := by
  rw [Bool.or_eq_true, not_or, List.isEmpty_iff, List.any_eq_true]
  constructor
  · intro isName
    refine ⟨isName.nonempty, ?_⟩
    intro blank
    obtain ⟨character, member, isBlank⟩ := blank
    rw [isName.solid character member] at isBlank
    cases isBlank
  · intro named
    obtain ⟨nonempty, solid⟩ := named
    refine ⟨nonempty, ?_⟩
    intro character member
    exact Bool.eq_false_iff.mpr fun isBlank => solid ⟨character, member, isBlank⟩

theorem isName_displaced {name marker digits : List Char} {number : Nat} (isName : IsName name)
    (isMarker : IsMarker marker) (denotes : Text.Denotes digits number) :
    IsName (name ++ '+' :: (marker ++ digits)) := by
  have solidMarker : ∀ character ∈ marker, Text.isBlank character = false := by
    cases isMarker with
    | missing => simp
    | present =>
        rw [List.forall_mem_cons, List.forall_mem_singleton]
        decide
  have solidDigits : ∀ character ∈ digits, Text.isBlank character = false :=
    fun character member => (Text.plain_of_hexValue? (denotes.isDigit character member)).2
  constructor
  case nonempty => simp
  case solid =>
    simp only [List.forall_mem_append, List.forall_mem_cons]
    exact ⟨isName.solid, by decide, solidMarker, solidDigits⟩

theorem ofTrimmed?_of_plain {line : List Char} (isName : IsName line) (unsigned : '+' ∉ line)
    (other : line ≠ ['?']) : ofTrimmed? line = some (.resolved (String.ofList line) 0) := by
  rw [ofTrimmed?, if_neg other, if_neg (isName_iff.mp isName),
    Text.splitLast?_eq_none_iff.mpr unsigned]

theorem ofTrimmed?_of_displaced {name marker digits : List Char} {displacement : UInt64}
    (isName : IsName name) (isMarker : IsMarker marker)
    (denotes : Text.Denotes digits displacement.toNat) :
    ofTrimmed? (name ++ '+' :: (marker ++ digits)) =
      some (.resolved (String.ofList name) displacement) := by
  have other : name ++ '+' :: (marker ++ digits) ≠ ['?'] := by
    intro question
    have plus : '+' ∈ ['?'] := question ▸ List.mem_append_right name List.mem_cons_self
    exact absurd plus (by decide)
  have unsigned : '+' ∉ marker ++ digits := by
    rw [List.mem_append, not_or]
    refine ⟨?_, denotes.not_mem (by decide)⟩
    cases isMarker with
    | missing => simp
    | present => decide
  have unnamed : ¬ name.isEmpty = true := by
    rw [List.isEmpty_iff]
    exact isName.nonempty
  have read := (readDisplacement_eq_some_iff unsigned).mpr
    ⟨marker, digits, isMarker, denotes, rfl⟩
  obtain ⟨number, readNumber, same⟩ := Option.map_eq_some_iff.mp read
  rw [ofTrimmed?, if_neg other, if_neg (isName_iff.mp (isName_displaced isName isMarker denotes)),
    Text.splitLast?_append unsigned]
  simp only [if_neg unnamed, readNumber, Option.map_some, same]

theorem written_of_divided {line name characters : List Char} {frame : Frame}
    (isName : IsName line) (divided : Text.splitLast? '+' line = some (name, characters))
    (named : ¬ name.isEmpty = true)
    (read : ((Text.readHex? Address.bound (Text.dropHexMarker characters)).map fun displacement =>
      resolved (String.ofList name) (UInt64.ofNat displacement)) = some frame) :
    Written line frame := by
  obtain ⟨whole, unsigned⟩ := Text.eq_append_of_splitLast? divided
  obtain ⟨number, readNumber, same⟩ := Option.map_eq_some_iff.mp read
  have readDisplacement := congrArg (Option.map UInt64.ofNat) readNumber
  obtain ⟨marker, digits, isMarker, denotes, rfl⟩ :=
    (readDisplacement_eq_some_iff unsigned).mp readDisplacement
  have solid : ∀ character ∈ name, Text.isBlank character = false := by
    intro character member
    exact isName.solid character (whole ▸ List.mem_append_left _ member)
  rw [whole, ← same]
  exact .displaced ⟨fun empty => named (List.isEmpty_iff.mpr empty), solid⟩ isMarker denotes

theorem written_of_ofTrimmed? {line : List Char} {frame : Frame}
    (read : ofTrimmed? line = some frame) : Written line frame := by
  unfold ofTrimmed? at read
  by_cases question : line = ['?']
  · rw [if_pos question] at read
    cases read
    rw [question]
    exact .unknown
  rw [if_neg question] at read
  by_cases unnamed : (line.isEmpty || line.any Text.isBlank) = true
  · rw [if_pos unnamed] at read
    cases read
  rw [if_neg unnamed] at read
  have isName := isName_iff.mpr unnamed
  cases divided : Text.splitLast? '+' line with
  | none =>
      rw [divided] at read
      cases read
      exact .plain isName (Text.splitLast?_eq_none_iff.mp divided) question
  | some parts =>
      obtain ⟨name, characters⟩ := parts
      simp only [divided] at read
      by_cases nameless : name.isEmpty = true
      · rw [if_pos nameless] at read
        cases read
      · rw [if_neg nameless] at read
        exact written_of_divided isName divided nameless read

theorem ofTrimmed?_eq_some_iff {line : List Char} {frame : Frame} :
    ofTrimmed? line = some frame ↔ Written line frame := by
  constructor
  · exact written_of_ofTrimmed?
  · intro written
    cases written with
    | unknown => rfl
    | plain isName unsigned other => exact ofTrimmed?_of_plain isName unsigned other
    | displaced isName isMarker denotes => exact ofTrimmed?_of_displaced isName isMarker denotes

theorem written_unknown_iff {line : List Char} : Written line .unknown ↔ line = ['?'] := by
  constructor
  · intro written
    cases written
    rfl
  · intro question
    subst question
    exact .unknown

theorem written_resolved_self_iff {line : List Char} :
    Written line (.resolved (String.ofList line) 0) ↔
      IsName line ∧ '+' ∉ line ∧ line ≠ ['?'] := by
  constructor
  · intro written
    generalize named : Frame.resolved (String.ofList line) 0 = frame at written
    cases written with
    | unknown => cases named
    | plain isName unsigned other => exact ⟨isName, unsigned, other⟩
    | @displaced name marker digits displacement =>
        -- The name in front of a plus sign is shorter than the line.
        have same : String.ofList (name ++ '+' :: (marker ++ digits)) = String.ofList name :=
          Option.some.inj (congrArg Frame.symbol named)
        have whole := congrArg List.length (String.ofList_injective same)
        simp at whole
  · intro plain
    obtain ⟨isName, unsigned, other⟩ := plain
    exact .plain isName unsigned other

/-! ## Texts -/

theorem parse_eq_ok_iff {text : String} {frame : Frame} :
    parse text = .ok frame ↔ Written (Text.trim text.toList) frame := by
  rw [← ofTrimmed?_eq_some_iff, parse]
  cases ofTrimmed? (Text.trim text.toList) with
  | none => simp
  | some read => simp

theorem parse_eq_error_iff {text : String} :
    parse text = .error ⟨text⟩ ↔ ∀ frame, ¬ Written (Text.trim text.toList) frame := by
  simp only [← ofTrimmed?_eq_some_iff]
  rw [parse]
  cases ofTrimmed? (Text.trim text.toList) with
  | none => simp
  | some read => simp

theorem parse_displaced {name : String} (isName : IsName name.toList) (displacement : UInt64) :
    parse (name ++ "+" ++ Text.hexText displacement.toNat) = .ok (.resolved name displacement) := by
  have denotes := Text.denotes_hexDigits displacement.toNat
  have written := Written.displaced isName .present denotes
  have characters : (name ++ "+" ++ Text.hexText displacement.toNat).toList =
      name.toList ++ '+' :: (['0', 'x'] ++ Text.hexDigits displacement.toNat) := by
    simp [Text.hexText]
  have noBlanks : ∀ character ∈ ([] ++ [] : List Char), Text.isBlank character = true := by simp
  have trimmed := Text.trim_append noBlanks (isName_displaced isName .present denotes).solid
  rw [List.nil_append, List.append_nil, ← characters] at trimmed
  rw [parse_eq_ok_iff, trimmed, characters]
  rwa [String.ofList_toList] at written

/--
A frame is read from the texts that are written for it, with blanks around them, and from no others;
every other text is refused as a whole.  A name with a displacement after it is read back.
-/
theorem parse_by_grammar (text : String) :
    (∀ frame, parse text = .ok frame ↔ Written (Text.trim text.toList) frame) ∧
    (parse text = .error ⟨text⟩ ↔ ∀ frame, ¬ Written (Text.trim text.toList) frame) ∧
    (parse text = .ok .unknown ↔ Text.trim text.toList = ['?']) ∧
    (parse text = .ok (.resolved (String.ofList (Text.trim text.toList)) 0) ↔
      IsName (Text.trim text.toList) ∧ '+' ∉ Text.trim text.toList ∧
        Text.trim text.toList ≠ ['?']) ∧
    ∀ (name : String) (displacement : UInt64), IsName name.toList →
      parse (name ++ "+" ++ Text.hexText displacement.toNat) =
        .ok (.resolved name displacement) := by
  refine ⟨?accepted, ?refused, ?question, ?plain, ?readBack⟩
  case accepted => exact fun frame => parse_eq_ok_iff
  case refused => exact parse_eq_error_iff
  case question => rw [parse_eq_ok_iff, written_unknown_iff]
  case plain => rw [parse_eq_ok_iff, written_resolved_self_iff]
  case readBack => exact fun name displacement isName => parse_displaced isName displacement

theorem operatorName_read_back :
    IsName "app!operator+".toList ∧
      parse "app!operator++0xffffffffffffffff" =
        .ok (.resolved "app!operator+" 0xFFFFFFFFFFFFFFFF) := by
  have checked : "app!operator+".toList.all (fun character => !Text.isBlank character) = true := by
    decide +kernel
  have isName : IsName "app!operator+".toList := by
    refine ⟨by decide, ?_⟩
    intro character member
    simpa using List.all_eq_true.mp checked character member
  have text : "app!operator++0xffffffffffffffff" =
      "app!operator+" ++ "+" ++ Text.hexText (0xFFFFFFFFFFFFFFFF : UInt64).toNat := by
    decide +kernel
  rw [text]
  exact ⟨isName, (parse_by_grammar "?").2.2.2.2 "app!operator+" 0xFFFFFFFFFFFFFFFF isName⟩

end Frame

end FaultTriage
