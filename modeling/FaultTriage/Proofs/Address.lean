import FaultTriage.Address
import FaultTriage.Proofs.Text.FirstWord

/-!
# Characters of addresses

What is read as an address consists of hexadecimal digits, the marks between halves, one leading
marker and one plus sign.  All of them are ASCII and none is a blank, and an address in lowercase is
the same address.
-/

set_option autoImplicit false

namespace FaultTriage

namespace Text

/-! ## Digits -/

theorem forall_ascii (property : Char → Prop)
    (small : ∀ code < 0x80, property (Char.ofNat code)) {character : Char}
    (ascii : character.toNat < 0x80) : property character := by
  have holds := small character.toNat ascii
  rwa [Char.ofNat_toNat] at holds

theorem asciiLower_of_not_ascii {character : Char} (beyond : ¬ character.toNat < 0x80) :
    asciiLower character = character :=
  asciiLower_of_not_capital (by omega)

theorem isBlank_asciiLower (character : Char) :
    isBlank (asciiLower character) = isBlank character := by
  by_cases ascii : character.toNat < 0x80
  · exact forall_ascii (fun character => isBlank (asciiLower character) = isBlank character)
      (by decide) ascii
  · rw [asciiLower_of_not_ascii ascii]

theorem plain_of_hexValue? {character : Char} (isDigit : (hexValue? character).isSome) :
    character.toNat < 0x80 ∧ isBlank character = false := by
  have ascii : character.toNat < 0x80 := by
    simp only [hexValue?, Bool.and_eq_true, decide_eq_true_eq] at isDigit
    repeat' split at isDigit
    all_goals first | omega | cases isDigit
  refine ⟨ascii, ?_⟩
  exact forall_ascii (fun character =>
    (hexValue? character).isSome → isBlank character = false) (by decide) ascii isDigit

theorem hexValue?_asciiLower (character : Char) :
    hexValue? (asciiLower character) = hexValue? character := by
  by_cases ascii : character.toNat < 0x80
  · exact forall_ascii (fun character => hexValue? (asciiLower character) = hexValue? character)
      (by decide) ascii
  · rw [asciiLower_of_not_ascii ascii]

theorem asciiLower_eq_iff {mark : Char}
    (noLetter : mark.toNat < 0x41 ∨ 0x5A < mark.toNat ∧ mark.toNat < 0x61) (character : Char) :
    asciiLower character = mark ↔ character = mark := by
  by_cases capital : 0x41 ≤ character.toNat ∧ character.toNat ≤ 0x5A
  · have lowered : (asciiLower character).toNat = character.toNat + 0x20 := by
      have valid : (character.toNat + 0x20).isValidChar := .inl (by omega)
      simp only [asciiLower, Bool.and_eq_true, decide_eq_true_eq]
      rw [if_pos capital, Char.ofNat, dif_pos valid]
      rfl
    constructor
    · rintro rfl
      omega
    · rintro rfl
      omega
  · rw [asciiLower_of_not_capital capital]

theorem asciiLower_eq_x_iff (character : Char) :
    asciiLower character = 'x' ↔ character = 'x' ∨ character = 'X' := by
  by_cases ascii : character.toNat < 0x80
  · exact forall_ascii (fun character =>
      asciiLower character = 'x' ↔ character = 'x' ∨ character = 'X') (by decide) ascii
  · rw [asciiLower_of_not_ascii ascii]
    constructor
    · exact .inl
    · rintro (same | rfl)
      · exact same
      · exact absurd (by decide) ascii

/-! ## Numbers -/

theorem isSome_hexValue?_of_hexNumberFrom? {value number : Nat} {digits : List Char}
    (read : hexNumberFrom? value digits = some number) :
    ∀ character ∈ digits, (hexValue? character).isSome := by
  induction digits generalizing value with
  | nil => simp
  | cons character rest ih =>
      obtain ⟨digit, found, readRest⟩ := Option.bind_eq_some_iff.mp read
      intro other member
      rcases List.mem_cons.mp member with rfl | member
      · simp [found]
      · exact ih readRest other member

theorem hexNumberFrom?_asciiLowercase (value : Nat) (digits : List Char) :
    hexNumberFrom? value (asciiLowercase digits) = hexNumberFrom? value digits := by
  induction digits generalizing value with
  | nil => rfl
  | cons character rest ih =>
      rw [asciiLowercase, List.map_cons, hexNumberFrom?, hexNumberFrom?, hexValue?_asciiLower]
      exact congrArg _ (funext fun digit => ih (16 * value + digit))

/-- What is read as a number: digits for it, alone or after one plus sign. -/
theorem readHex?_eq_some_iff {bound number : Nat} {characters : List Char} :
    readHex? bound characters = some number ↔
      ∃ digits, (characters = '+' :: digits ∨ characters = digits) ∧ digits ≠ [] ∧
        hexNumberFrom? 0 digits = some number ∧ number < bound := by
  have number_iff : ∀ digits : List Char,
      (if digits.isEmpty then none else (hexNumberFrom? 0 digits).filter (· < bound)) =
          some number ↔
        digits ≠ [] ∧ hexNumberFrom? 0 digits = some number ∧ number < bound := by
    intro digits
    cases digits <;> simp [Option.filter_eq_some_iff]
  simp only [readHex?, number_iff]
  split
  · next rest =>
      constructor
      · intro read
        exact ⟨rest, .inl rfl, read⟩
      · rintro ⟨digits, same | rfl, read⟩
        · cases same
          exact read
        · -- A plus sign is no digit.
          cases read.2.1
  · next unsigned =>
      constructor
      · intro read
        exact ⟨characters, .inr rfl, read⟩
      · rintro ⟨digits, rfl | rfl, read⟩
        · exact absurd rfl (unsigned digits)
        · exact read

theorem mem_of_readHex? {bound number : Nat} {characters : List Char}
    (read : readHex? bound characters = some number) :
    ∀ character ∈ characters, character = '+' ∨ (hexValue? character).isSome := by
  obtain ⟨digits, signed, _, denotes, _⟩ := readHex?_eq_some_iff.mp read
  have areDigits := isSome_hexValue?_of_hexNumberFrom? denotes
  intro character member
  rcases signed with rfl | rfl
  · rcases List.mem_cons.mp member with same | member
    · exact .inl same
    · exact .inr (areDigits character member)
  · exact .inr (areDigits character member)

theorem readHex?_asciiLowercase {bound number : Nat} {characters : List Char}
    (read : readHex? bound characters = some number) :
    readHex? bound (asciiLowercase characters) = some number := by
  obtain ⟨digits, signed, nonempty, denotes, bounded⟩ := readHex?_eq_some_iff.mp read
  refine readHex?_eq_some_iff.mpr ⟨asciiLowercase digits, ?_, ?_, ?_, bounded⟩
  · rcases signed with rfl | rfl
    · exact .inl rfl
    · exact .inr rfl
  · simpa [asciiLowercase] using nonempty
  · rw [hexNumberFrom?_asciiLowercase, denotes]

/-! ## Markers -/

theorem mem_dropHexMarker {character : Char} {characters : List Char}
    (member : character ∈ characters) :
    character = '0' ∨ character = 'x' ∨ character ∈ dropHexMarker characters := by
  unfold dropHexMarker
  split
  · simpa using member
  · exact .inr (.inr member)

/-- A marker shows up in lowercase only where it stood before, or where no number stands. -/
theorem dropHexMarker_asciiLowercase {characters : List Char}
    (unmarked : 'X' ∉ dropHexMarker characters) :
    dropHexMarker (asciiLowercase characters) = asciiLowercase (dropHexMarker characters) := by
  match characters with
  | [] => rfl
  | [single] => simp [asciiLowercase, dropHexMarker]
  | first :: second :: rest =>
      by_cases zero : first = '0'
      · subst zero
        by_cases marker : second = 'x'
        · subst marker
          rfl
        · have notMarked : asciiLower second ≠ 'x' := by
            rw [ne_eq, asciiLower_eq_x_iff]
            rintro (same | rfl)
            · exact marker same
            · exact unmarked (by simp [dropHexMarker])
          simp [asciiLowercase, dropHexMarker, marker, notMarked]
      · have notZero : asciiLower first ≠ '0' := by
          rwa [ne_eq, asciiLower_eq_iff (by decide)]
        simp [asciiLowercase, dropHexMarker, zero, notZero]

end Text

namespace Address

theorem parse?_asciiLowercase {word : List Char} {address : Address}
    (parsed : parse? word = some address) : parse? (Text.asciiLowercase word) = some address := by
  obtain ⟨number, read, rfl⟩ := Option.map_eq_some_iff.mp parsed
  have sameMarks : ((· != halfMark) ∘ Text.asciiLower : Char → Bool) = (· != halfMark) := by
    funext character
    have same := Text.asciiLower_eq_iff (by decide : halfMark.toNat < 0x41 ∨
      0x5A < halfMark.toNat ∧ halfMark.toNat < 0x61) character
    rw [Bool.eq_iff_iff]
    simp [same]
  have unmarked : 'X' ∉ Text.dropHexMarker (word.filter (· != halfMark)) := by
    intro member
    rcases Text.mem_of_readHex? read 'X' member with same | isDigit
    · cases same
    · cases isDigit
  refine Option.map_eq_some_iff.mpr ⟨number, ?_, rfl⟩
  rw [Text.asciiLowercase, List.filter_map, sameMarks]
  exact (congrArg _ (Text.dropHexMarker_asciiLowercase unmarked)).trans
    (Text.readHex?_asciiLowercase read)

theorem mem_of_parse? {word : List Char} {address : Address}
    (parsed : parse? word = some address) :
    ∀ character ∈ word, character = halfMark ∨ character = '0' ∨ character = 'x' ∨
      character = '+' ∨ (Text.hexValue? character).isSome := by
  obtain ⟨number, read, _⟩ := Option.map_eq_some_iff.mp parsed
  intro character member
  by_cases mark : character = halfMark
  · exact .inl mark
  · have kept : character ∈ word.filter (· != halfMark) := by simp [member, mark]
    right
    rcases Text.mem_dropHexMarker kept with zero | marker | digit
    · exact .inl zero
    · exact .inr (.inl marker)
    · exact .inr (.inr (Text.mem_of_readHex? read character digit))

theorem plain_of_parse? {word : List Char} {address : Address}
    (parsed : parse? word = some address) :
    ∀ character ∈ word, character.toNat < 0x80 ∧ Text.isBlank character = false := by
  intro character member
  rcases mem_of_parse? parsed character member with rfl | rfl | rfl | rfl | isDigit
  · decide
  · decide
  · decide
  · decide
  · exact Text.plain_of_hexValue? isDigit

theorem ne_nil_of_parse? {word : List Char} {address : Address}
    (parsed : parse? word = some address) : word ≠ [] := by
  rintro rfl
  cases parsed

end Address

end FaultTriage
