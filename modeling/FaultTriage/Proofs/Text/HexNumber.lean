import FaultTriage.Proofs.Address
import FaultTriage.Proofs.Text.Hex
import Mathlib.Data.List.Forall2
import Mathlib.Data.List.Induction
import Mathlib.Data.Nat.Digits.Defs

/-!
# Numbers that hexadecimal digits denote

Digits are read from the left, each one after sixteen times the number before it.  What is read is
the number that the values of the digits have in base sixteen, and every number has its written
digits, in either letter case and after any number of zeros, and no others.
-/

set_option autoImplicit false

namespace FaultTriage.Text

/-- At least one digit, and the number that the values of the digits have in base sixteen. -/
def Denotes (digits : List Char) (number : Nat) : Prop :=
  digits ≠ [] ∧
    ∃ values, List.Forall₂ (fun digit value => hexValue? digit = some value) digits values ∧
      Nat.ofDigits 16 values.reverse = number

theorem hexNumberFrom?_eq_some_iff {start number : Nat} {digits : List Char} :
    hexNumberFrom? start digits = some number ↔
      ∃ values, List.Forall₂ (fun digit value => hexValue? digit = some value) digits values ∧
        Nat.ofDigits 16 values.reverse + 16 ^ digits.length * start = number := by
  induction digits generalizing start with
  | nil =>
      simp only [hexNumberFrom?, Option.some.injEq, List.forall₂_nil_left_iff, exists_eq_left,
        List.reverse_nil, Nat.ofDigits_nil, List.length_nil, pow_zero, one_mul, zero_add]
  | cons digit rest ih =>
      have place (value : Nat) (values : List Nat) (same : values.length = rest.length) :
          Nat.ofDigits 16 (value :: values).reverse + 16 ^ (digit :: rest).length * start =
            Nat.ofDigits 16 values.reverse + 16 ^ rest.length * (16 * start + value) := by
        rw [List.reverse_cons, Nat.ofDigits_append, Nat.ofDigits_singleton, List.length_reverse,
          same, List.length_cons, pow_succ]
        ring
      rw [hexNumberFrom?, Option.bind_eq_some_iff]
      constructor
      · intro read
        obtain ⟨value, isDigit, readRest⟩ := read
        obtain ⟨values, areDigits, total⟩ := ih.mp readRest
        exact ⟨value :: values, .cons isDigit areDigits,
          (place value values areDigits.length_eq.symm).trans total⟩
      · intro denoted
        obtain ⟨_, areDigits, total⟩ := denoted
        cases areDigits with
        | @cons _ value _ values isDigit areDigits =>
            rw [place value values areDigits.length_eq.symm] at total
            exact ⟨value, isDigit, ih.mpr ⟨values, areDigits, total⟩⟩

theorem denotes_iff {digits : List Char} {number : Nat} :
    Denotes digits number ↔ digits ≠ [] ∧ hexNumberFrom? 0 digits = some number := by
  rw [Denotes, hexNumberFrom?_eq_some_iff]
  simp only [Nat.mul_zero, Nat.add_zero]

namespace Denotes

theorem isDigit {digits : List Char} {number : Nat} (denotes : Denotes digits number) :
    ∀ character ∈ digits, (hexValue? character).isSome :=
  isSome_hexValue?_of_hexNumberFrom? (denotes_iff.mp denotes).2

theorem not_mem {digits : List Char} {number : Nat} (denotes : Denotes digits number)
    {character : Char} (noDigit : hexValue? character = none) : character ∉ digits := by
  intro member
  have isDigit := denotes.isDigit character member
  rw [noDigit] at isDigit
  cases isDigit

theorem unique {digits : List Char} {number other : Nat} (denotes : Denotes digits number)
    (denotesOther : Denotes digits other) : number = other := by
  have read := (denotes_iff.mp denotes).2
  rw [(denotes_iff.mp denotesOther).2] at read
  exact (Option.some.inj read).symm

theorem zero_cons {digits : List Char} {number : Nat} (denotes : Denotes digits number) :
    Denotes ('0' :: digits) number :=
  denotes_iff.mpr ⟨List.cons_ne_nil _ _, (denotes_iff.mp denotes).2⟩

end Denotes

theorem hexDigits_ne_nil (value : Nat) : hexDigits value ≠ [] := by
  intro empty
  have positive : 0 < (hexDigits value).length := Nat.length_toDigits_pos
  rw [empty] at positive
  cases positive

theorem denotes_hexDigits (value : Nat) : Denotes (hexDigits value) value :=
  denotes_iff.mpr ⟨hexDigits_ne_nil value, hexNumberFrom?_hexDigits value⟩

theorem exists_hexNumberFrom? {digits : List Char}
    (areDigits : ∀ character ∈ digits, (hexValue? character).isSome) (value : Nat) :
    ∃ number, hexNumberFrom? value digits = some number := by
  induction digits generalizing value with
  | nil => exact ⟨value, rfl⟩
  | cons first rest ih =>
      rw [List.forall_mem_cons] at areDigits
      obtain ⟨digit, isDigit⟩ := Option.isSome_iff_exists.mp areDigits.1
      obtain ⟨number, read⟩ := ih areDigits.2 (16 * value + digit)
      exact ⟨number, Option.bind_eq_some_iff.mpr ⟨digit, isDigit, read⟩⟩

theorem exists_denotes {digits : List Char} (nonempty : digits ≠ [])
    (areDigits : ∀ character ∈ digits, (hexValue? character).isSome) :
    ∃ number, Denotes digits number := by
  obtain ⟨number, read⟩ := exists_hexNumberFrom? areDigits 0
  exact ⟨number, denotes_iff.mpr ⟨nonempty, read⟩⟩

/-! ## One plus sign in front -/

def dropSign : List Char → List Char
  | '+' :: rest => rest
  | characters => characters

theorem dropSign_of_unsigned {characters : List Char} (unsigned : '+' ∉ characters) :
    dropSign characters = characters := by
  unfold dropSign
  split
  · next rest => exact absurd List.mem_cons_self unsigned
  · rfl

theorem eq_cons_dropSign_or (characters : List Char) :
    characters = '+' :: dropSign characters ∨ characters = dropSign characters := by
  unfold dropSign
  split
  · exact .inl rfl
  · exact .inr rfl

theorem mem_of_mem_dropSign {character : Char} {characters : List Char}
    (member : character ∈ dropSign characters) : character ∈ characters := by
  rcases eq_cons_dropSign_or characters with signed | unsigned
  · rw [signed]
    exact List.mem_cons_of_mem _ member
  · rwa [unsigned]

theorem readHex?_eq_some_iff_denotes {bound number : Nat} {characters : List Char} :
    readHex? bound characters = some number ↔
      Denotes (dropSign characters) number ∧ number < bound := by
  rw [readHex?_eq_some_iff]
  constructor
  · intro read
    obtain ⟨digits, signed, nonempty, reads, bounded⟩ := read
    have denotes := denotes_iff.mpr ⟨nonempty, reads⟩
    refine ⟨?_, bounded⟩
    rcases signed with rfl | rfl
    · exact denotes
    · -- A plus sign is no digit.
      rwa [dropSign_of_unsigned (denotes.not_mem (by decide))]
  · intro denoted
    obtain ⟨denotes, bounded⟩ := denoted
    obtain ⟨nonempty, reads⟩ := denotes_iff.mp denotes
    exact ⟨dropSign characters, eq_cons_dropSign_or characters, nonempty, reads, bounded⟩

theorem map_readHex?_eq_some_iff {characters : List Char} {word : UInt64} :
    (readHex? Address.bound characters).map UInt64.ofNat = some word ↔
      Denotes (dropSign characters) word.toNat := by
  constructor
  · intro read
    obtain ⟨number, readNumber, rfl⟩ := Option.map_eq_some_iff.mp read
    obtain ⟨denotes, bounded⟩ := readHex?_eq_some_iff_denotes.mp readNumber
    rwa [UInt64.toNat_ofNat_of_lt' bounded]
  · intro denotes
    have read := readHex?_eq_some_iff_denotes.mpr ⟨denotes, word.toNat_lt⟩
    exact Option.map_eq_some_iff.mpr ⟨word.toNat, read, UInt64.ofNat_toNat⟩

/-! ## Digits in a text -/

def digitsOf (text : List Char) : List Char :=
  text.filter fun character => (hexValue? character).isSome

theorem digitsOf_append (left right : List Char) :
    digitsOf (left ++ right) = digitsOf left ++ digitsOf right :=
  List.filter_append left right

theorem digitsOf_dropSign (characters : List Char) :
    digitsOf (dropSign characters) = digitsOf characters := by
  rcases eq_cons_dropSign_or characters with signed | unsigned
  · conv_rhs => rw [signed]
    rfl
  · rw [← unsigned]

theorem Denotes.digitsOf_eq {digits : List Char} {number : Nat} (denotes : Denotes digits number) :
    digitsOf digits = digits :=
  List.filter_eq_self.mpr denotes.isDigit

/-! ## Renderings -/

/-- The written digits of a number in either letter case, after any number of zeros. -/
def Renders (digits : List Char) (number : Nat) : Prop :=
  ∃ zeros, asciiLowercase digits = List.replicate zeros '0' ++ hexDigits number

theorem asciiLower_of_hexValue? {character : Char} {digit : Nat}
    (isDigit : hexValue? character = some digit) :
    digit < 16 ∧ asciiLower character = Nat.digitChar digit := by
  have ascii := (plain_of_hexValue? (Option.isSome_of_mem isDigit)).1
  exact forall_ascii (fun character => ∀ digit ∈ hexValue? character,
    digit < 16 ∧ asciiLower character = Nat.digitChar digit) (by decide) ascii digit isDigit

theorem Renders.denotes {digits : List Char} {number : Nat} (rendered : Renders digits number) :
    Denotes digits number := by
  obtain ⟨zeros, lowered⟩ := rendered
  refine denotes_iff.mpr ⟨?_, ?_⟩
  · rintro rfl
    have empty : List.replicate zeros '0' ++ hexDigits number = [] := lowered.symm
    exact hexDigits_ne_nil number (List.append_eq_nil_iff.mp empty).2
  · rw [← hexNumberFrom?_asciiLowercase, lowered, hexNumberFrom?_append, hexNumberFrom?_zeros,
      Option.bind_some, hexNumberFrom?_hexDigits]

theorem renders_digit {character : Char} {digit : Nat} (isDigit : hexValue? character = some digit) :
    Renders [character] digit := by
  obtain ⟨bounded, lowered⟩ := asciiLower_of_hexValue? isDigit
  refine ⟨0, ?_⟩
  rw [asciiLowercase, List.map_singleton, lowered, hexDigits, Nat.toDigits_of_lt_base bounded]
  rfl

theorem Renders.append_digit {leading : List Char} {last : Char} {high low : Nat}
    (rendered : Renders leading high) (isDigit : hexValue? last = some low) :
    Renders (leading ++ [last]) (16 * high + low) := by
  obtain ⟨zeros, lowered⟩ := rendered
  obtain ⟨bounded, loweredLast⟩ := asciiLower_of_hexValue? isDigit
  have lastDigits : hexDigits low = [Nat.digitChar low] := Nat.toDigits_of_lt_base bounded
  have loweredAll : asciiLowercase (leading ++ [last]) =
      List.replicate zeros '0' ++ (hexDigits high ++ hexDigits low) := by
    rw [asciiLowercase, List.map_append, ← asciiLowercase, lowered, List.map_singleton,
      loweredLast, lastDigits, List.append_assoc]
  rcases Nat.eq_zero_or_pos high with rfl | positive
  · refine ⟨zeros + 1, ?_⟩
    rw [loweredAll, List.replicate_succ', List.append_assoc, Nat.mul_zero, Nat.zero_add]
    rfl
  · refine ⟨zeros, ?_⟩
    rw [loweredAll, hexDigits, hexDigits, hexDigits,
      Nat.toDigits_append_toDigits (by decide) positive bounded]

/-- What denotes a number is one of its renderings, digit after digit from the left. -/
theorem Denotes.renders {digits : List Char} {number : Nat} (denotes : Denotes digits number) :
    Renders digits number := by
  induction digits using List.reverseRecOn generalizing number with
  | nil => exact absurd rfl denotes.1
  | append_singleton leading last ih =>
      have read := (denotes_iff.mp denotes).2
      rw [hexNumberFrom?_append] at read
      obtain ⟨high, readHigh, readLast⟩ := Option.bind_eq_some_iff.mp read
      obtain ⟨low, isDigit, total⟩ := Option.bind_eq_some_iff.mp readLast
      cases total
      cases leading with
      | nil =>
          cases readHigh
          rw [Nat.mul_zero, Nat.zero_add]
          exact renders_digit isDigit
      | cons first rest =>
          have denotesHigh := denotes_iff.mpr ⟨List.cons_ne_nil first rest, readHigh⟩
          exact (ih denotesHigh).append_digit isDigit

theorem renders_iff_denotes {digits : List Char} {number : Nat} :
    Renders digits number ↔ Denotes digits number :=
  ⟨Renders.denotes, Denotes.renders⟩

end FaultTriage.Text
