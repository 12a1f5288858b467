import FaultTriage.Text.Blank
import FaultTriage.Text.Lowercase
import Mathlib.Data.List.TakeWhile
import Mathlib.Tactic.ByContra

/-!
# First words and letter case

A text is taken apart into the blanks in front of its first word, the word, and what the first blank
after it starts; into a word and the blanks around it; or at a separator.  Lowercasing keeps every
blank, and it changes ASCII text letter by letter whatever stands around it.
-/

set_option autoImplicit false

namespace FaultTriage.Text

/-! ## Blanks -/

theorem isBlank_of_isAsciiBlank {character : Char} (blank : isAsciiBlank character = true) :
    isBlank character = true := by
  simp only [isAsciiBlank, Bool.or_eq_true, beq_iff_eq] at blank
  rcases blank with (((rfl | rfl) | rfl) | rfl) | rfl <;> decide

theorem isAsciiBlank_of_not_isBlank {character : Char} (solid : isBlank character = false) :
    isAsciiBlank character = false := by
  by_contra blank
  rw [isBlank_of_isAsciiBlank (by simpa using blank)] at solid
  cases solid

def blankCodes : List Nat :=
  [0x09, 0x0A, 0x0B, 0x0C, 0x0D, 0x20, 0x85, 0xA0, 0x1680, 0x2000, 0x2001, 0x2002, 0x2003, 0x2004,
    0x2005, 0x2006, 0x2007, 0x2008, 0x2009, 0x200A, 0x2028, 0x2029, 0x202F, 0x205F, 0x3000]

theorem toNat_mem_blankCodes {character : Char} (blank : isBlank character = true) :
    character.toNat ∈ blankCodes := by
  simp only [isBlank, Bool.or_eq_true, Bool.and_eq_true, decide_eq_true_eq, beq_iff_eq] at blank
  simp only [blankCodes, List.mem_cons, List.not_mem_nil, or_false]
  omega

/-! ## Taking a text apart -/

theorem firstWord_append {before word after : List Char}
    (blanks : ∀ character ∈ before, isBlank character = true) (nonempty : word ≠ [])
    (solid : ∀ character ∈ word, isBlank character = false)
    (ends : ∀ character ∈ after.head?, isBlank character = true) :
    firstWord (before ++ (word ++ after)) = word := by
  have starts : trimStart (before ++ (word ++ after)) = word ++ after := by
    obtain ⟨first, rest, rfl⟩ := List.exists_cons_of_ne_nil nonempty
    rw [trimStart, List.dropWhile_append_of_pos blanks, List.cons_append,
      List.dropWhile_cons_of_neg (by simp [solid first List.mem_cons_self])]
  have stops : (after.takeWhile fun character => !isBlank character) = [] := by
    cases after with
    | nil => rfl
    | cons character rest =>
        exact List.takeWhile_cons_of_neg (by simp [ends character rfl])
  rw [firstWord, starts, List.takeWhile_append_of_pos, stops, List.append_nil]
  intro character member
  simp [solid character member]

theorem exists_firstWord_append (characters : List Char) :
    ∃ before after, characters = before ++ (firstWord characters ++ after) ∧
      (∀ character ∈ before, isBlank character = true) ∧
      (∀ character ∈ firstWord characters, isBlank character = false) ∧
      ∀ character ∈ after.head?, isBlank character = true := by
  refine ⟨characters.takeWhile isBlank,
    (trimStart characters).dropWhile fun character => !isBlank character, ?_, ?_, ?_, ?_⟩
  · rw [firstWord, List.takeWhile_append_dropWhile, trimStart, List.takeWhile_append_dropWhile]
  · intro character member
    exact List.mem_takeWhile_imp member
  · intro character member
    simpa using List.mem_takeWhile_imp member
  · intro character member
    have stopped := List.head?_dropWhile_not (fun character => !isBlank character)
      (trimStart characters)
    rw [Option.mem_def.mp member] at stopped
    simpa using stopped

theorem exists_append_of_value (property : Char → Bool) (value : Bool) (characters : List Char) :
    ∃ before after, characters = before ++ after ∧
      (∀ character ∈ before, property character = value) ∧
      ∀ character ∈ after.head?, property character = !value := by
  refine ⟨characters.takeWhile (property · == value), characters.dropWhile (property · == value),
    List.takeWhile_append_dropWhile.symm, ?_, ?_⟩
  · intro character member
    simpa using List.mem_takeWhile_imp member
  · intro character member
    have stopped := List.head?_dropWhile_not (property · == value) characters
    rw [Option.mem_def.mp member] at stopped
    exact Bool.eq_not.mpr (by simpa using stopped)

theorem exists_trimEnd_append (characters : List Char) :
    ∃ after, characters = trimEnd characters ++ after ∧
      ∀ character ∈ after, isBlank character = true := by
  refine ⟨(characters.reverse.takeWhile isBlank).reverse, ?_, ?_⟩
  · rw [trimEnd, ← List.reverse_append, List.takeWhile_append_dropWhile, List.reverse_reverse]
  · intro character member
    exact List.mem_takeWhile_imp (List.mem_reverse.mp member)

/-! ## Trimming -/

theorem trimStart_append {before characters : List Char}
    (blanks : ∀ character ∈ before, isBlank character = true) :
    trimStart (before ++ characters) = trimStart characters :=
  List.dropWhile_append_of_pos blanks

theorem trimEnd_append {characters after : List Char}
    (blanks : ∀ character ∈ after, isBlank character = true) :
    trimEnd (characters ++ after) = trimEnd characters := by
  rw [trimEnd, List.reverse_append, List.dropWhile_append_of_pos, trimEnd]
  intro character member
  exact blanks character (List.mem_reverse.mp member)

theorem trimStart_of_solid {characters : List Char}
    (solid : ∀ character ∈ characters.head?, isBlank character = false) :
    trimStart characters = characters := by
  cases characters with
  | nil => rfl
  | cons first rest => exact List.dropWhile_cons_of_neg (by simp [solid first rfl])

theorem trimEnd_of_solid {characters : List Char}
    (solid : ∀ character ∈ characters.getLast?, isBlank character = false) :
    trimEnd characters = characters := by
  have reversed : trimStart characters.reverse = characters.reverse := by
    refine trimStart_of_solid fun character member => solid character ?_
    rwa [List.head?_reverse] at member
  rw [trimEnd]
  exact (congrArg List.reverse reversed).trans (List.reverse_reverse _)

theorem trim_append {before word after : List Char}
    (blanks : ∀ character ∈ before ++ after, isBlank character = true)
    (solid : ∀ character ∈ word, isBlank character = false) :
    trim (before ++ (word ++ after)) = word := by
  rw [List.forall_mem_append] at blanks
  rw [trim, trimStart_append blanks.1]
  cases word with
  | nil =>
      have nothing : trimStart after = [] := List.dropWhile_eq_nil_iff.mpr blanks.2
      rw [List.nil_append, nothing]
      rfl
  | cons first rest =>
      rw [trimStart_of_solid, trimEnd_append blanks.2, trimEnd_of_solid]
      · exact fun character member => solid character (List.mem_of_getLast? member)
      · rintro character ⟨⟩
        exact solid first List.mem_cons_self

theorem trimEnd_of_solid_append {before after : List Char}
    (ends : ∀ character ∈ (before ++ after).getLast?, isBlank character = false) :
    trimEnd after = after := by
  refine trimEnd_of_solid fun character member => ends character ?_
  rw [List.getLast?_append, Option.mem_def.mp member]
  rfl

theorem trim_append_of_solid {before blanks characters : List Char}
    (blank : ∀ character ∈ blanks, isBlank character = true)
    (starts : ∀ character ∈ characters.head?, isBlank character = false)
    (ends : ∀ character ∈ (before ++ characters).getLast?, isBlank character = false) :
    trim (blanks ++ characters) = characters := by
  rw [trim, trimStart_append blank, trimStart_of_solid starts, trimEnd_of_solid_append ends]

theorem length_trim_le (characters : List Char) : (trim characters).length ≤ characters.length := by
  have start := List.length_dropWhile_le isBlank characters
  have finish := List.length_dropWhile_le isBlank (trimStart characters).reverse
  rw [List.length_reverse] at finish
  rw [trim, trimEnd, List.length_reverse]
  exact finish.trans start

theorem eq_nil_of_solid_getLast? {before blanks : List Char}
    (ends : ∀ character ∈ (before ++ blanks).getLast?, isBlank character = false)
    (blank : ∀ character ∈ blanks, isAsciiBlank character = true) : blanks = [] := by
  by_contra nonempty
  have final := isBlank_of_isAsciiBlank (blank _ (List.getLast_mem nonempty))
  rw [ends _ (by simp [List.getLast?_append, List.getLast?_eq_some_getLast nonempty])] at final
  cases final

theorem isBlank_getLast?_trimEnd (characters : List Char) :
    ∀ character ∈ (trimEnd characters).getLast?, isBlank character = false := by
  intro character member
  rw [trimEnd, List.getLast?_reverse] at member
  have stopped := List.head?_dropWhile_not isBlank characters.reverse
  rw [Option.mem_def.mp member] at stopped
  simpa using stopped

theorem exists_trimEnd_cons {first : Char} (solid : isBlank first = false) (rest : List Char) :
    ∃ kept, trimEnd (first :: rest) = first :: kept := by
  obtain ⟨after, parts, blank⟩ := exists_trimEnd_append (first :: rest)
  cases trimmed : trimEnd (first :: rest) with
  | nil =>
      rw [trimmed] at parts
      rw [List.nil_append] at parts
      have blankFirst := blank first (parts ▸ List.mem_cons_self)
      rw [solid] at blankFirst
      cases blankFirst
  | cons character kept =>
      rw [trimmed] at parts
      cases parts
      exact ⟨kept, rfl⟩

theorem trimEnd_append_of_ne_nil (before : List Char) {after : List Char}
    (nonempty : trimEnd after ≠ []) : trimEnd (before ++ after) = before ++ trimEnd after := by
  obtain ⟨blanks, parts, blank⟩ := exists_trimEnd_append after
  have ends := isBlank_getLast?_trimEnd after
  generalize trimEnd after = kept at parts nonempty ends ⊢
  subst parts
  rw [← List.append_assoc, trimEnd_append blank]
  refine trimEnd_of_solid fun character member => ends character ?_
  rw [List.getLast?_append, List.getLast?_eq_some_getLast nonempty, Option.some_or] at member
  rwa [List.getLast?_eq_some_getLast nonempty]

/-! ## Splitting at a separator -/

theorem splitFirst?_eq_none_iff {separator : Char} {characters : List Char} :
    splitFirst? separator characters = none ↔ separator ∉ characters := by
  induction characters with
  | nil => simp [splitFirst?]
  | cons character rest ih =>
      by_cases found : character = separator
      · simp [splitFirst?, found]
      · simp [splitFirst?, found, ih, Ne.symm found]

theorem splitFirst?_append {separator : Char} {left : List Char} (absent : separator ∉ left)
    (right : List Char) :
    splitFirst? separator (left ++ separator :: right) = some (left, right) := by
  induction left with
  | nil => simp [splitFirst?]
  | cons character rest ih =>
      rw [List.mem_cons, not_or] at absent
      simp [splitFirst?, Ne.symm absent.1, ih absent.2]

theorem splitLast?_eq_none_iff {separator : Char} {characters : List Char} :
    splitLast? separator characters = none ↔ separator ∉ characters := by
  induction characters with
  | nil => simp [splitLast?]
  | cons character rest ih =>
      cases later : splitLast? separator rest with
      | some parts =>
          have present : separator ∈ rest := by
            by_contra absent
            rw [ih.mpr absent] at later
            cases later
          simp [splitLast?, later, present]
      | none => simp [splitLast?, later, ih.mp later, eq_comm]

theorem splitLast?_append {separator : Char} {right : List Char} (absent : separator ∉ right)
    (left : List Char) :
    splitLast? separator (left ++ separator :: right) = some (left, right) := by
  induction left with
  | nil => simp [splitLast?, splitLast?_eq_none_iff.mpr absent]
  | cons character rest ih => simp [splitLast?, ih]

theorem eq_append_of_splitLast? {separator : Char} {characters left right : List Char}
    (found : splitLast? separator characters = some (left, right)) :
    characters = left ++ separator :: right ∧ separator ∉ right := by
  induction characters generalizing left with
  | nil => cases found
  | cons character rest ih =>
      rw [splitLast?] at found
      cases later : splitLast? separator rest with
      | some parts =>
          rw [later] at found
          cases found
          obtain ⟨split, absent⟩ := ih later
          exact ⟨congrArg (character :: ·) split, absent⟩
      | none =>
          rw [later] at found
          by_cases same : character = separator
          · rw [if_pos same] at found
            cases found
            exact ⟨congrArg (· :: right) same, splitLast?_eq_none_iff.mp later⟩
          · rw [if_neg same] at found
            cases found

/-! ## Characters replaced one by one -/

section

variable {replace : Char → Char}

theorem trimEnd_map (same : ∀ character, isBlank (replace character) = isBlank character)
    (characters : List Char) :
    trimEnd (characters.map replace) = (trimEnd characters).map replace := by
  have kept : isBlank ∘ replace = isBlank := funext same
  rw [trimEnd, ← List.map_reverse, List.dropWhile_map, kept, ← List.map_reverse, trimEnd]

theorem trim_map (same : ∀ character, isBlank (replace character) = isBlank character)
    (characters : List Char) : trim (characters.map replace) = (trim characters).map replace := by
  have kept : isBlank ∘ replace = isBlank := funext same
  rw [trim, trimStart, List.dropWhile_map, kept, trimEnd_map same, trim, trimStart]

theorem splitFirst?_map {separator : Char}
    (same : ∀ character, replace character = separator ↔ character = separator)
    (characters : List Char) :
    splitFirst? separator (characters.map replace) =
      (splitFirst? separator characters).map fun parts =>
        (parts.1.map replace, parts.2.map replace) := by
  induction characters with
  | nil => rfl
  | cons character rest ih =>
      by_cases found : character = separator
      · simp [splitFirst?, found, (same separator).mpr rfl]
      · simp [splitFirst?, found, same, ih, Function.comp_def]

end

/-! ## A run of characters in a text -/

/-- A run does not start among characters without its second one that do not end with its first. -/
theorem containsRun_append {first second : Char} {run before : List Char}
    (other : second ∉ before) (last : before.getLast? ≠ some first) (rest : List Char) :
    containsRun (first :: second :: run) (before ++ rest) =
      containsRun (first :: second :: run) rest := by
  induction before with
  | nil => rfl
  | cons character before ih =>
      rw [List.mem_cons, not_or] at other
      cases before with
      | nil =>
          have notFirst : first ≠ character := by
            rintro rfl
            exact last rfl
          simp [containsRun, notFirst]
      | cons next before =>
          have notSecond : second ≠ next := fun same => other.2 (same ▸ List.mem_cons_self)
          rw [← ih other.2 (by simpa using last)]
          simp [containsRun, notSecond]

/-! ## Lowercase -/

theorem asciiLower_of_not_capital {character : Char}
    (other : ¬ (0x41 ≤ character.toNat ∧ character.toNat ≤ 0x5A)) :
    asciiLower character = character := by
  simp only [asciiLower, Bool.and_eq_true, decide_eq_true_eq]
  rw [if_neg other]

theorem asciiLower_of_isBlank {character : Char} (blank : isBlank character = true) :
    asciiLower character = character := by
  have noCapitals : ∀ code ∈ blankCodes, ¬ (0x41 ≤ code ∧ code ≤ 0x5A) := by decide
  exact asciiLower_of_not_capital (noCapitals _ (toNat_mem_blankCodes blank))

namespace Lowercase

theorem lowered_of_plain {character : Char}
    (plain : character.toNat < 0x80 ∨ isBlank character = true) (before after : List Char) :
    lowered before character after = [asciiLower character] := by
  by_cases ascii : character.toNat < 0x80
  · rw [lowered, if_pos ascii]
  · have blank := plain.resolve_left ascii
    have uncased : ∀ code ∈ blankCodes, code ≠ 0x3A3 ∧ code ≠ 0x130 ∧ counterpart code = code := by
      decide
    obtain ⟨notSigma, notDotted, same⟩ := uncased _ (toNat_mem_blankCodes blank)
    rw [lowered, if_neg ascii, if_neg notSigma, if_neg notDotted, same, Char.ofNat_toNat,
      asciiLower_of_isBlank blank]

theorem loweredFrom_append {left : List Char}
    (plain : ∀ character ∈ left, character.toNat < 0x80 ∨ isBlank character = true)
    (before right : List Char) :
    loweredFrom before (left ++ right) =
      asciiLowercase left ++ loweredFrom (left.reverse ++ before) right := by
  induction left generalizing before with
  | nil => rfl
  | cons character rest ih =>
      have plainRest := fun other member => plain other (List.mem_cons_of_mem character member)
      rw [List.cons_append, loweredFrom, lowered_of_plain (plain character List.mem_cons_self),
        ih plainRest]
      simp [asciiLowercase]

end Lowercase

end FaultTriage.Text
