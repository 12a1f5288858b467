import FaultTriage.Proofs.Triage.ListingAddress

/-!
# Where a mnemonic ends

A field with attached words is one word, or an attached word with the blanks and the word after it.
A shorter way to end a mnemonic is to take what stands before the first space.  The two ways find
the same last word and the same arguments exactly where the first space stands right after the
field.
-/

set_option autoImplicit false

namespace FaultTriage

namespace Text

/-! ## The last word -/

def lastWord (characters : List Char) : List Char :=
  (characters.reverse.takeWhile fun character => !isAsciiBlank character).reverse

theorem lastWord_of_solid {word : List Char}
    (solid : ∀ character ∈ word, isAsciiBlank character = false) : lastWord word = word := by
  rw [lastWord, List.takeWhile_eq_self_iff.mpr, List.reverse_reverse]
  intro character member
  simp [solid character (List.mem_reverse.mp member)]

theorem lastWord_append {word : List Char} {blank : Char} (isBlank : isAsciiBlank blank = true)
    (solid : ∀ character ∈ word, isAsciiBlank character = false) (before : List Char) :
    lastWord (before ++ blank :: word) = word := by
  have reversed : (before ++ blank :: word).reverse = word.reverse ++ blank :: before.reverse := by
    simp
  rw [lastWord, reversed, List.takeWhile_append_of_pos,
    List.takeWhile_cons_of_neg (by simp [isBlank]), List.append_nil, List.reverse_reverse]
  intro character member
  simp [solid character (List.mem_reverse.mp member)]

theorem lastWord_append_blanks {blanks word : List Char} (nonempty : blanks ≠ [])
    (blank : ∀ character ∈ blanks, isAsciiBlank character = true)
    (solid : ∀ character ∈ word, isAsciiBlank character = false) (before : List Char) :
    lastWord (before ++ (blanks ++ word)) = word := by
  rw [← List.dropLast_concat_getLast nonempty, List.append_assoc, ← List.append_assoc before]
  exact lastWord_append (blank _ (List.getLast_mem nonempty)) solid _

theorem lastWord_map {replace : Char → Char}
    (same : ∀ character, isAsciiBlank (replace character) = isAsciiBlank character)
    (characters : List Char) :
    lastWord (characters.map replace) = (lastWord characters).map replace := by
  have kept : (fun character => !isAsciiBlank character) ∘ replace =
      fun character => !isAsciiBlank character := funext fun character => by simp [same]
  rw [lastWord, ← List.map_reverse, List.takeWhile_map, kept, ← List.map_reverse, lastWord]

end Text

namespace Fields

/-! ## One field -/

theorem readField_of_word (attached : List (List Char)) (absorbing : Bool) (soFar : List Char)
    {word : List Char} (nonempty : word ≠ [])
    (solid : ∀ character ∈ word, Text.isAsciiBlank character = false) (rest : List Char) :
    readField attached absorbing soFar (word ++ rest) =
      readField attached false (soFar ++ word) rest := by
  induction word generalizing absorbing soFar with
  | nil => exact absurd rfl nonempty
  | cons character word ih =>
      rw [List.forall_mem_cons] at solid
      cases word with
      | nil => simp [readField, solid.1]
      | cons second word =>
          have more := ih false (soFar ++ [character]) (List.cons_ne_nil _ _) solid.2
          simpa [readField, solid.1] using more

theorem readField_of_blanks (attached : List (List Char)) (soFar : List Char) {blanks : List Char}
    (blank : ∀ character ∈ blanks, Text.isAsciiBlank character = true) (rest : List Char) :
    readField attached true soFar (blanks ++ rest) =
      readField attached true (soFar ++ blanks) rest := by
  induction blanks generalizing soFar with
  | nil => simp
  | cons character blanks ih =>
      rw [List.forall_mem_cons] at blank
      simp [readField, blank.1, ih _ blank.2]

theorem readField_of_attached {attached : List (List Char)} {soFar : List Char}
    (isAttached : soFar ∈ attached) {blanks : List Char} (nonempty : blanks ≠ [])
    (blank : ∀ character ∈ blanks, Text.isAsciiBlank character = true) (rest : List Char) :
    readField attached false soFar (blanks ++ rest) =
      readField attached true (soFar ++ blanks) rest := by
  rw [← readField_of_blanks attached soFar blank rest]
  obtain ⟨character, blanks, rfl⟩ := List.exists_cons_of_ne_nil nonempty
  simp [readField, blank character List.mem_cons_self, isAttached]

theorem readField_of_unattached {attached : List (List Char)} {soFar rest : List Char}
    (ends : ∀ character ∈ rest.head?, Text.isAsciiBlank character = true)
    (unattached : soFar ∉ attached) : readField attached false soFar rest = (soFar, rest) := by
  cases rest with
  | nil => rfl
  | cons character rest => simp [readField, ends character rfl, unattached]

theorem head?_readField (attached : List (List Char)) (absorbing : Bool)
    (soFar characters : List Char) :
    ∀ character ∈ (readField attached absorbing soFar characters).2.head?,
      Text.isAsciiBlank character = true := by
  induction characters generalizing absorbing soFar with
  | nil => simp [readField]
  | cons first rest ih =>
      simp only [readField]
      split
      · next blank =>
          split
          · exact ih true _
          · rintro character ⟨⟩
            exact blank
      · exact ih false _

theorem readField_map {attached : List (List Char)} {replace : Char → Char}
    (same : ∀ character, Text.isAsciiBlank (replace character) = Text.isAsciiBlank character)
    (recognised : ∀ word, word.map replace ∈ attached ↔ word ∈ attached)
    (absorbing : Bool) (soFar characters : List Char) :
    readField attached absorbing (soFar.map replace) (characters.map replace) =
      ((readField attached absorbing soFar characters).1.map replace,
        (readField attached absorbing soFar characters).2.map replace) := by
  induction characters generalizing absorbing soFar with
  | nil => simp [readField]
  | cons character rest ih =>
      have extended : soFar.map replace ++ [replace character] =
          (soFar ++ [character]).map replace := by
        simp
      have contained : attached.contains (soFar.map replace) = attached.contains soFar := by
        rw [Bool.eq_iff_iff]
        simp [recognised]
      rw [List.map_cons, readField, readField, same, contained, extended, ih, ih]
      split
      · split <;> simp
      · rfl

theorem next_map {attached : List (List Char)} {replace : Char → Char}
    (same : ∀ character, Text.isAsciiBlank (replace character) = Text.isAsciiBlank character)
    (recognised : ∀ word, word.map replace ∈ attached ↔ word ∈ attached) (characters : List Char) :
    next attached (characters.map replace) =
      ⟨(next attached characters).field.map replace, (next attached characters).gap.map replace,
        (next attached characters).rest.map replace⟩ := by
  have kept : Text.isAsciiBlank ∘ replace = Text.isAsciiBlank := funext same
  have read := readField_map same recognised false [] characters
  rw [List.map_nil] at read
  simp only [next, read, List.takeWhile_map, List.dropWhile_map, kept]

theorem span_of_solid {characters : List Char}
    (starts : ∀ character ∈ characters.head?, Text.isAsciiBlank character = false) :
    characters.takeWhile Text.isAsciiBlank = [] ∧
      characters.dropWhile Text.isAsciiBlank = characters := by
  cases characters with
  | nil => exact ⟨rfl, rfl⟩
  | cons character rest => simp [starts character rfl]

theorem head?_append_solid {word : List Char} (nonempty : word ≠ [])
    (solid : ∀ character ∈ word, Text.isAsciiBlank character = false) (rest : List Char) :
    ∀ character ∈ (word ++ rest).head?, Text.isAsciiBlank character = false := by
  obtain ⟨first, word, rfl⟩ := List.exists_cons_of_ne_nil nonempty
  rintro character ⟨⟩
  exact solid first List.mem_cons_self

theorem next_append_space {attached : List (List Char)} {word rest : List Char}
    (unattached : word ∉ attached) (nonempty : word ≠ [])
    (solid : ∀ character ∈ word, Text.isAsciiBlank character = false)
    (starts : ∀ character ∈ rest.head?, Text.isAsciiBlank character = false) :
    next attached (word ++ ' ' :: rest) = ⟨word, [' '], rest⟩ := by
  have read : readField attached false [] (word ++ ' ' :: rest) = (word, ' ' :: rest) := by
    rw [readField_of_word _ _ _ nonempty solid, List.nil_append,
      readField_of_unattached _ unattached]
    rintro character ⟨⟩
    rfl
  have stops := span_of_solid starts
  have space : Text.isAsciiBlank ' ' = true := rfl
  simp [next, read, space, stops]

/-- A field is one word, or an attached word with the blanks and the word after it. -/
inductive FieldShape (attached : List (List Char)) : List Char → Prop where
  | word {word : List Char} (nonempty : word ≠ [])
      (solid : ∀ character ∈ word, Text.isAsciiBlank character = false) : FieldShape attached word
  | attached {first gap last : List Char} (isAttached : first ∈ attached) (blanks : gap ≠ [])
      (blank : ∀ character ∈ gap, Text.isAsciiBlank character = true) (nonempty : last ≠ [])
      (solid : ∀ character ∈ last, Text.isAsciiBlank character = false) :
      FieldShape attached (first ++ (gap ++ last))

theorem FieldShape.lastWord_ne_nil {attached : List (List Char)} {field : List Char}
    (shape : FieldShape attached field) : Text.lastWord field ≠ [] := by
  cases shape with
  | word nonempty solid => rwa [Text.lastWord_of_solid solid]
  | attached _ blanks blank nonempty solid => rwa [Text.lastWord_append_blanks blanks blank solid]

theorem FieldShape.ne_nil {attached : List (List Char)} {field : List Char}
    (shape : FieldShape attached field) : field ≠ [] := by
  rintro rfl
  exact shape.lastWord_ne_nil rfl

structure IsReading (attached : List (List Char)) (characters : List Char) (found : Next) :
    Prop where
  parts : characters = found.field ++ (found.gap ++ found.rest)
  shape : FieldShape attached found.field
  blank : ∀ character ∈ found.gap, Text.isAsciiBlank character = true
  starts : ∀ character ∈ found.rest.head?, Text.isAsciiBlank character = false
  separated : found.gap = [] → found.rest = []
  continued : found.rest = [] → found.gap = []
  ends : ∀ character ∈ characters.getLast?, Text.isBlank character = false

def Solid (attached : List (List Char)) : Prop :=
  ∀ word ∈ attached, ∀ character ∈ word, Text.isBlank character = false

theorem fieldShape_readField {attached : List (List Char)} (words : Solid attached)
    {characters : List Char} (nonempty : characters ≠ [])
    (starts : ∀ character ∈ characters.head?, Text.isBlank character = false)
    (ends : ∀ character ∈ characters.getLast?, Text.isBlank character = false) :
    FieldShape attached (readField attached false [] characters).1 := by
  obtain ⟨first, rest, rfl, solid, blankRest⟩ :=
    Text.exists_append_of_value Text.isAsciiBlank false characters
  have firstNonempty : first ≠ [] := by
    rintro rfl
    obtain ⟨character, others, rfl⟩ := List.exists_cons_of_ne_nil nonempty
    have blank := Text.isBlank_of_isAsciiBlank (blankRest character rfl)
    simp [starts character rfl] at blank
  rw [readField_of_word _ _ _ firstNonempty solid, List.nil_append]
  by_cases isAttached : first ∈ attached
  · obtain ⟨gap, more, rfl, blank, solidMore⟩ :=
      Text.exists_append_of_value Text.isAsciiBlank true rest
    cases gap with
    | nil =>
        -- Nothing follows the attached word.
        cases more with
        | nil => exact .word firstNonempty solid
        | cons character more =>
            have same := (blankRest character rfl).symm.trans (solidMore character rfl)
            cases same
    | cons character gap =>
        obtain ⟨last, rest, rfl, solidLast, ends'⟩ :=
          Text.exists_append_of_value Text.isAsciiBlank false more
        have lastNonempty : last ≠ [] := by
          rintro rfl
          cases rest with
          | cons character rest =>
              have same := (ends' character rfl).symm.trans (solidMore character rfl)
              cases same
          | nil =>
              rw [List.append_nil, List.append_nil] at ends
              cases Text.eq_nil_of_solid_getLast? ends blank
        rw [readField_of_attached isAttached (List.cons_ne_nil _ _) blank,
          readField_of_word _ _ _ lastNonempty solidLast, readField_of_unattached ends']
        · rw [List.append_assoc]
          exact .attached isAttached (List.cons_ne_nil _ _) blank lastNonempty solidLast
        · intro holdsBlank
          have solidCharacter := words _ holdsBlank character (by simp)
          rw [Text.isBlank_of_isAsciiBlank (blank character List.mem_cons_self)] at solidCharacter
          cases solidCharacter
  · rw [readField_of_unattached blankRest isAttached]
    exact .word firstNonempty solid

section

variable (attached : List (List Char)) (characters : List Char)

theorem next_gap_blank :
    ∀ character ∈ (next attached characters).gap, Text.isAsciiBlank character = true :=
  fun _ member => List.mem_takeWhile_imp member

theorem next_rest_solid :
    ∀ character ∈ (next attached characters).rest.head?, Text.isAsciiBlank character = false := by
  intro character member
  have stopped := List.head?_dropWhile_not Text.isAsciiBlank
    (readField attached false [] characters).2
  rw [show List.dropWhile _ _ = (next attached characters).rest from rfl,
    Option.mem_def.mp member] at stopped
  simpa using stopped

theorem next_rest_eq_nil (gapless : (next attached characters).gap = []) :
    (next attached characters).rest = [] := by
  have whole : (next attached characters).gap ++ (next attached characters).rest =
      (readField attached false [] characters).2 := List.takeWhile_append_dropWhile
  rw [gapless, List.nil_append] at whole
  have blank := head?_readField attached false [] characters
  have solid := next_rest_solid attached characters
  rw [← whole] at blank
  cases present : (next attached characters).rest with
  | nil => rfl
  | cons character rest =>
      rw [present] at blank solid
      cases (blank character rfl).symm.trans (solid character rfl)

theorem next_gap_eq_nil (ended : (next attached characters).rest = [])
    (ends : ∀ character ∈ characters.getLast?, Text.isAsciiBlank character = false) :
    (next attached characters).gap = [] := by
  by_contra blanks
  have whole := congrArg List.getLast? (next_append attached characters)
  rw [ended, List.append_nil, List.getLast?_append, List.getLast?_eq_some_getLast blanks] at whole
  have solid := ends _ whole.symm
  rw [next_gap_blank attached characters _ (List.getLast_mem blanks)] at solid
  cases solid

end

theorem isReading_next {attached : List (List Char)} (words : Solid attached)
    {characters : List Char} (nonempty : characters ≠ [])
    (starts : ∀ character ∈ characters.head?, Text.isBlank character = false)
    (ends : ∀ character ∈ characters.getLast?, Text.isBlank character = false) :
    IsReading attached characters (next attached characters) := by
  have solidEnd : ∀ character ∈ characters.getLast?, Text.isAsciiBlank character = false :=
    fun character last => Text.isAsciiBlank_of_not_isBlank (ends character last)
  exact
    { parts := (next_append attached characters).symm
      shape := fieldShape_readField words nonempty starts ends
      blank := next_gap_blank attached characters
      starts := next_rest_solid attached characters
      separated := next_rest_eq_nil attached characters
      continued := fun ended => next_gap_eq_nil attached characters ended solidEnd
      ends := ends }

/-! ## What stands before the first space -/

def spaceSplit (characters : List Char) : List Char × List Char :=
  (Text.splitFirst? ' ' characters).getD (characters, [])

theorem spaceSplit_append {left : List Char} (absent : ' ' ∉ left) (right : List Char) :
    spaceSplit (left ++ ' ' :: right) = (left, right) := by
  rw [spaceSplit, Text.splitFirst?_append absent, Option.getD_some]

theorem spaceSplit_of_not_mem {characters : List Char} (absent : ' ' ∉ characters) :
    spaceSplit characters = (characters, []) := by
  rw [spaceSplit, Text.splitFirst?_eq_none_iff.mpr absent, Option.getD_none]

/-- Nothing but what follows `left` is left after the first space if that is not in `left`. -/
theorem length_spaceSplit_append_lt {left right : List Char} (absent : ' ' ∉ left)
    (nonempty : right ≠ []) : (spaceSplit (left ++ right)).2.length < right.length := by
  by_cases space : ' ' ∈ right
  · obtain ⟨before, after, rfl, first⟩ := List.eq_append_cons_of_mem space
    rw [← List.append_assoc, spaceSplit_append (by simp [absent, first])]
    simp
    omega
  · rw [spaceSplit_of_not_mem (by simp [absent, space])]
    exact List.length_pos_iff.mpr nonempty

/-- The first space of a text stands right after the field, and the arguments need no cleaning. -/
structure Next.SplitsAtSpace (found : Next) : Prop where
  field : ' ' ∉ found.field
  gap : ∀ character ∈ found.gap.head?, character = ' '
  tabless : '\t' ∉ found.rest
  starts : ∀ character ∈ found.rest.head?, Text.isBlank character = false

/-- Decided by running through the text and not through all characters. -/
instance (found : Next) : Decidable found.SplitsAtSpace :=
  decidable_of_iff
    (' ' ∉ found.field ∧ found.gap.head?.all (· == ' ') = true ∧ '\t' ∉ found.rest ∧
      found.rest.head?.all (!Text.isBlank ·) = true)
    (by
      have gap : found.gap.head?.all (· == ' ') = true ↔
          ∀ character ∈ found.gap.head?, character = ' ' := by
        cases found.gap.head? <;> simp
      have starts : found.rest.head?.all (!Text.isBlank ·) = true ↔
          ∀ character ∈ found.rest.head?, Text.isBlank character = false := by
        cases found.rest.head? <;> simp
      rw [gap, starts]
      exact ⟨fun ⟨field, gap, tabless, starts⟩ => ⟨field, gap, tabless, starts⟩,
        fun splits => ⟨splits.field, splits.gap, splits.tabless, splits.starts⟩⟩)

section

variable {attached : List (List Char)} {characters : List Char} {found : Next}

theorem IsReading.exists_parts_of_space (reading : IsReading attached characters found)
    (space : ' ' ∈ found.field) (words : Solid attached) :
    ∃ first before after last, first ∈ attached ∧ ' ' ∉ first ++ before ∧
      (∀ character ∈ before, Text.isAsciiBlank character = true) ∧
      (∀ character ∈ after, Text.isAsciiBlank character = true) ∧ last ≠ [] ∧
      Text.lastWord found.field = last ∧
      characters =
        (first ++ before) ++ ' ' :: (after ++ (last ++ (found.gap ++ found.rest))) := by
  have parts := reading.parts
  generalize field_eq : found.field = field at parts space
  have shape := field_eq ▸ reading.shape
  cases shape with
  | word nonempty solid => exact absurd (solid ' ' space) (by decide)
  | @attached first gap last isAttached blanks blank nonempty solid =>
      have notInFirst : ' ' ∉ first := fun inFirst => by cases words first isAttached ' ' inFirst
      have notInLast : ' ' ∉ last := fun inLast => by cases solid ' ' inLast
      have inGap : ' ' ∈ gap := by simpa [notInFirst, notInLast] using space
      have lastWord := Text.lastWord_append_blanks blanks blank solid first
      obtain ⟨before, after, rfl, absent⟩ := List.eq_append_cons_of_mem inGap
      rw [List.forall_mem_append, List.forall_mem_cons] at blank
      refine ⟨first, before, after, last, isAttached, by simp [notInFirst, absent], blank.1,
        blank.2.2, nonempty, lastWord, ?_⟩
      rw [parts]
      simp

theorem IsReading.lastWord_spaceSplit_of_space (reading : IsReading attached characters found)
    (space : ' ' ∈ found.field) (words : Solid attached) :
    Text.lastWord (spaceSplit characters).1 = [] ∨
      Text.lastWord (spaceSplit characters).1 ∈ attached := by
  obtain ⟨first, before, after, last, isAttached, absent, blank, _, _, _, parts⟩ :=
    reading.exists_parts_of_space space words
  rw [parts, spaceSplit_append absent]
  cases before with
  | nil =>
      right
      rwa [List.append_nil, Text.lastWord_of_solid fun character member =>
        Text.isAsciiBlank_of_not_isBlank (words first isAttached character member)]
  | cons character before =>
      left
      have ended := Text.lastWord_append_blanks (List.cons_ne_nil _ _) blank
        (List.forall_mem_nil _) first
      rwa [List.append_nil] at ended

/-- The field that a space divides can only have the same last word twice, as in `rep rep`. -/
theorem IsReading.length_lt_of_space (reading : IsReading attached characters found)
    (space : ' ' ∈ found.field) (words : Solid attached)
    (sameWord : Text.lastWord (spaceSplit characters).1 = Text.lastWord found.field) :
    found.rest.length < (Text.trim (spaceSplit characters).2).length := by
  have root := reading.lastWord_spaceSplit_of_space space words
  obtain ⟨first, before, after, last, _, absent, _, blank, nonempty, lastWord, parts⟩ :=
    reading.exists_parts_of_space space words
  rw [sameWord, lastWord] at root
  have solid := words last (root.resolve_left nonempty)
  have regrouped : characters =
      ((first ++ before) ++ ' ' :: after) ++ (last ++ (found.gap ++ found.rest)) := by
    rw [parts]
    simp
  have ends := reading.ends
  rw [regrouped] at ends
  rw [parts, spaceSplit_append absent, Text.trim_append_of_solid ?_ ?_ ends]
  · have positive := List.length_pos_iff.mpr nonempty
    simp only [List.length_append]
    omega
  · exact fun character member => Text.isBlank_of_isAsciiBlank (blank character member)
  · obtain ⟨character, last, rfl⟩ := List.exists_cons_of_ne_nil nonempty
    rintro _ ⟨⟩
    exact solid character List.mem_cons_self

theorem IsReading.trim_eq_iff (reading : IsReading attached characters found) {blanks : List Char}
    (blank : ∀ character ∈ blanks, Text.isAsciiBlank character = true) :
    Text.trim (blanks ++ found.rest) = found.rest.map Disassembly.withoutTab ↔
      '\t' ∉ found.rest ∧ ∀ character ∈ found.rest.head?, Text.isBlank character = false := by
  have isBlank := fun character member => Text.isBlank_of_isAsciiBlank (blank character member)
  have ends := reading.ends
  rw [reading.parts, ← List.append_assoc] at ends
  constructor
  · intro same
    have starts : ∀ character ∈ found.rest.head?, Text.isBlank character = false := by
      intro character member
      obtain ⟨others, rest_eq⟩ := List.head?_eq_some_iff.mp member
      by_contra blank
      have shorter := Text.length_trim_le others
      rw [Text.trim, Text.trimStart_append isBlank, rest_eq, Text.trimStart,
        List.dropWhile_cons_of_pos (by simpa using blank)] at same
      have sameLength := congrArg List.length same
      rw [List.length_map, List.length_cons] at sameLength
      rw [Text.trim, Text.trimStart] at shorter
      omega
    rw [Text.trim_append_of_solid isBlank starts ends] at same
    exact ⟨Disassembly.map_withoutTab_eq_self_iff.mp same.symm, starts⟩
  · rintro ⟨tabless, starts⟩
    rw [Text.trim_append_of_solid isBlank starts ends,
      Disassembly.map_withoutTab_eq_self_iff.mpr tabless]

theorem IsReading.differs_of_other_gap (reading : IsReading attached characters found)
    (absent : ' ' ∉ found.field) {first : Char} {gap : List Char}
    (gap_eq : found.gap = first :: gap) (other : first ≠ ' ')
    (sameWord : Text.lastWord (spaceSplit characters).1 = Text.lastWord found.field) :
    (Text.trim (spaceSplit characters).2).length < found.rest.length := by
  by_cases space : ' ' ∈ gap
  · -- The mnemonic then ends with a blank.
    obtain ⟨before, after, rfl, absentBefore⟩ := List.eq_append_cons_of_mem space
    have parts : characters =
        (found.field ++ first :: before) ++ ' ' :: (after ++ found.rest) := by
      rw [reading.parts, gap_eq]
      simp
    rw [parts, spaceSplit_append (by simp [absent, absentBefore, Ne.symm other])] at sameWord
    have blank := reading.blank
    rw [gap_eq, ← List.cons_append, List.forall_mem_append] at blank
    have ended := Text.lastWord_append_blanks (List.cons_ne_nil first before) blank.1
      (List.forall_mem_nil _) found.field
    rw [List.append_nil] at ended
    exact absurd (sameWord.symm.trans ended) reading.shape.lastWord_ne_nil
  · have nonempty : found.rest ≠ [] := by
      intro ended
      rw [reading.continued ended] at gap_eq
      cases gap_eq
    have parts : characters = (found.field ++ first :: gap) ++ found.rest := by
      rw [reading.parts, gap_eq, List.append_assoc]
    rw [parts]
    refine Nat.lt_of_le_of_lt (Text.length_trim_le _) (length_spaceSplit_append_lt ?_ nonempty)
    simp [absent, space, Ne.symm other]

theorem IsReading.splitsAtSpace_iff (reading : IsReading attached characters found)
    (words : Solid attached) :
    Text.lastWord (spaceSplit characters).1 = Text.lastWord found.field ∧
        Text.trim (spaceSplit characters).2 = found.rest.map Disassembly.withoutTab ↔
      found.SplitsAtSpace := by
  by_cases space : ' ' ∈ found.field
  · constructor
    · rintro ⟨sameWord, sameRest⟩
      have longer := reading.length_lt_of_space space words sameWord
      rw [sameRest, List.length_map] at longer
      omega
    · intro splits
      exact absurd space splits.field
  · cases gap_eq : found.gap with
    | nil =>
        have ended := reading.separated gap_eq
        have parts := reading.parts
        rw [gap_eq, ended, List.append_nil, List.append_nil] at parts
        rw [parts, spaceSplit_of_not_mem space, ended]
        exact ⟨fun _ => ⟨space, by simp [gap_eq], by simp [ended], by simp [ended]⟩,
          fun _ => ⟨rfl, rfl⟩⟩
    | cons first gap =>
        by_cases isSpace : first = ' '
        · subst isSpace
          have blank := reading.blank
          rw [gap_eq, List.forall_mem_cons] at blank
          have parts := reading.parts
          rw [gap_eq, List.cons_append] at parts
          rw [parts, spaceSplit_append space, reading.trim_eq_iff blank.2]
          exact ⟨fun clean => ⟨space, by simp [gap_eq], clean.2.1, clean.2.2⟩,
            fun splits => ⟨rfl, splits.tabless, splits.starts⟩⟩
        · constructor
          · rintro ⟨sameWord, sameRest⟩
            have shorter := reading.differs_of_other_gap space gap_eq isSpace sameWord
            rw [sameRest, List.length_map] at shorter
            omega
          · intro splits
            exact absurd (splits.gap first (by simp [gap_eq])) isSpace

end

end Fields

end FaultTriage
