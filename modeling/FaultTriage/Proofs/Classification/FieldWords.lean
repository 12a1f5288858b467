import FaultTriage.Proofs.Classification.LineLayout

/-!
# The words behind the fields

A line has fields exactly when it has three words: the first one is the address, the second one the
opcode, and the mnemonic starts with the third one and grows by a word as long as it is an attached
word.  Each field, and each run of blanks around the fields, is cut out of the text by its offsets.
-/

set_option autoImplicit false

namespace FaultTriage

namespace Text

/-! ## Words -/

def asciiWords (text : List Char) : List (List Char) :=
  (text.splitOnP isAsciiBlank).filter (!·.isEmpty)

theorem asciiWords_nil : asciiWords [] = [] := by
  rw [asciiWords, List.splitOnP_nil]
  rfl

theorem asciiWords_append_blank {blank : Char} (isBlank : isAsciiBlank blank = true)
    (before after : List Char) :
    asciiWords (before ++ blank :: after) = asciiWords before ++ asciiWords after := by
  rw [asciiWords, List.splitOnP_append_cons before after isBlank, List.filter_append]
  rfl

theorem asciiWords_blanks_append {blanks : List Char}
    (blank : ∀ character ∈ blanks, isAsciiBlank character = true) (rest : List Char) :
    asciiWords (blanks ++ rest) = asciiWords rest := by
  induction blanks with
  | nil => rfl
  | cons first blanks ih =>
      rw [List.forall_mem_cons] at blank
      have skipped := asciiWords_append_blank blank.1 [] (blanks ++ rest)
      rw [asciiWords_nil, List.nil_append, List.nil_append] at skipped
      rw [List.cons_append, skipped, ih blank.2]

theorem asciiWords_word {word : List Char} (nonempty : word ≠ [])
    (solid : ∀ character ∈ word, isAsciiBlank character = false) : asciiWords word = [word] := by
  rw [asciiWords, List.splitOnP_eq_singleton fun character member => by
    simp [solid character member]]
  simp [nonempty]

theorem asciiWords_word_append {word rest : List Char} (nonempty : word ≠ [])
    (solid : ∀ character ∈ word, isAsciiBlank character = false)
    (ends : ∀ character ∈ rest.head?, isAsciiBlank character = true) :
    asciiWords (word ++ rest) = word :: asciiWords rest := by
  cases rest with
  | nil => rw [List.append_nil, asciiWords_word nonempty solid, asciiWords_nil]
  | cons blank rest =>
      have isBlank := ends blank rfl
      have skipped := asciiWords_blanks_append (List.forall_mem_singleton.mpr isBlank) rest
      rw [asciiWords_append_blank isBlank, asciiWords_word nonempty solid]
      exact congrArg (word :: ·) skipped.symm

theorem byteLength_pos {characters : List Char} (nonempty : characters ≠ []) :
    0 < byteLength characters := by
  obtain ⟨first, rest, rfl⟩ := List.exists_cons_of_ne_nil nonempty
  rw [byteLength_cons]
  exact Nat.add_pos_left first.utf8Size_pos _

end Text

namespace Fields

open Text

variable {attached : List (List Char)}

/-! ## Growing a field -/

/--
A field that has come to `soFar`, with `rest` behind it, becomes `field` with `after` behind it: as
long as it is an attached word and a word follows, it takes in the blanks in between and that word.
-/
inductive Grows (attached : List (List Char)) :
    (soFar rest field after : List Char) → Prop where
  | ends {soFar rest : List Char} (last : soFar ∉ attached ∨ asciiWords rest = []) :
      Grows attached soFar rest soFar rest
  | takesIn {soFar gap word rest field after : List Char} (isAttached : soFar ∈ attached)
      (separated : gap ≠ []) (blank : ∀ character ∈ gap, isAsciiBlank character = true)
      (nonempty : word ≠ []) (solid : ∀ character ∈ word, isAsciiBlank character = false)
      (complete : ∀ character ∈ rest.head?, isAsciiBlank character = true)
      (grows : Grows attached (soFar ++ (gap ++ word)) rest field after) :
      Grows attached soFar (gap ++ (word ++ rest)) field after

theorem grows_readField (attached : List (List Char)) (soFar : List Char) {gap rest : List Char}
    (blank : ∀ character ∈ gap, isAsciiBlank character = true) (separated : gap = [] ↔ rest = [])
    (trimmed : Trimmed rest) :
    Grows attached soFar (gap ++ rest) (readField attached false soFar (gap ++ rest)).1
      (readField attached false soFar (gap ++ rest)).2 := by
  -- Each word taken in leaves a shorter text.
  induction size : rest.length using Nat.strong_induction_on generalizing soFar gap rest with
  | _ length ih =>
      by_cases empty : rest = []
      · rw [empty, separated.mpr empty]
        exact .ends (.inr asciiWords_nil)
      obtain ⟨word, nextGap, later, rfl, splits⟩ := trimmed.exists_splits empty
      have gapNonempty : gap ≠ [] := fun none => empty (separated.mp none)
      by_cases isAttached : soFar ∈ attached
      · rw [readField_of_attached isAttached gapNonempty blank,
          readField_of_word _ _ _ splits.nonempty splits.solid, List.append_assoc]
        refine .takesIn isAttached gapNonempty blank splits.nonempty splits.solid
          splits.head?_blank ?_
        refine ih later.length ?_ _ splits.blank splits.separated splits.trimmed rfl
        have positive := List.length_pos_iff.mpr splits.nonempty
        simp only [List.length_append] at size
        omega
      · have stops : ∀ character ∈ (gap ++ (word ++ (nextGap ++ later))).head?,
            isAsciiBlank character = true := by
          obtain ⟨first, others, rfl⟩ := List.exists_cons_of_ne_nil gapNonempty
          rintro character ⟨⟩
          exact blank _ List.mem_cons_self
        rw [readField_of_unattached stops isAttached]
        exact .ends (.inl isAttached)

/-! ## The words of a line -/

theorem Splits.asciiWords_eq {word gap rest : List Char} (splits : Splits word gap rest) :
    asciiWords (word ++ (gap ++ rest)) = word :: asciiWords rest := by
  rw [asciiWords_word_append splits.nonempty splits.solid splits.head?_blank,
    asciiWords_blanks_append splits.blank]

structure ReadsWord (text : List Char) (found : Next) : Prop where
  splits : Splits found.field found.gap found.rest
  words : asciiWords text = found.field :: asciiWords found.rest

structure ReadsGrown (attached : List (List Char)) (text : List Char) (found : Next) : Prop where
  present : found.field ≠ []
  blank : ∀ character ∈ found.gap, isAsciiBlank character = true
  separated : found.gap = [] ↔ found.rest = []
  starts : ∀ character ∈ found.rest.head?, isAsciiBlank character = false
  grown : ∃ word after, asciiWords text = word :: asciiWords after ∧
    Grows attached word after found.field (found.gap ++ found.rest)

theorem Trimmed.readsWord_next {text : List Char} (trimmed : Trimmed text) (nonempty : text ≠ []) :
    ReadsWord text (next [] text) := by
  obtain ⟨word, gap, rest, rfl, splits⟩ := trimmed.exists_splits nonempty
  rw [splits.next_eq (by simp)]
  exact ⟨splits, splits.asciiWords_eq⟩

theorem Grows.ne_nil {soFar rest field after : List Char}
    (grows : Grows attached soFar rest field after) (nonempty : soFar ≠ []) : field ≠ [] := by
  induction grows with
  | ends => exact nonempty
  | takesIn _ _ _ _ _ _ _ ih => exact ih (List.append_ne_nil_of_left_ne_nil nonempty _)

theorem Trimmed.readsGrown_next {text : List Char} (trimmed : Trimmed text) (nonempty : text ≠ [])
    (attached : List (List Char)) : ReadsGrown attached text (next attached text) := by
  obtain ⟨word, gap, rest, rfl, splits⟩ := trimmed.exists_splits nonempty
  have grows : Grows attached word (gap ++ rest) (next attached (word ++ (gap ++ rest))).field
      ((next attached (word ++ (gap ++ rest))).gap ++
        (next attached (word ++ (gap ++ rest))).rest) := by
    have read := grows_readField attached word splits.blank splits.separated splits.trimmed
    rw [← List.nil_append word, ← readField_of_word attached false [] splits.nonempty splits.solid]
      at read
    simp only [next, List.takeWhile_append_dropWhile]
    exact read
  have words := asciiWords_word_append splits.nonempty splits.solid splits.head?_blank
  exact
    { present := grows.ne_nil splits.nonempty
      blank := next_gap_blank attached _
      separated := ⟨next_rest_eq_nil attached _,
        fun ended => next_gap_eq_nil attached _ ended trimmed.ends⟩
      starts := next_rest_solid attached _
      grown := ⟨word, gap ++ rest, words, grows⟩ }

/-! ## Fields from words -/

structure TakenFrom (attached : List (List Char)) (line : List Char) (fields : Fields) : Prop where
  joined : fields.join = line
  blank : ∀ gap ∈ [fields.indent, fields.addressGap, fields.opcodeGap, fields.mnemonicGap],
    ∀ character ∈ gap, isAsciiBlank character = true
  words : ∃ third after,
    asciiWords line = fields.address :: fields.opcode :: third :: asciiWords after ∧
      Grows attached third after fields.mnemonic (fields.mnemonicGap ++ fields.arguments)
  starts : ∀ character ∈ fields.arguments.head?, isAsciiBlank character = false

structure Ordered (text : List Char) (fields : Fields) : Prop where
  address : fields.addressSpan.start < fields.addressSpan.stop
  addressGap : fields.addressSpan.stop < fields.opcodeSpan.start
  opcode : fields.opcodeSpan.start < fields.opcodeSpan.stop
  opcodeGap : fields.opcodeSpan.stop < fields.mnemonicSpan.start
  mnemonic : fields.mnemonicSpan.start < fields.mnemonicSpan.stop
  mnemonicGap : fields.arguments ≠ [] → fields.mnemonicSpan.stop < fields.argumentsSpan.start
  arguments : fields.argumentsSpan.start ≤ fields.argumentsSpan.stop
  ends : fields.argumentsSpan.stop = byteLength (trimEnd text)

theorem argumentsSpan_stop (fields : Fields) :
    fields.argumentsSpan.stop = byteLength fields.join := by
  simp only [argumentsSpan, mnemonicSpan, opcodeSpan, addressSpan, spanAfter, join,
    byteLength_append, Nat.add_assoc]

theorem Trimmed.field_eq_nil_iff {text : List Char} (trimmed : Trimmed text)
    (attached : List (List Char)) : (next attached text).field = [] ↔ text = [] := by
  constructor
  · intro absent
    by_contra nonempty
    exact (trimmed.readsGrown_next nonempty attached).present absent
  · rintro rfl
    rfl

theorem Trimmed.next_rest {text : List Char} (trimmed : Trimmed text) :
    Trimmed (next [] text).rest := by
  by_cases empty : text = []
  · subst empty
    exact trimmed_nil
  · exact (trimmed.readsWord_next empty).splits.trimmed

theorem length_asciiWords_lt {text : List Char} (trimmed : Trimmed text)
    (missing : text = [] ∨ (next [] text).rest = [] ∨ (next [] (next [] text).rest).rest = []) :
    (asciiWords text).length < 3 := by
  by_cases empty : text = []
  · simp [empty, asciiWords_nil]
  rw [(trimmed.readsWord_next empty).words]
  by_cases single : (next [] text).rest = []
  · simp [single, asciiWords_nil]
  rw [(trimmed.next_rest.readsWord_next single).words]
  have double := (missing.resolve_left empty).resolve_left single
  simp [double, asciiWords_nil]

theorem asciiWords_trimEnd (text : List Char) :
    asciiWords (trimEnd text) = asciiWords ((trimEnd text).dropWhile isAsciiBlank) := by
  have blank : ∀ character ∈ (trimEnd text).takeWhile isAsciiBlank,
      isAsciiBlank character = true := fun _ member => List.mem_takeWhile_imp member
  have skipped := asciiWords_blanks_append blank ((trimEnd text).dropWhile isAsciiBlank)
  rwa [List.takeWhile_append_dropWhile] at skipped

theorem length_asciiWords_of_split?_eq_none {text : List Char}
    (absent : split? attached text = none) : (asciiWords (trimEnd text)).length < 3 := by
  have trimmed := trimmed_dropWhile_trimEnd text
  simp only [split?, ite_eq_left_iff, reduceCtorEq, imp_false, not_not, Bool.or_eq_true,
    List.isEmpty_iff, trimmed.field_eq_nil_iff, trimmed.next_rest.field_eq_nil_iff,
    trimmed.next_rest.next_rest.field_eq_nil_iff, or_assoc] at absent
  rw [asciiWords_trimEnd]
  exact length_asciiWords_lt trimmed absent

structure ReadFrom (attached : List (List Char)) (text afterAddress afterOpcode : List Char)
    (fields : Fields) : Prop where
  indent : ∀ character ∈ fields.indent, isAsciiBlank character = true
  address : ReadsWord ((trimEnd text).dropWhile isAsciiBlank)
    ⟨fields.address, fields.addressGap, afterAddress⟩
  several : afterAddress ≠ []
  opcode : ReadsWord afterAddress ⟨fields.opcode, fields.opcodeGap, afterOpcode⟩
  enough : afterOpcode ≠ []
  mnemonic :
    ReadsGrown attached afterOpcode ⟨fields.mnemonic, fields.mnemonicGap, fields.arguments⟩

section

variable {text : List Char} {fields : Fields} (found : split? attached text = some fields)

include found

theorem exists_readFrom :
    ∃ afterAddress afterOpcode, ReadFrom attached text afterAddress afterOpcode fields := by
  have trimmed := trimmed_dropWhile_trimEnd text
  simp only [split?, Option.ite_none_left_eq_some, Bool.or_eq_true, not_or,
    List.isEmpty_iff, trimmed.field_eq_nil_iff, trimmed.next_rest.field_eq_nil_iff,
    trimmed.next_rest.next_rest.field_eq_nil_iff, Option.some.injEq] at found
  obtain ⟨⟨⟨nonempty, several⟩, enough⟩, rfl⟩ := found
  exact ⟨_, _,
    { indent := fun _ member => List.mem_takeWhile_imp member
      address := trimmed.readsWord_next nonempty
      several := several
      opcode := trimmed.next_rest.readsWord_next several
      enough := enough
      mnemonic := trimmed.next_rest.next_rest.readsGrown_next enough attached }⟩

theorem takenFrom_of_split? : TakenFrom attached (trimEnd text) fields := by
  obtain ⟨afterAddress, afterOpcode, read⟩ := exists_readFrom found
  obtain ⟨third, after, words, grows⟩ := read.mnemonic.grown
  refine ⟨join_of_split? found, ?_, ⟨third, after, ?_, grows⟩, read.mnemonic.starts⟩
  · simp only [List.forall_mem_cons]
    exact ⟨read.indent, read.address.splits.blank, read.opcode.splits.blank, read.mnemonic.blank,
      List.forall_mem_nil _⟩
  · rw [asciiWords_trimEnd, read.address.words, read.opcode.words, words]

theorem ordered_of_split? : Ordered text fields := by
  obtain ⟨afterAddress, afterOpcode, read⟩ := exists_readFrom found
  have later {start : Nat} {piece : List Char} (nonempty : piece ≠ []) :
      start < start + byteLength piece := Nat.lt_add_of_pos_right (byteLength_pos nonempty)
  exact
    { address := later read.address.splits.nonempty
      addressGap := later (mt read.address.splits.separated.mp read.several)
      opcode := later read.opcode.splits.nonempty
      opcodeGap := later (mt read.opcode.splits.separated.mp read.enough)
      mnemonic := later read.mnemonic.present
      mnemonicGap := fun present => later (mt read.mnemonic.separated.mp present)
      arguments := Nat.le_add_right _ _
      ends := (argumentsSpan_stop fields).trans (congrArg byteLength (join_of_split? found)) }

theorem cutFrom_of_split? : CutFrom text fields := by
  obtain ⟨after, parts, -⟩ := exists_trimEnd_append text
  rw [parts, ← join_of_split? found]
  exact cutFrom_join_append fields after

end

/--
A line has fields exactly when it has three words.  They then come from its words as they should,
and every one of them can be cut out of the text by its span.
-/
theorem split?_by_words (attached : List (List Char)) (text : List Char) :
    match split? attached text with
    | none => (asciiWords (trimEnd text)).length < 3
    | some fields =>
        3 ≤ (asciiWords (trimEnd text)).length ∧
          TakenFrom attached (trimEnd text) fields ∧ Ordered text fields ∧ CutFrom text fields := by
  cases found : split? attached text with
  | none => exact length_asciiWords_of_split?_eq_none found
  | some fields =>
      have taken := takenFrom_of_split? found
      obtain ⟨third, after, words, -⟩ := taken.words
      refine ⟨?_, taken, ordered_of_split? found, cutFrom_of_split? found⟩
      rw [words]
      exact Nat.le_add_left 3 _

end Fields

end FaultTriage
