import FaultTriage.Proofs.Classification.BareLine

/-!
# Layout of a line

The address, the opcode bytes, the words of the mnemonic and the arguments of a line may stand any
number of blanks apart.  The layout of a line has one space wherever blanks separate these parts,
and none at its ends.  Reading the layout gives the words that reading the line gives, although a
word that is attached to a mnemonic takes in the blanks after it; and the words decide on the
outcome of disassembling the line.
-/

set_option autoImplicit false

namespace FaultTriage

namespace Fields

/-! ## One space between words -/

structure Trimmed (text : List Char) : Prop where
  starts : ∀ character ∈ text.head?, Text.isAsciiBlank character = false
  ends : ∀ character ∈ text.getLast?, Text.isAsciiBlank character = false

structure Splits (word gap rest : List Char) : Prop where
  nonempty : word ≠ []
  solid : ∀ character ∈ word, Text.isAsciiBlank character = false
  blank : ∀ character ∈ gap, Text.isAsciiBlank character = true
  separated : gap = [] ↔ rest = []
  trimmed : Trimmed rest

def headWord (text : List Char) : List Char :=
  text.takeWhile fun character => !Text.isAsciiBlank character

def afterHead (text : List Char) : List Char :=
  (text.dropWhile fun character => !Text.isAsciiBlank character).dropWhile Text.isAsciiBlank

def oneSpace (rest : List Char) : List Char :=
  if rest.isEmpty then [] else [' ']

def collapse (later : List Char → List Char) (text : List Char) : List Char :=
  headWord text ++ (oneSpace (afterHead text) ++ later (afterHead text))

/-- Puts one space after the mnemonic, and before it if a word is attached in front of it. -/
def collapseMnemonic (attached : List (List Char)) (text : List Char) : List Char :=
  collapse (if headWord text ∈ attached then collapse id else id) text

def collapseLine (attached : List (List Char)) : List Char → List Char :=
  collapse (collapse (collapseMnemonic attached))

theorem trimmed_nil : Trimmed [] := ⟨by simp, by simp⟩

theorem trimmed_dropWhile_trimEnd (text : List Char) :
    Trimmed ((Text.trimEnd text).dropWhile Text.isAsciiBlank) := by
  constructor
  · intro first isFirst
    have stopped := List.head?_dropWhile_not Text.isAsciiBlank (Text.trimEnd text)
    rw [Option.mem_def.mp isFirst] at stopped
    simpa using stopped
  · intro last isLast
    have parts : Text.trimEnd text =
        (Text.trimEnd text).takeWhile Text.isAsciiBlank ++
          (Text.trimEnd text).dropWhile Text.isAsciiBlank :=
      List.takeWhile_append_dropWhile.symm
    refine Text.isAsciiBlank_of_not_isBlank (Text.isBlank_getLast?_trimEnd text last ?_)
    rw [parts, List.getLast?_append, Option.mem_def.mp isLast]
    rfl

theorem Trimmed.exists_splits {text : List Char} (trimmed : Trimmed text) (nonempty : text ≠ []) :
    ∃ word gap rest, text = word ++ (gap ++ rest) ∧ Splits word gap rest := by
  obtain ⟨word, after, rfl, solid, blankAfter⟩ :=
    Text.exists_append_of_value Text.isAsciiBlank false text
  obtain ⟨gap, rest, rfl, blank, solidRest⟩ :=
    Text.exists_append_of_value Text.isAsciiBlank true after
  refine ⟨word, gap, rest, rfl, ?_, solid, blank, ⟨?_, ?_⟩, solidRest, ?_⟩
  · rintro rfl
    obtain ⟨first, others, starts⟩ := List.exists_cons_of_ne_nil nonempty
    have isFirst : first ∈ (gap ++ rest).head? := by
      rw [← List.nil_append (gap ++ rest), starts]
      exact Option.mem_some_self first
    cases (trimmed.starts first isFirst).symm.trans (blankAfter first isFirst)
  · rintro rfl
    cases rest with
    | nil => rfl
    | cons first rest => cases (solidRest first rfl).symm.trans (blankAfter first rfl)
  · rintro rfl
    by_contra blanks
    have last : gap.getLast blanks ∈ (word ++ (gap ++ [])).getLast? := by
      simp [List.getLast?_append, List.getLast?_eq_some_getLast blanks]
    cases (trimmed.ends _ last).symm.trans (blank _ (List.getLast_mem blanks))
  · intro last isLast
    refine trimmed.ends last ?_
    rw [List.getLast?_append, List.getLast?_append, Option.mem_def.mp isLast]
    rfl

section

variable {word gap rest : List Char}

theorem Splits.head?_blank (splits : Splits word gap rest) :
    ∀ character ∈ (gap ++ rest).head?, Text.isAsciiBlank character = true := by
  intro character first
  cases gap with
  | nil =>
      rw [splits.separated.mp rfl] at first
      cases first
  | cons blank gap =>
      cases first
      exact splits.blank _ List.mem_cons_self

theorem Splits.span_gap (splits : Splits word gap rest) :
    (gap ++ rest).takeWhile Text.isAsciiBlank = gap ∧
      (gap ++ rest).dropWhile Text.isAsciiBlank = rest := by
  obtain ⟨none, whole⟩ := span_of_solid splits.trimmed.starts
  rw [List.takeWhile_append_of_pos splits.blank, List.dropWhile_append_of_pos splits.blank, none,
    whole, List.append_nil]
  exact ⟨rfl, rfl⟩

theorem Splits.headWord_eq (splits : Splits word gap rest) :
    headWord (word ++ (gap ++ rest)) = word ∧ afterHead (word ++ (gap ++ rest)) = rest := by
  have solid : ∀ character ∈ word, (!Text.isAsciiBlank character) = true := by
    intro character member
    rw [splits.solid character member]
    rfl
  have stops : (gap ++ rest).takeWhile (!Text.isAsciiBlank ·) = [] ∧
      (gap ++ rest).dropWhile (!Text.isAsciiBlank ·) = gap ++ rest := by
    have blank := splits.head?_blank
    cases whole : gap ++ rest with
    | nil => exact ⟨rfl, rfl⟩
    | cons first others =>
        rw [whole] at blank
        simp [blank first rfl]
  constructor
  · rw [headWord, List.takeWhile_append_of_pos solid, stops.1, List.append_nil]
  · rw [afterHead, List.dropWhile_append_of_pos solid, stops.2, splits.span_gap.2]

theorem Splits.collapse_eq (splits : Splits word gap rest) (later : List Char → List Char) :
    collapse later (word ++ (gap ++ rest)) = word ++ (oneSpace rest ++ later rest) := by
  rw [collapse, splits.headWord_eq.1, splits.headWord_eq.2]

theorem Splits.next_eq (splits : Splits word gap rest) {attached : List (List Char)}
    (unattached : word ∈ attached → rest = []) :
    next attached (word ++ (gap ++ rest)) = ⟨word, gap, rest⟩ := by
  have read : readField attached false [] (word ++ (gap ++ rest)) = (word, gap ++ rest) := by
    rw [readField_of_word _ _ _ splits.nonempty splits.solid, List.nil_append]
    by_cases isAttached : word ∈ attached
    · -- Nothing follows that could be attached to the word.
      have alone := unattached isAttached
      rw [splits.separated.mpr alone, alone]
      rfl
    · exact readField_of_unattached splits.head?_blank isAttached
  rw [next, read, splits.span_gap.1, splits.span_gap.2]

theorem Splits.trimmed_append (splits : Splits word gap rest) :
    Trimmed (word ++ (gap ++ rest)) := by
  refine ⟨head?_append_solid splits.nonempty splits.solid _, ?_⟩
  intro last isLast
  by_cases alone : rest = []
  · rw [alone, splits.separated.mpr alone, List.append_nil, List.append_nil] at isLast
    exact splits.solid last (List.mem_of_getLast? isLast)
  · refine splits.trimmed.ends last ?_
    rw [List.getLast?_append, List.getLast?_append, List.getLast?_eq_some_getLast alone] at isLast
    rw [List.getLast?_eq_some_getLast alone]
    exact isLast

/-! ## Collapsing keeps the words -/

/-- A treatment of text that leaves trimmed text trimmed, and empty text alone empty. -/
def Keeps (later : List Char → List Char) : Prop :=
  ∀ text, Trimmed text → Trimmed (later text) ∧ (later text = [] ↔ text = [])

theorem Splits.collapsed (splits : Splits word gap rest) {later : List Char → List Char}
    (keeps : Keeps later) : Splits word (oneSpace rest) (later rest) := by
  obtain ⟨trimmed, emptiness⟩ := keeps rest splits.trimmed
  refine ⟨splits.nonempty, splits.solid, ?_, ?_, trimmed⟩
  · cases rest with
    | nil => exact List.forall_mem_nil _
    | cons => simp [oneSpace, Text.isAsciiBlank]
  · rw [emptiness]
    cases rest <;> simp [oneSpace]

theorem keeps_id : Keeps id := fun _ trimmed => ⟨trimmed, Iff.rfl⟩

theorem Keeps.collapse {later : List Char → List Char} (keeps : Keeps later) :
    Keeps (collapse later) := by
  intro text trimmed
  by_cases empty : text = []
  · subst empty
    exact keeps [] trimmed
  · obtain ⟨word, gap, rest, rfl, splits⟩ := trimmed.exists_splits empty
    rw [splits.collapse_eq]
    exact ⟨(splits.collapsed keeps).trimmed_append, by simp [splits.nonempty]⟩

theorem keeps_collapseMnemonic (attached : List (List Char)) :
    Keeps (collapseMnemonic attached) := by
  intro text trimmed
  rw [collapseMnemonic]
  split
  · exact keeps_id.collapse.collapse text trimmed
  · exact keeps_id.collapse text trimmed

theorem Trimmed.next_collapse {text : List Char} (trimmed : Trimmed text)
    {later : List Char → List Char} (keeps : Keeps later) :
    Trimmed (next [] text).rest ∧
      (next [] (collapse later text)).field = (next [] text).field ∧
      (next [] (collapse later text)).rest = later (next [] text).rest := by
  by_cases empty : text = []
  · subst empty
    have nothing : Fields.collapse later [] = [] := (keeps [] trimmed_nil).2.mpr rfl
    rw [nothing]
    exact ⟨trimmed_nil, rfl, nothing.symm⟩
  · obtain ⟨word, gap, rest, rfl, splits⟩ := trimmed.exists_splits empty
    rw [splits.collapse_eq, splits.next_eq (by simp), (splits.collapsed keeps).next_eq (by simp)]
    exact ⟨splits.trimmed, rfl, rfl⟩

end

/-! ## The words of a line -/

/-- What disassembly looks at: of a mnemonic only how it starts and the last of its words. -/
structure LineWords where
  address : List Char
  opcode : List Char
  mark : Option Char
  root : List Char
  arguments : List Char
deriving DecidableEq

def readWords (attached : List (List Char)) (text : List Char) : LineWords :=
  let address := next [] text
  let opcode := next [] address.rest
  let mnemonic := next attached opcode.rest
  ⟨address.field, opcode.field, mnemonic.field.head?, Text.lastWord mnemonic.field, mnemonic.rest⟩

section

variable {attached : List (List Char)} {word gap rest : List Char}

/-- A word attached to the one after it: the field takes in the blanks between the two. -/
theorem Splits.next_eq_of_attached (splits : Splits word gap rest) (words : Solid attached)
    (isAttached : word ∈ attached) {last lastGap arguments : List Char}
    (followed : rest = last ++ (lastGap ++ arguments)) (more : Splits last lastGap arguments) :
    next attached (word ++ (gap ++ rest)) = ⟨word ++ (gap ++ last), lastGap, arguments⟩ := by
  have blanks : gap ≠ [] := by
    rw [Ne, splits.separated, followed]
    simp [more.nonempty]
  have complete : word ++ (gap ++ last) ∉ attached := by
    intro listed
    obtain ⟨blank, others, rfl⟩ := List.exists_cons_of_ne_nil blanks
    have solid := words _ listed blank (by simp)
    rw [Text.isBlank_of_isAsciiBlank (splits.blank blank List.mem_cons_self)] at solid
    cases solid
  have read : readField attached false [] (word ++ (gap ++ rest)) =
      (word ++ (gap ++ last), lastGap ++ arguments) := by
    rw [readField_of_word _ _ _ splits.nonempty splits.solid, List.nil_append,
      readField_of_attached isAttached blanks splits.blank, followed,
      readField_of_word _ _ _ more.nonempty more.solid, List.append_assoc]
    exact readField_of_unattached more.head?_blank complete
  rw [next, read, more.span_gap.1, more.span_gap.2]

theorem Splits.mnemonic_of_attached (splits : Splits word gap rest) (words : Solid attached)
    (isAttached : word ∈ attached) {last lastGap arguments : List Char}
    (followed : rest = last ++ (lastGap ++ arguments)) (more : Splits last lastGap arguments) :
    (next attached (word ++ (gap ++ rest))).field.head? = word.head? ∧
      Text.lastWord (next attached (word ++ (gap ++ rest))).field = last ∧
      (next attached (word ++ (gap ++ rest))).rest = arguments := by
  have blanks : gap ≠ [] := by
    rw [Ne, splits.separated, followed]
    simp [more.nonempty]
  rw [splits.next_eq_of_attached words isAttached followed more]
  refine ⟨?_, Text.lastWord_append_blanks blanks splits.blank more.solid word, rfl⟩
  obtain ⟨first, others, rfl⟩ := List.exists_cons_of_ne_nil splits.nonempty
  rfl

theorem Trimmed.next_collapseMnemonic {text : List Char} (trimmed : Trimmed text)
    (words : Solid attached) :
    (next attached (collapseMnemonic attached text)).field.head? =
        (next attached text).field.head? ∧
      Text.lastWord (next attached (collapseMnemonic attached text)).field =
        Text.lastWord (next attached text).field ∧
      (next attached (collapseMnemonic attached text)).rest = (next attached text).rest := by
  by_cases empty : text = []
  · subst empty
    have nothing := (keeps_collapseMnemonic attached [] trimmed_nil).2.mpr rfl
    rw [nothing]
    exact ⟨rfl, rfl, rfl⟩
  obtain ⟨word, gap, rest, rfl, splits⟩ := trimmed.exists_splits empty
  rw [collapseMnemonic, splits.headWord_eq.1]
  by_cases isAttached : word ∈ attached
  · rw [if_pos isAttached, splits.collapse_eq]
    have collapsed := splits.collapsed keeps_id.collapse
    by_cases alone : rest = []
    · subst alone
      rw [splits.next_eq fun _ => rfl, collapsed.next_eq fun _ => rfl]
      exact ⟨rfl, rfl, rfl⟩
    · obtain ⟨last, lastGap, arguments, followed, more⟩ := splits.trimmed.exists_splits alone
      have before := splits.mnemonic_of_attached words isAttached followed more
      have after := collapsed.mnemonic_of_attached words isAttached
        (followed ▸ more.collapse_eq id) (more.collapsed keeps_id)
      rw [before.1, before.2.1, before.2.2]
      exact after
  · have unattached : word ∈ attached → rest = [] := fun member => absurd member isAttached
    rw [if_neg isAttached, splits.collapse_eq, splits.next_eq unattached,
      (splits.collapsed keeps_id).next_eq unattached]
    exact ⟨rfl, rfl, rfl⟩

theorem readWords_collapseLine (words : Solid attached) {text : List Char}
    (trimmed : Trimmed text) :
    readWords attached (collapseLine attached text) = readWords attached text := by
  have keepsMnemonic := keeps_collapseMnemonic attached
  obtain ⟨afterAddress, address, addressRest⟩ := trimmed.next_collapse keepsMnemonic.collapse
  obtain ⟨afterOpcode, opcode, opcodeRest⟩ := afterAddress.next_collapse keepsMnemonic
  obtain ⟨mark, root, arguments⟩ := afterOpcode.next_collapseMnemonic words
  simp only [readWords, collapseLine, address, addressRest, opcode, opcodeRest, mark, root,
    arguments]

end

/-! ## The words of the fields -/

def LineWords.lacking (words : LineWords) : Bool :=
  words.address.isEmpty || words.opcode.isEmpty || words.mark.isNone

def LineWords.map (replace : Char → Char) (words : LineWords) : LineWords :=
  ⟨words.address.map replace, words.opcode.map replace, words.mark.map replace,
    words.root.map replace, words.arguments.map replace⟩

def words (fields : Fields) : LineWords :=
  ⟨fields.address, fields.opcode, fields.mnemonic.head?, Text.lastWord fields.mnemonic,
    fields.arguments⟩

theorem readWords_map {attached : List (List Char)} {replace : Char → Char}
    (same : ∀ character, Text.isAsciiBlank (replace character) = Text.isAsciiBlank character)
    (recognised : ∀ word, word.map replace ∈ attached ↔ word ∈ attached) (text : List Char) :
    readWords attached (text.map replace) = (readWords attached text).map replace := by
  have plain (text : List Char) := @next_map [] replace same (by simp) text
  simp only [readWords, LineWords.map, plain, next_map same recognised, Text.lastWord_map same,
    List.head?_map]

theorem map_words_split? (attached : List (List Char)) (text : List Char) :
    (split? attached text).map words =
      let found := readWords attached ((Text.trimEnd text).dropWhile Text.isAsciiBlank)
      if found.lacking then none else some found := by
  have mark (field : List Char) : field.head?.isNone = field.isEmpty := by cases field <;> rfl
  simp only [split?, readWords, LineWords.lacking, mark]
  exact apply_ite (Option.map words) _ _ _

end Fields

namespace Disassembly

open Fields

/-! ## The layout of a line -/

def trimmedLine (line : String) : List Char :=
  (Text.trimEnd (Text.lowercase line.toList)).dropWhile Text.isAsciiBlank

/--
The line in lowercase with one space wherever blanks separate its address, its opcode, the words of
its mnemonic and its arguments, and without the blanks around it.
-/
def layout (architecture : Architecture) (line : String) : List Char :=
  collapseLine (attachedWords architecture) (trimmedLine line)

theorem trimmed_trimmedLine (line : String) : Trimmed (trimmedLine line) :=
  trimmed_dropWhile_trimEnd _

theorem map_words_normalize (architecture : Architecture) (line : String) :
    (split? (attachedWords architecture) (normalize line.toList)).map words =
      let found := (readWords (attachedWords architecture) (trimmedLine line)).map withoutTab
      if found.lacking then none else some found := by
  have kept : Text.isAsciiBlank ∘ withoutTab = Text.isAsciiBlank :=
    funext isAsciiBlank_withoutTab
  have recognised := map_withoutTab_mem_iff (solid_attachedWords architecture)
  have trimmed : (Text.trimEnd (normalize line.toList)).dropWhile Text.isAsciiBlank =
      (trimmedLine line).map withoutTab := by
    have whole : normalize line.toList = (Text.lowercase line.toList).map withoutTab := rfl
    rw [whole, Text.trimEnd_map isBlank_withoutTab, List.dropWhile_map, kept, trimmedLine]
  rw [map_words_split?, trimmed, readWords_map isAsciiBlank_withoutTab recognised]

theorem readWords_of_layout_eq {architecture : Architecture} {left right : String}
    (same : layout architecture left = layout architecture right) :
    readWords (attachedWords architecture) (trimmedLine left) =
      readWords (attachedWords architecture) (trimmedLine right) := by
  have solid := solid_attachedWords architecture
  rw [← readWords_collapseLine solid (trimmed_trimmedLine left),
    ← readWords_collapseLine solid (trimmed_trimmedLine right)]
  exact congrArg (readWords _) same

/-! ## The outcome -/

/-- The instructions may differ in the text of their lines, but in nothing else that matters. -/
structure SameInstruction (left right : Instruction) : Prop where
  address : left.address = right.address
  nextAddress : left.nextAddress = right.nextAddress
  flagsValid : left.flagsValid = right.flagsValid
  rootMnemonic : left.rootMnemonic = right.rootMnemonic
  arguments : left.arguments = right.arguments
  classification : left.toClassification = right.toClassification
  taintedInput : left.taintedInput = right.taintedInput

/-- The same instruction, or the same error; an error may show another line. -/
inductive SameOutcome :
    Except DisassemblyError Instruction → Except DisassemblyError Instruction → Prop where
  | ok {left right : Instruction} :
      SameInstruction left right → SameOutcome (.ok left) (.ok right)
  | noProgress (address : Address) :
      SameOutcome (.error (.noProgress address)) (.error (.noProgress address))
  | missingField (left right : String) :
      SameOutcome (.error (.missingField left)) (.error (.missingField right))
  | invalidAddress (field : String) :
      SameOutcome (.error (.invalidAddress field)) (.error (.invalidAddress field))
  | unexpectedContinuation (left right : String) :
      SameOutcome (.error (.unexpectedContinuation left)) (.error (.unexpectedContinuation right))

theorem sameInstruction_classify {left right : Line} (root : left.rootMnemonic = right.rootMnemonic)
    (arguments : left.arguments = right.arguments) (architecture : Architecture)
    (address : Address) (nextAddress : Option Address) (flagsValid : Bool)
    (flags : ProcessorFlags) :
    SameInstruction
      ((Instruction.ofLine left address nextAddress flagsValid).classify architecture flags)
      ((Instruction.ofLine right address nextAddress flagsValid).classify architecture flags) := by
  refine ⟨rfl, rfl, rfl, root, arguments, ?_, rfl⟩
  simp only [Instruction.classify, Instruction.ofLine, root, arguments]

theorem isContinuation_eq {left right : Fields} (same : left.words = right.words) :
    isContinuation left = isContinuation right := by
  have mark : left.mnemonic.head? = right.mnemonic.head? := congrArg LineWords.mark same
  have opcode : left.opcode = right.opcode := congrArg LineWords.opcode same
  rw [isContinuation, isContinuation, mark, opcode]

/-- The words of a line that is not refused decide on the outcome. -/
theorem sameOutcome_of_words {architecture : Architecture} {left right : String}
    (leftDecoded : Text.containsRun refusal (normalize left.toList) = false)
    (rightDecoded : Text.containsRun refusal (normalize right.toList) = false)
    (same : (split? (attachedWords architecture) (normalize left.toList)).map words =
      (split? (attachedWords architecture) (normalize right.toList)).map words)
    (nextAddress : Option Address) (flagsValid : Bool) (flags : ProcessorFlags) :
    SameOutcome (disassemble architecture left nextAddress flagsValid flags)
      (disassemble architecture right nextAddress flagsValid flags) := by
  simp only [disassemble, leftDecoded, rightDecoded, Bool.false_eq_true, if_false]
  rw [show (Register.mnemonicPrefixes architecture).map String.toList =
    attachedWords architecture from rfl]
  cases leftSplit : split? (attachedWords architecture) (normalize left.toList) with
  | none =>
      cases rightSplit : split? (attachedWords architecture) (normalize right.toList) with
      | none => exact .missingField _ _
      | some => simp [leftSplit, rightSplit] at same
  | some leftFields =>
      cases rightSplit : split? (attachedWords architecture) (normalize right.toList) with
      | none => simp [leftSplit, rightSplit] at same
      | some rightFields =>
          rw [leftSplit, rightSplit, Option.map_some, Option.map_some, Option.some.injEq] at same
          have address : leftFields.address = rightFields.address :=
            congrArg LineWords.address same
          have root : Text.lastWord leftFields.mnemonic = Text.lastWord rightFields.mnemonic :=
            congrArg LineWords.root same
          have arguments : leftFields.arguments = rightFields.arguments :=
            congrArg LineWords.arguments same
          obtain ⟨leftRoot, leftArguments⟩ := rootMnemonic_of_split? leftSplit
          obtain ⟨rightRoot, rightArguments⟩ := rootMnemonic_of_split? rightSplit
          dsimp only
          rw [address, isContinuation_eq same]
          cases Address.parse? rightFields.address with
          | none => exact .invalidAddress _
          | some written =>
              dsimp only
              split
              · exact .unexpectedContinuation _ _
              · split
                · exact .noProgress _
                · exact .ok (sameInstruction_classify
                    (leftRoot.trans (root.trans rightRoot.symm))
                    (leftArguments.trans (arguments.trans rightArguments.symm)) _ _ _ _ _)

/--
Lines with the same layout that hold no refusal are disassembled alike: to the same instruction but
for the text around its words, or to an error of the same kind about the same field or address.
-/
theorem layout_does_not_matter (architecture : Architecture) (left right : String)
    (leftDecoded : Text.containsRun refusal (normalize left.toList) = false)
    (rightDecoded : Text.containsRun refusal (normalize right.toList) = false)
    (same : layout architecture left = layout architecture right)
    (nextAddress : Option Address) (flagsValid : Bool) (flags : ProcessorFlags) :
    SameOutcome (disassemble architecture left nextAddress flagsValid flags)
      (disassemble architecture right nextAddress flagsValid flags) := by
  refine sameOutcome_of_words leftDecoded rightDecoded ?_ nextAddress flagsValid flags
  rw [map_words_normalize, map_words_normalize, readWords_of_layout_eq same]

def spacedExchange : String := "  00401000\tF0   LOCK \t  CMPXCHG \t dword ptr [ecx],edx \t"

def plainExchange : String := "00401000 f0 lock cmpxchg dword ptr [ecx],edx"

theorem spacedExchange_disassembled_alike :
    layout .x86 spacedExchange = plainExchange.toList ∧
      SameOutcome (disassemble .x86 spacedExchange none false .unknown)
        (disassemble .x86 plainExchange none false .unknown) ∧
      (disassemble .x86 plainExchange none false .unknown).toOption.map (·.rootMnemonic) =
        some "cmpxchg".toList :=
  ⟨by decide +kernel,
    layout_does_not_matter .x86 spacedExchange plainExchange (by decide +kernel)
      (by decide +kernel) (by decide +kernel) none false .unknown,
    by decide +kernel⟩

end Disassembly

end FaultTriage
