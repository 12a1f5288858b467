import FaultTriage.Command
import FaultTriage.Proofs.Classification.Execution
import FaultTriage.Proofs.Classification.MnemonicField

/-!
# Bare lines and full lines

A bare line is the text of an instruction without its address and its opcode bytes.  It is
classified like the full line wherever its first space stands right after the mnemonic field.  A
prefix such as `lock` is part of that field, so a space behind it cuts the field of the bare line
short: what is left of the mnemonic is not known to any table.
-/

set_option autoImplicit false

namespace FaultTriage

namespace Fields

/-! ## Fields of a line -/

theorem split?_of_trimEnd {attached : List (List Char)} {line address opcode text : List Char}
    (trimmed : Text.trimEnd line = address ++ ' ' :: (opcode ++ ' ' :: text))
    (addressNonempty : address ≠ []) (opcodeNonempty : opcode ≠ [])
    (solidAddress : ∀ character ∈ address, Text.isAsciiBlank character = false)
    (solidOpcode : ∀ character ∈ opcode, Text.isAsciiBlank character = false)
    (starts : ∀ character ∈ text.head?, Text.isAsciiBlank character = false)
    (present : (next attached text).field ≠ []) :
    split? attached line =
      some
        { indent := []
          address := address
          addressGap := [' ']
          opcode := opcode
          opcodeGap := [' ']
          mnemonic := (next attached text).field
          mnemonicGap := (next attached text).gap
          arguments := (next attached text).rest } := by
  have indent := span_of_solid
    (head?_append_solid addressNonempty solidAddress (' ' :: (opcode ++ ' ' :: text)))
  have addressField := next_append_space List.not_mem_nil addressNonempty solidAddress
    (head?_append_solid opcodeNonempty solidOpcode (' ' :: text))
  have opcodeField := next_append_space List.not_mem_nil opcodeNonempty solidOpcode starts
  simp only [split?, trimmed, indent.1, indent.2, addressField, opcodeField]
  rw [if_neg (by simp [addressNonempty, opcodeNonempty, present])]

structure CutFrom (text : List Char) (fields : Fields) : Prop where
  indent : Text.slice? 0 fields.addressSpan.start text = some fields.indent
  address : Text.slice? fields.addressSpan.start fields.addressSpan.stop text = some fields.address
  addressGap :
    Text.slice? fields.addressSpan.stop fields.opcodeSpan.start text = some fields.addressGap
  opcode : Text.slice? fields.opcodeSpan.start fields.opcodeSpan.stop text = some fields.opcode
  opcodeGap :
    Text.slice? fields.opcodeSpan.stop fields.mnemonicSpan.start text = some fields.opcodeGap
  mnemonic :
    Text.slice? fields.mnemonicSpan.start fields.mnemonicSpan.stop text = some fields.mnemonic
  mnemonicGap :
    Text.slice? fields.mnemonicSpan.stop fields.argumentsSpan.start text = some fields.mnemonicGap
  arguments :
    Text.slice? fields.argumentsSpan.start fields.argumentsSpan.stop text = some fields.arguments

/-- The offset is no offset inside a character, and the rest of the text stands behind it. -/
def StandsAt (text : List Char) (offset : Nat) (rest : List Char) : Prop :=
  ∃ before, text = before ++ rest ∧ offset = Text.byteLength before

theorem StandsAt.cut {text piece rest : List Char} {offset : Nat}
    (stands : StandsAt text offset (piece ++ rest)) :
    Text.slice? offset (offset + Text.byteLength piece) text = some piece ∧
      StandsAt text (offset + Text.byteLength piece) rest := by
  obtain ⟨before, rfl, rfl⟩ := stands
  exact ⟨Text.slice?_append before piece rest, before ++ piece, by simp, by simp⟩

theorem cutFrom_join_append (fields : Fields) (after : List Char) :
    CutFrom (fields.join ++ after) fields := by
  have start : StandsAt (fields.join ++ after) 0
      (fields.indent ++ (fields.address ++ (fields.addressGap ++ (fields.opcode ++
        (fields.opcodeGap ++ (fields.mnemonic ++ (fields.mnemonicGap ++
          (fields.arguments ++ after)))))))) := ⟨[], by simp [join], rfl⟩
  obtain ⟨indent, address⟩ := start.cut
  rw [Nat.zero_add] at indent address
  obtain ⟨address, addressGap⟩ := address.cut
  obtain ⟨addressGap, opcode⟩ := addressGap.cut
  obtain ⟨opcode, opcodeGap⟩ := opcode.cut
  obtain ⟨opcodeGap, mnemonic⟩ := opcodeGap.cut
  obtain ⟨mnemonic, mnemonicGap⟩ := mnemonic.cut
  obtain ⟨mnemonicGap, arguments⟩ := mnemonicGap.cut
  exact ⟨indent, address, addressGap, opcode, opcodeGap, mnemonic, mnemonicGap, arguments.cut.1⟩

theorem mnemonic_toLine (fields : Fields) (after : List Char) :
    (fields.toLine (fields.join ++ after)).mnemonic = fields.mnemonic := by
  have cut := (fields.cutFrom_join_append after).mnemonic
  simp only [Line.mnemonic, Line.slice, toLine, String.toList_ofList, cut, Option.getD_some]

theorem arguments_toLine (fields : Fields) (after : List Char) :
    (fields.toLine (fields.join ++ after)).arguments = fields.arguments := by
  have cut := (fields.cutFrom_join_append after).arguments
  simp only [Line.arguments, Line.slice, toLine, String.toList_ofList, cut, Option.getD_some]

end Fields

namespace Line

theorem mnemonic_bare (mnemonic arguments : List Char) :
    (bare mnemonic arguments).mnemonic = Text.asciiLowercase mnemonic := by
  simp only [Line.mnemonic, slice, bare, String.toList_ofList]
  generalize Text.asciiLowercase mnemonic = field
  have found := Text.slice?_append [] field
  simp only [Text.byteLength_nil, Nat.zero_add, List.nil_append] at found
  split
  · have alone := found []
    rw [List.append_nil] at alone
    rw [alone, Option.getD_some]
  · rw [found, Option.getD_some]

theorem arguments_bare (mnemonic arguments : List Char) :
    (bare mnemonic arguments).arguments = Text.asciiLowercase arguments := by
  simp only [Line.arguments, slice, bare, String.toList_ofList]
  generalize Text.asciiLowercase mnemonic = field
  generalize Text.asciiLowercase arguments = operands
  cases operands with
  | nil =>
      have found := Text.slice?_append field [] []
      simp only [Text.byteLength_nil, Nat.add_zero, List.append_nil] at found
      simp [found]
  | cons first rest =>
      have found := Text.slice?_append (field ++ [' ']) (first :: rest) []
      have space : Text.byteLength [' '] = 1 := rfl
      rw [Text.byteLength_append, space, List.append_nil, List.append_assoc] at found
      have stop : Text.byteLength (field ++ ' ' :: first :: rest) =
          Text.byteLength field + 1 + Text.byteLength (first :: rest) := by
        rw [Text.byteLength_append, Nat.add_assoc]
        rfl
      rw [if_neg (by simp), stop, Nat.min_eq_left (Nat.le_add_right _ _)]
      exact congrArg (·.getD []) found

end Line

namespace Disassembly

/-! ## The text of an instruction on a line -/

/-- ASCII that starts with neither a blank nor the mark of a continued line. -/
structure IsInstructionText (text : List Char) : Prop where
  ascii : ∀ character ∈ text, character.toNat < 0x80
  starts : ∃ first rest, text = first :: rest ∧ Text.isBlank first = false ∧ first ≠ '?'

theorem ascii_of_all {text : List Char}
    (checked : text.all (fun character => character.toNat < 0x80) = true) :
    ∀ character ∈ text, character.toNat < 0x80 := by
  simpa using checked

structure IsLineHead (address opcode : List Char) (written : Address) : Prop where
  parsed : Address.parse? (Text.asciiLowercase address) = some written
  nonempty : opcode ≠ []
  digits : ∀ character ∈ opcode, (Text.hexValue? character).isSome

def fullLine (address opcode text : List Char) : String :=
  String.ofList (address ++ ' ' :: (opcode ++ ' ' :: text))

def attachedWords (architecture : Architecture) : List (List Char) :=
  (Register.mnemonicPrefixes architecture).map String.toList

def mnemonicReading (architecture : Architecture) (text : List Char) : Fields.Next :=
  Fields.next (attachedWords architecture) (Text.asciiLowercase (Text.trimEnd text))

theorem solid_attachedWords (architecture : Architecture) :
    Fields.Solid (attachedWords architecture) := by
  have checked : (attachedWords architecture).all (·.all (!Text.isBlank ·)) = true := by
    cases architecture <;> decide +kernel
  intro word listed character member
  simpa using List.all_eq_true.mp (List.all_eq_true.mp checked word listed) character member

theorem map_withoutTab_mem_iff {words : List (List Char)} (solid : Fields.Solid words)
    (word : List Char) : word.map withoutTab ∈ words ↔ word ∈ words := by
  have same : ∀ candidate ∈ words, candidate.map withoutTab = candidate := by
    intro candidate member
    exact map_withoutTab_of_solid (solid candidate member)
  constructor
  · intro member
    have tabless : '\t' ∉ word := by
      intro tab
      cases solid _ member ' ' (List.mem_map.mpr ⟨'\t', tab, rfl⟩)
    rwa [map_withoutTab_eq_self_iff.mpr tabless] at member
  · intro member
    rwa [same word member]

theorem normalize_of_ascii {text : List Char} (ascii : ∀ character ∈ text, character.toNat < 0x80) :
    normalize text = (Text.asciiLowercase text).map withoutTab := by
  have whole := normalize_append (fun character member => .inl (ascii character member)) []
  rw [List.append_nil] at whole
  rw [whole, Text.Lowercase.loweredFrom, List.map_nil, List.append_nil]

theorem exists_trimEnd_of_isInstructionText {text : List Char} (isText : IsInstructionText text) :
    ∃ first rest, Text.trimEnd text = first :: rest ∧ Text.isBlank first = false ∧ first ≠ '?' := by
  obtain ⟨first, rest, rfl, solid, notMark⟩ := isText.starts
  obtain ⟨kept, trimmed⟩ := Text.exists_trimEnd_cons solid rest
  exact ⟨first, kept, trimmed, solid, notMark⟩

theorem isReading_mnemonicReading (architecture : Architecture) {text : List Char}
    (isText : IsInstructionText text) :
    Fields.IsReading (attachedWords architecture) (Text.asciiLowercase (Text.trimEnd text))
      (mnemonicReading architecture text) := by
  have ends := Text.isBlank_getLast?_trimEnd (Text.asciiLowercase text)
  rw [Text.asciiLowercase, Text.trimEnd_map Text.isBlank_asciiLower] at ends
  obtain ⟨first, rest, trimmed, solid, _⟩ := exists_trimEnd_of_isInstructionText isText
  refine Fields.isReading_next (solid_attachedWords architecture) ?_ ?_ ends
  · simp [trimmed, Text.asciiLowercase]
  · rw [trimmed]
    rintro character ⟨⟩
    rw [Text.isBlank_asciiLower, solid]

section

variable (architecture : Architecture) {address opcode text : List Char} {written : Address}

theorem IsLineHead.plain_address (head : IsLineHead address opcode written) :
    ∀ character ∈ Text.asciiLowercase address,
      character.toNat < 0x80 ∧ Text.isBlank character = false :=
  Address.plain_of_parse? head.parsed

theorem IsLineHead.plain_opcode (head : IsLineHead address opcode written) :
    ∀ character ∈ Text.asciiLowercase opcode, (Text.hexValue? character).isSome ∧
      character.toNat < 0x80 ∧ Text.isBlank character = false := by
  intro character member
  obtain ⟨origin, inOpcode, rfl⟩ := List.mem_map.mp member
  have isDigit := head.digits origin inOpcode
  rw [← Text.hexValue?_asciiLower] at isDigit
  exact ⟨isDigit, Text.plain_of_hexValue? isDigit⟩

theorem IsLineHead.ascii (head : IsLineHead address opcode written) :
    ∀ character ∈ address ++ opcode, character.toNat < 0x80 := by
  intro character member
  rcases List.mem_append.mp member with inAddress | inOpcode
  · by_contra beyond
    have lowered := (head.plain_address _ (List.mem_map_of_mem inAddress)).1
    rw [Text.asciiLower_of_not_ascii beyond] at lowered
    exact beyond lowered
  · exact (Text.plain_of_hexValue? (head.digits character inOpcode)).1

/-- The line in lowercase: only the text of the instruction can hold a tab. -/
theorem normalize_fullLine (head : IsLineHead address opcode written)
    (isText : IsInstructionText text) :
    normalize (fullLine address opcode text).toList =
      Text.asciiLowercase address ++
        ' ' :: (Text.asciiLowercase opcode ++ ' ' :: normalize text) := by
  have ascii : ∀ character ∈ address ++ ' ' :: (opcode ++ ' ' :: text), character.toNat < 0x80 := by
    have headAscii := head.ascii
    have textAscii := isText.ascii
    simp only [List.forall_mem_append, List.forall_mem_cons] at headAscii ⊢
    exact ⟨headAscii.1, by decide, headAscii.2, by decide, textAscii⟩
  have addressKept := map_withoutTab_of_solid fun character member =>
    (head.plain_address character member).2
  have opcodeKept := map_withoutTab_of_solid fun character member =>
    (head.plain_opcode character member).2.2
  have lowered : Text.asciiLowercase (address ++ ' ' :: (opcode ++ ' ' :: text)) =
      Text.asciiLowercase address ++
        ' ' :: (Text.asciiLowercase opcode ++ ' ' :: Text.asciiLowercase text) := by
    simp [Text.asciiLowercase, Text.asciiLower]
  rw [fullLine, String.toList_ofList, normalize_of_ascii ascii, lowered,
    normalize_of_ascii isText.ascii, List.map_append, List.map_cons, List.map_append, List.map_cons,
    addressKept, opcodeKept]
  rfl

def lineFields (address opcode : List Char) (found : Fields.Next) : Fields :=
  { indent := []
    address := Text.asciiLowercase address
    addressGap := [' ']
    opcode := Text.asciiLowercase opcode
    opcodeGap := [' ']
    mnemonic := found.field.map withoutTab
    mnemonicGap := found.gap.map withoutTab
    arguments := found.rest.map withoutTab }

theorem trimEnd_normalize (isText : IsInstructionText text) :
    Text.trimEnd (normalize text) = (Text.asciiLowercase (Text.trimEnd text)).map withoutTab := by
  rw [normalize_of_ascii isText.ascii, Text.trimEnd_map isBlank_withoutTab, Text.asciiLowercase,
    Text.trimEnd_map Text.isBlank_asciiLower, Text.asciiLowercase]

theorem trimEnd_normalize_fullLine (head : IsLineHead address opcode written)
    (isText : IsInstructionText text) :
    Text.trimEnd (normalize (fullLine address opcode text).toList) =
      Text.asciiLowercase address ++ ' ' :: (Text.asciiLowercase opcode ++
        ' ' :: (Text.asciiLowercase (Text.trimEnd text)).map withoutTab) := by
  obtain ⟨first, rest, trimmed, _, _⟩ := exists_trimEnd_of_isInstructionText isText
  have nonempty : Text.trimEnd (normalize text) ≠ [] := by
    rw [trimEnd_normalize isText, trimmed]
    exact List.cons_ne_nil _ _
  have kept := Text.trimEnd_append_of_ne_nil
    (Text.asciiLowercase address ++ ' ' :: (Text.asciiLowercase opcode ++ [' '])) nonempty
  rw [trimEnd_normalize isText] at kept
  simpa [normalize_fullLine head isText] using kept

theorem split?_fullLine (head : IsLineHead address opcode written)
    (isText : IsInstructionText text) :
    Fields.split? (attachedWords architecture) (normalize (fullLine address opcode text).toList) =
      some (lineFields address opcode (mnemonicReading architecture text)) := by
  have reading := isReading_mnemonicReading architecture isText
  have mnemonic : Fields.next (attachedWords architecture)
      ((Text.asciiLowercase (Text.trimEnd text)).map withoutTab) = _ :=
    Fields.next_map isAsciiBlank_withoutTab
      (map_withoutTab_mem_iff (solid_attachedWords architecture)) _
  have starts : ∀ character ∈ ((Text.asciiLowercase (Text.trimEnd text)).map withoutTab).head?,
      Text.isAsciiBlank character = false := by
    obtain ⟨first, rest, trimmed, solid, _⟩ := exists_trimEnd_of_isInstructionText isText
    rw [trimmed]
    rintro character ⟨⟩
    rw [isAsciiBlank_withoutTab, Text.isAsciiBlank_of_not_isBlank]
    rw [Text.isBlank_asciiLower, solid]
  rw [Fields.split?_of_trimEnd (trimEnd_normalize_fullLine head isText)
    (Address.ne_nil_of_parse? head.parsed) (by simpa [Text.asciiLowercase] using head.nonempty)
    ?_ ?_ starts ?_, mnemonic]
  · rfl
  · exact fun character member =>
      Text.isAsciiBlank_of_not_isBlank (head.plain_address character member).2
  · exact fun character member =>
      Text.isAsciiBlank_of_not_isBlank (head.plain_opcode character member).2.2
  · rw [mnemonic]
    exact fun nothing => reading.shape.ne_nil (List.map_eq_nil_iff.mp nothing)

theorem firstWord_fullLine (head : IsLineHead address opcode written)
    (isText : IsInstructionText text) :
    Text.firstWord (normalize (fullLine address opcode text).toList) =
      Text.asciiLowercase address := by
  rw [normalize_fullLine head isText]
  refine Text.firstWord_append (List.forall_mem_nil _) (Address.ne_nil_of_parse? head.parsed)
    (fun character member => (head.plain_address character member).2) ?_
  rintro character ⟨⟩
  rfl

/-- A refusal does not start in the fields in front of the text: no `i` stands there. -/
theorem containsRun_fullLine (head : IsLineHead address opcode written)
    (isText : IsInstructionText text) :
    Text.containsRun refusal (normalize (fullLine address opcode text).toList) =
      Text.containsRun refusal (normalize text) := by
  have grouped : normalize (fullLine address opcode text).toList =
      (Text.asciiLowercase address ++ ' ' :: (Text.asciiLowercase opcode ++ [' '])) ++
        normalize text := by
    simp [normalize_fullLine head isText]
  obtain ⟨run, refusal_eq⟩ : ∃ run, refusal = 'd' :: 'i' :: run :=
    ⟨"sassembly not possible".toList, by decide +kernel⟩
  rw [grouped, refusal_eq]
  refine Text.containsRun_append ?_ ?_ _
  · have notInAddress : 'i' ∉ Text.asciiLowercase address := by
      intro member
      have character := Address.mem_of_parse? head.parsed 'i' member
      exact absurd character (by decide)
    have notInOpcode : 'i' ∉ Text.asciiLowercase opcode := by
      intro member
      cases (head.plain_opcode 'i' member).1
    simp [notInAddress, notInOpcode]
  · rw [← List.cons_append, ← List.append_assoc, List.getLast?_concat]
    decide

theorem head?_mnemonicReading (isText : IsInstructionText text) :
    ∃ first, (mnemonicReading architecture text).field.head? = some (Text.asciiLower first) ∧
      Text.isBlank first = false ∧ first ≠ '?' := by
  obtain ⟨first, rest, trimmed, solid, notMark⟩ := exists_trimEnd_of_isInstructionText isText
  have reading := isReading_mnemonicReading architecture isText
  obtain ⟨character, field, field_eq⟩ := List.exists_cons_of_ne_nil reading.shape.ne_nil
  have parts := reading.parts
  rw [trimmed, field_eq] at parts
  refine ⟨first, ?_, solid, notMark⟩
  rw [field_eq]
  exact congrArg some (List.cons.inj parts).1.symm

theorem legible_fullLine (head : IsLineHead address opcode written)
    (isText : IsInstructionText text)
    (decoded : Text.containsRun refusal (normalize text) = false) :
    Legible architecture (fullLine address opcode text)
      (lineFields address opcode (mnemonicReading architecture text)) written := by
  refine ⟨?_, split?_fullLine architecture head isText, head.parsed, ?_⟩
  · rw [containsRun_fullLine head isText, decoded]
  · have notMark :
        ((mnemonicReading architecture text).field.map withoutTab).head? ≠ some '?' := by
      obtain ⟨first, head_eq, solid, notMark⟩ := head?_mnemonicReading architecture isText
      rw [← Text.isBlank_asciiLower] at solid
      rw [List.head?_map, head_eq, Option.map_some, withoutTab_of_not_isBlank solid]
      intro marked
      exact notMark ((Text.asciiLower_eq_iff (by decide) first).mp (Option.some.inj marked))
    have notContinued : (Text.asciiLowercase opcode).head? ≠ some '<' := by
      intro marked
      cases (head.plain_opcode '<' (List.mem_of_mem_head? marked)).1
    simp only [isContinuation, lineFields, Bool.or_eq_false_iff, beq_eq_false_iff_ne]
    exact ⟨notMark, notContinued⟩

end

/-! ## What the two lines have classified -/

theorem rootMnemonic_of_split? {attached : List (List Char)} {text : List Char} {fields : Fields}
    (found : Fields.split? attached text = some fields) :
    (fields.toLine text).rootMnemonic = Text.lastWord fields.mnemonic ∧
      (fields.toLine text).arguments = fields.arguments := by
  obtain ⟨after, parts, _⟩ := Text.exists_trimEnd_append text
  rw [← Fields.join_of_split? found] at parts
  rw [parts]
  refine ⟨?_, fields.arguments_toLine after⟩
  exact congrArg Text.lastWord (fields.mnemonic_toLine after)

section

variable (architecture : Architecture) {address opcode text : List Char} {written : Address}

theorem lastWord_map_withoutTab (characters : List Char) :
    Text.lastWord (characters.map withoutTab) = Text.lastWord characters := by
  rw [Text.lastWord_map isAsciiBlank_withoutTab, map_withoutTab_eq_self_iff, Text.lastWord,
    List.mem_reverse]
  intro tab
  have solid := List.mem_takeWhile_imp tab
  cases solid

/-- The instruction is classified by this root mnemonic and these arguments, which its line has. -/
structure ClassifiedBy (architecture : Architecture) (flags : ProcessorFlags)
    (root arguments : List Char) (instruction : Instruction) : Prop where
  sameRoot : instruction.rootMnemonic = root
  sameArguments : instruction.arguments = arguments
  classification : instruction.toClassification =
    Classification.ofText architecture flags.valid flags root arguments
  untainted : instruction.taintedInput = ∅

theorem classifiedBy_classify (flags : ProcessorFlags) {line : Line} {root arguments : List Char}
    (sameRoot : line.rootMnemonic = root) (sameArguments : line.arguments = arguments)
    (address : Address) (nextAddress : Option Address) :
    ClassifiedBy architecture flags root arguments
      ((Instruction.ofLine line address nextAddress flags.valid).classify architecture flags) := by
  subst sameRoot sameArguments
  exact ⟨rfl, rfl, rfl, rfl⟩

theorem classifiedBy_fullLine (head : IsLineHead address opcode written)
    (isText : IsInstructionText text) (flags : ProcessorFlags) :
    ClassifiedBy architecture flags (Text.lastWord (mnemonicReading architecture text).field)
      ((mnemonicReading architecture text).rest.map withoutTab)
      (instructionOn architecture (fullLine address opcode text)
        (lineFields address opcode (mnemonicReading architecture text)) written none flags.valid
        flags) := by
  obtain ⟨root, arguments⟩ :=
    rootMnemonic_of_split? (split?_fullLine architecture head isText)
  exact classifiedBy_classify architecture flags (root.trans (lastWord_map_withoutTab _)) arguments
    _ _

theorem spaceSplit_asciiLowercase (characters : List Char) :
    Fields.spaceSplit (Text.asciiLowercase characters) =
      (Text.asciiLowercase (Fields.spaceSplit characters).1,
        Text.asciiLowercase (Fields.spaceSplit characters).2) := by
  have space := Text.asciiLower_eq_iff (by decide : ' '.toNat < 0x41 ∨ _)
  rw [Fields.spaceSplit, Text.asciiLowercase, Text.splitFirst?_map space, Fields.spaceSplit]
  cases Text.splitFirst? ' ' characters <;> rfl

theorem classifiedBy_bareInstruction (isText : IsInstructionText text) (flags : ProcessorFlags) :
    ClassifiedBy architecture flags
      (Text.lastWord (Fields.spaceSplit (Text.asciiLowercase (Text.trimEnd text))).1)
      (Text.trim (Fields.spaceSplit (Text.asciiLowercase (Text.trimEnd text))).2)
      (Command.bareInstruction architecture flags (String.ofList text)) := by
  have trimmed : Text.trim text = Text.trimEnd text := by
    obtain ⟨first, rest, rfl, solid, _⟩ := isText.starts
    rw [Text.trim, Text.trimStart_of_solid]
    rintro character ⟨⟩
    exact solid
  have whole : Command.bareInstruction architecture flags (String.ofList text) =
      .bare architecture flags.valid flags (Fields.spaceSplit (Text.trimEnd text)).1
        (Text.trim (Fields.spaceSplit (Text.trimEnd text)).2) := by
    simp only [Command.bareInstruction, String.toList_ofList, trimmed]
    rfl
  rw [whole, spaceSplit_asciiLowercase]
  refine classifiedBy_classify architecture flags ?_ ?_ _ _
  · exact congrArg Text.lastWord (Line.mnemonic_bare _ _)
  · exact (Line.arguments_bare _ _).trans (Text.trim_map Text.isBlank_asciiLower _).symm

end

end Disassembly

/-! ## Mnemonics without a row -/

theorem Classification.executedKind_ne_unknown {architecture : Architecture} {root : List Char}
    {row : TableRow} (found : Table.lookup? architecture root = some row) (flagsValid : Bool)
    (flags : ProcessorFlags) (arguments : List Char) :
    (ofText architecture flagsValid flags root arguments).executedKind ≠ .unknown := by
  have checked : ∀ row ∈ Table.rows architecture, row.kind ≠ .unknown := by
    cases architecture <;> decide +kernel
  have executed : (ofText architecture flagsValid flags root arguments).executedKind =
      (rowEffect architecture row arguments).kind := by
    simp only [ofText, found]
  rw [executed]
  intro unknown
  exact checked row (List.mem_of_find?_eq_some found) (kind_of_kind_rowEffect (by decide) unknown)

theorem Table.lookup?_attachedWord {architecture : Architecture} {word : List Char}
    (isAttached : word = [] ∨ word ∈ Disassembly.attachedWords architecture) :
    Table.lookup? architecture word = none := by
  have checked : ∀ word ∈ [] :: Disassembly.attachedWords architecture,
      Table.lookup? architecture word = none := by
    cases architecture <;> decide +kernel
  exact checked word (List.mem_cons.mpr isAttached)

def ClassifiedAlike (left right : Instruction) : Prop :=
  left.toClassification = right.toClassification ∧ left.taintedInput = right.taintedInput

open Disassembly in
/--
A bare line next to the full line with the same text.  The root mnemonic and the arguments are the
same exactly if the first space of the text stands right after its mnemonic field, and then both are
classified alike.  A space in the field follows a prefix: the bare line is unknown, and so differs
from the full line unless that one is unknown as well.
-/
theorem bareInstruction_agrees_iff_splitsAtSpace (architecture : Architecture)
    (flags : ProcessorFlags) {address opcode text : List Char} {written : Address}
    (head : IsLineHead address opcode written) (isText : IsInstructionText text) :
    if Text.containsRun refusal (normalize text) = true then
      disassemble architecture (fullLine address opcode text) none flags.valid flags =
        .error (.undecodable written)
    else
      ∃ full,
        disassemble architecture (fullLine address opcode text) none flags.valid flags = .ok full ∧
        let bare := Command.bareInstruction architecture flags (String.ofList text)
        let reading := mnemonicReading architecture text
        (full.rootMnemonic = bare.rootMnemonic ∧ full.arguments = bare.arguments ↔
          reading.SplitsAtSpace) ∧
        (reading.SplitsAtSpace → ClassifiedAlike full bare) ∧
        (' ' ∈ reading.field →
          (ClassifiedAlike full bare ↔
            Table.lookup? architecture full.rootMnemonic = none)) := by
  split
  · next refused =>
      rw [← containsRun_fullLine head isText] at refused
      have named : refusedAddress (normalize (fullLine address opcode text).toList) = written := by
        rw [refusedAddress, firstWord_fullLine head isText, head.parsed, Option.getD_some]
      simp only [disassemble, refused, if_true, named]
  · next decoded =>
      have legible := legible_fullLine architecture head isText
        (by simpa using decoded)
      have read := legible.disassemble none flags.valid flags
      rw [if_neg (by simp)] at read
      refine ⟨_, read, ?_⟩
      intro bare reading
      have isReading := isReading_mnemonicReading architecture isText
      have words := solid_attachedWords architecture
      have fullBy := classifiedBy_fullLine architecture head isText flags
      have bareBy := classifiedBy_bareInstruction architecture isText flags
      have untainted := fullBy.untainted.trans bareBy.untainted.symm
      refine ⟨?_, ?_, ?_⟩
      · rw [fullBy.sameRoot, fullBy.sameArguments, bareBy.sameRoot, bareBy.sameArguments]
        exact (and_congr eq_comm eq_comm).trans (isReading.splitsAtSpace_iff words)
      · intro splits
        obtain ⟨sameRoot, sameArguments⟩ := (isReading.splitsAtSpace_iff words).mpr splits
        refine ⟨?_, untainted⟩
        rw [fullBy.classification, bareBy.classification, sameRoot, sameArguments]
      · intro space
        have bareUnknown :=
          Table.lookup?_attachedWord (isReading.lastWord_spaceSplit_of_space space words)
        rw [fullBy.sameRoot]
        constructor
        · intro alike
          by_contra known
          obtain ⟨row, found⟩ := Option.ne_none_iff_exists'.mp known
          have executed := Classification.executedKind_ne_unknown found flags.valid flags
            ((mnemonicReading architecture text).rest.map withoutTab)
          rw [← fullBy.classification, alike.1, bareBy.classification] at executed
          simp [Classification.ofText, bareUnknown] at executed
        · intro unknown
          refine ⟨?_, untainted⟩
          rw [fullBy.classification, bareBy.classification]
          simp only [Classification.ofText, unknown, bareUnknown]

def capitalLoad : List Char := "MOV  EAX,DWORD PTR [EBX+8]".toList

open Disassembly in
theorem capitalLoad_classified_alike :
    ∃ full, disassemble .x86 (fullLine "00401000".toList "8b4308".toList capitalLoad) none
        ProcessorFlags.unknown.valid .unknown = .ok full ∧
      ClassifiedAlike full (Command.bareInstruction .x86 .unknown (String.ofList capitalLoad)) ∧
      full.kind = .dataMove ∧ full.source.contains "ebx" = true := by
  have head : IsLineHead "00401000".toList "8b4308".toList 0x401000 :=
    ⟨by decide +kernel, by decide +kernel, List.all_eq_true.mp (by decide +kernel)⟩
  have isText : IsInstructionText capitalLoad :=
    ⟨ascii_of_all (by decide +kernel), 'M', "OV  EAX,DWORD PTR [EBX+8]".toList, by decide +kernel⟩
  have splits : (mnemonicReading .x86 capitalLoad).SplitsAtSpace := by decide +kernel
  have agrees := bareInstruction_agrees_iff_splitsAtSpace .x86 .unknown head isText
  rw [if_neg (by decide +kernel)] at agrees
  obtain ⟨full, read, _, alike, _⟩ := agrees
  refine ⟨full, read, alike splits, ?_⟩
  rw [(alike splits).1]
  decide +kernel

def lockedExchange : List Char := "lock cmpxchg dword ptr [ecx],edx".toList

open Disassembly in
theorem lockedExchange_unknown_when_bare :
    (∀ character ∈ lockedExchange, character.toNat < 0x80) ∧
    lockedExchange.head? = some 'l' ∧
    Text.containsRun refusal lockedExchange = false ∧
    (∃ full, disassemble .x86 (fullLine "00401000".toList "f00fb111".toList lockedExchange) none
        ProcessorFlags.unknown.valid .unknown = .ok full ∧
      full.kind = .calculation ∧ full.destinationPointer.contains "ecx" = true) ∧
    (Command.bareInstruction .x86 .unknown (String.ofList lockedExchange)).kind = .unknown ∧
    (Command.bareInstruction .x86 .unknown (String.ofList lockedExchange)).toOperands = ∅ := by
  have shape : (disassemble .x86 (fullLine "00401000".toList "f00fb111".toList lockedExchange) none
      ProcessorFlags.unknown.valid .unknown).toOption.map
        (fun full => (full.kind, full.destinationPointer.contains "ecx")) =
      some (.calculation, true) := by decide +kernel
  obtain ⟨full, read, seen⟩ := Block.exists_eq_ok_of_toOption shape
  obtain ⟨kind, pointer⟩ := Prod.mk.inj seen
  exact ⟨ascii_of_all (by decide +kernel), by decide +kernel, by decide +kernel,
    ⟨full, read, kind, pointer⟩, by decide +kernel, by decide +kernel⟩

end FaultTriage
