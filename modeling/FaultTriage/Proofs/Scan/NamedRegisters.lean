import FaultTriage.Proofs.Scan.Reader
import FaultTriage.Proofs.Scan.Run

/-!
# Which registers the argument text names

A register of the text becomes a named operand unless a reader passes it over, takes it as the end
of a captured expression, or takes it as the last register of a pending range.  No other register
is named.  The conditions are given both by what is pending before the word and, more coarsely, by
the text before it.
-/

set_option autoImplicit false

namespace FaultTriage

/-! ## Register names -/

namespace Register

def registerNames : Architecture → List Operand
  | .arm => armRegisters
  | .x86 => segmentRegisters ++ (families .x86).flatten.map (·.name)
  | .x64 => segmentRegisters ++ (families .x64).flatten.map (·.name)

theorem mem_registerNames {architecture : Architecture} {name : Operand}
    (register : isRegister architecture name = true) : name ∈ registerNames architecture := by
  cases architecture with
  | x86 | x64 =>
      simp only [isRegister, Bool.or_eq_true, List.contains_iff_mem, List.any_eq_true,
        beq_iff_eq] at register
      rcases register with segment | ⟨family, listed, view, member, rfl⟩
      · exact List.mem_append_left _ segment
      · exact List.mem_append_right _
          (List.mem_map.mpr ⟨view, List.mem_flatten.mpr ⟨family, listed, member⟩, rfl⟩)
  | arm => exact List.contains_iff_mem.mp register

end Register

namespace Scan

structure IsRegisterWord (architecture : Architecture) (word : List Char) : Prop where
  spelled : word ≠ []
  noSize : (Register.sizeWords architecture).contains (String.ofList word) = false
  noNumber : ∀ first ∈ word.head?, first.isDigit = false ∧ first ≠ '('
  plain : ∀ character ∈ word, (delimiters architecture).contains character = false

theorem isRegisterWord_of_isRegister {architecture : Architecture} {word : List Char}
    (register : Register.isRegister architecture (String.ofList word) = true) :
    IsRegisterWord architecture word := by
  have checked : ∀ name ∈ Register.registerNames architecture,
      name.toList ≠ [] ∧ (Register.sizeWords architecture).contains name = false ∧
        name.toList.head?.all (fun first => !first.isDigit && first != '(') = true ∧
        name.toList.all (fun character => !(delimiters architecture).contains character) = true := by
    cases architecture <;> decide +kernel
  have found := checked _ (Register.mem_registerNames register)
  simp only [String.toList_ofList, Option.all_eq_true, List.all_eq_true, Bool.and_eq_true,
    Bool.not_eq_true', bne_iff_ne] at found
  obtain ⟨spelled, noSize, noNumber, plain⟩ := found
  exact ⟨spelled, noSize, noNumber, plain⟩

theorem roleOf_eq_register_iff {architecture : Architecture} {word : List Char} :
    roleOf architecture word = .register ↔
      Register.isRegister architecture (String.ofList word) = true := by
  constructor
  · intro role
    cases word with
    | nil => cases role
    | cons first rest =>
        simp only [roleOf] at role
        repeat' split at role
        all_goals first | assumption | cases role
  · intro register
    have isWord := isRegisterWord_of_isRegister register
    cases word with
    | nil => exact absurd rfl isWord.spelled
    | cons first rest =>
        obtain ⟨noDigit, noParenthesis⟩ := isWord.noNumber first rfl
        simp only [roleOf, isWord.noSize, noDigit, noParenthesis, register, if_true, if_false,
          Bool.false_eq_true]

/-! ## Places in the text -/

def listOpen (text : List Char) : Bool :=
  text.foldl (fun inList character => Arm.listAfter inList (some character)) false

/-- A word here is no operand: a segment on x86 and x64, a part of a difference on ARM. -/
def PassedOver (architecture : Architecture) (before after : List Char) : Prop :=
  match architecture with
  | .x86 | .x64 => after.head? = some ':'
  | .arm => after.head? = some '-' ∧ listOpen before = false

instance (architecture : Architecture) (before after : List Char) :
    Decidable (PassedOver architecture before after) :=
  match architecture with
  | .x86 | .x64 => inferInstanceAs (Decidable (after.head? = some ':'))
  | .arm => inferInstanceAs (Decidable (after.head? = some '-' ∧ listOpen before = false))

structure SpellsRegister (architecture : Architecture) (text before word after : List Char) :
    Prop where
  run : IsRun (delimiters architecture).contains text before word after
  register : Register.isRegister architecture (String.ofList word) = true
  operand : ¬ PassedOver architecture before after

theorem spellsRegister_iff {architecture : Architecture} {text before word after : List Char} :
    SpellsRegister architecture text before word after ↔
      IsRun (delimiters architecture).contains text before word after ∧
        Register.isRegister architecture (String.ofList word) = true ∧
        ¬ PassedOver architecture before after :=
  ⟨fun spells => ⟨spells.run, spells.register, spells.operand⟩,
    fun ⟨run, register, operand⟩ => ⟨run, register, operand⟩⟩

instance (architecture : Architecture) (text before word after : List Char) :
    Decidable (SpellsRegister architecture text before word after) :=
  decidable_of_iff _ spellsRegister_iff.symm

def pendingAt (architecture : Architecture) (row : TableRow) (before : List Char) : Pending :=
  pendingAfter architecture row (tokens (delimiters architecture).contains before)

def EndsCapture (architecture : Architecture) (row : TableRow) (before after : List Char) : Prop :=
  after.head? = some ']' ∧ (pendingAt architecture row before).captured ≠ none

instance (architecture : Architecture) (row : TableRow) (before after : List Char) :
    Decidable (EndsCapture architecture row before after) :=
  inferInstanceAs (Decidable (_ ∧ _))

/--
A text that ends in brackets after a register that may start an expression: any on ARM, a pointer
with an offset on x86 and x64.
-/
def OpensExpression (architecture : Architecture) (before : List Char) : Prop :=
  ∃ earlier word rest, IsRun (delimiters architecture).contains before earlier word rest ∧
    Register.isRegister architecture (String.ofList word) = true ∧ ']' ∉ rest ∧
    (architecture ≠ .arm →
      word.getLast? = some 'p' ∧ (rest.head? = some '+' ∨ rest.head? = some '-'))

/-- A text with a dash in a list after which no register stands that could end the range. -/
def OpensRange (architecture : Architecture) (before : List Char) : Prop :=
  architecture = .arm ∧ ∃ earlier word rest,
    IsRun (delimiters architecture).contains before earlier word rest ∧
      rest.head? = some '-' ∧ listOpen earlier = true ∧
      ∀ between other after, IsRun (delimiters architecture).contains rest.tail between other after →
        Register.isRegister architecture (String.ofList other) = true →
        after.head? = some ']' ∨ after.head? = some '-'

theorem listAfter_plain {character : Char} (plain : Arm.delimiters.contains character = false)
    (inList : Bool) : Arm.listAfter inList (some character) = inList := by
  unfold Arm.listAfter
  split
  case h_1 same | h_2 same =>
    cases same
    cases plain
  case h_3 => rfl

theorem foldl_listAfter_tokens (text : List Char) (inList : Bool) :
    (tokens Arm.delimiters.contains text).foldl
        (fun inList token => Arm.listAfter inList token.delimiter) inList =
      text.foldl (fun inList character => Arm.listAfter inList (some character)) inList :=
  -- Braces are delimiters, so the characters of a word change nothing.
  foldl_delimiters Arm.listAfter (fun inList _ plain => listAfter_plain plain inList)
    (fun _ => rfl) text inList

theorem inList_pendingAfter (row : TableRow) (read : List Token) :
    (pendingAfter .arm row read).inList =
      read.foldl (fun inList token => Arm.listAfter inList token.delimiter) false := by
  induction read using List.reverseRecOn with
  | nil => rfl
  | append_singleton read last ih =>
      rw [List.foldl_append, List.foldl_cons, List.foldl_nil, ← ih]
      simp only [pendingAfter, Arm.stateAfter_concat]
      exact Arm.inList_step _ _ _

theorem inList_pendingAt (row : TableRow) (before : List Char) :
    (pendingAt .arm row before).inList = listOpen before := by
  rw [pendingAt, inList_pendingAfter]
  exact foldl_listAfter_tokens before false

theorem passesOver_pendingAt {architecture : Architecture} (row : TableRow)
    {before after : List Char} :
    passesOver architecture (pendingAt architecture row before).inList after.head? = true ↔
      PassedOver architecture before after := by
  cases architecture with
  | x86 | x64 => simp [passesOver, PassedOver]
  | arm => simp [passesOver, PassedOver, inList_pendingAt]

theorem word_ne_nil {architecture : Architecture} {word : List Char}
    (role : roleOf architecture word = .register) : word ≠ [] := by
  rintro rfl
  cases role

/-- A captured expression runs up to the end of the text before the next word. -/
theorem exists_delimiter_of_captured {architecture : Architecture} {row : TableRow}
    {before expression : List Char}
    (ends : ∀ character, before.getLast? = some character →
      (delimiters architecture).contains character = true)
    (captured : (pendingAt architecture row before).captured = some expression) :
    ∃ character ∈ expression, (delimiters architecture).contains character = true := by
  obtain ⟨earlier, token, later, read, starts, -, rfl⟩ :=
    exists_start_of_captured architecture row captured
  -- The expression is an end of the text before and not empty, so both end alike.
  have spelled : (token :: later).flatMap Token.text ≠ [] := by
    simp [Token.text, word_ne_nil starts.1]
  have whole := text_tokens (delimiters architecture).contains before
  rw [read, List.flatMap_append] at whole
  refine ⟨_, List.getLast_mem spelled, ends _ ?_⟩
  rw [← whole, List.getLast?_append, List.getLast?_eq_some_getLast spelled, Option.some_or]

theorem mem_namedBy_iff {architecture : Architecture} {pending : Pending} {token : Token}
    {name : Operand} (register : Register.isRegister architecture name = true)
    (delimited : ∀ expression, pending.captured = some expression →
      ∃ character ∈ expression, (delimiters architecture).contains character = true) :
    name ∈ namedBy architecture pending token ↔
      roleOf architecture token.word = .register ∧
        passesOver architecture pending.inList token.delimiter = false ∧
        ¬ (token.delimiter = some ']' ∧ pending.captured ≠ none) ∧
        name ∈ Arm.named pending.rangeStart token.word := by
  by_cases closed : token.delimiter = some ']' ∧ pending.captured ≠ none
  · obtain ⟨ended, capturing⟩ := closed
    obtain ⟨expression, captured⟩ := Option.ne_none_iff_exists'.mp capturing
    rw [namedBy_of_closes architecture ended captured, List.mem_singleton]
    refine iff_of_false ?_ fun ⟨_, _, notClosed, _⟩ => notClosed ⟨ended, capturing⟩
    -- The delimiter that ended the text before the word is in the expression but in no register.
    rintro rfl
    obtain ⟨character, member, delimits⟩ := delimited expression captured
    have plain := (isRegisterWord_of_isRegister register).plain character
    rw [plain (List.mem_append_left _ member)] at delimits
    cases delimits
  · have goesOn (expression : List Char) (ended : token.delimiter = some ']')
        (captured : pending.captured = some expression) : False :=
      closed ⟨ended, by simp [captured]⟩
    rw [namedBy_of_reads architecture goesOn]
    by_cases read : roleOf architecture token.word = .register ∧
        passesOver architecture pending.inList token.delimiter = false
    · rw [if_pos read]
      exact ⟨fun named => ⟨read.1, read.2, closed, named⟩, fun ⟨_, _, _, named⟩ => named⟩
    · rw [if_neg read]
      exact iff_of_false List.not_mem_nil fun ⟨role, operand, _⟩ => read ⟨role, operand⟩

/-! ## What the text names -/

section

variable {architecture : Architecture} {row : TableRow}

theorem mem_explicitAfter_tokens_iff {name : Operand} {text : List Char}
    (register : Register.isRegister architecture name = true) :
    name ∈ explicitAfter architecture row (tokens (delimiters architecture).contains text) ↔
      ∃ before word after, SpellsRegister architecture text before word after ∧
        ¬ EndsCapture architecture row before after ∧
        name ∈ Arm.named (pendingAt architecture row before).rangeStart word := by
  have spelled : name ≠ "" := by
    rintro rfl
    exact (@isRegisterWord_of_isRegister architecture [] register).spelled rfl
  rw [mem_explicitAfter_iff architecture row spelled]
  constructor
  · rintro ⟨earlier, token, later, read, named⟩
    obtain ⟨before, after, run, rfl, ended⟩ := exists_isRun read
    obtain ⟨role, operand, notClosed, named⟩ :=
      (mem_namedBy_iff register fun _ => exists_delimiter_of_captured run.begins).mp named
    rw [← ended] at operand notClosed
    refine ⟨before, token.word, after, ⟨run, roleOf_eq_register_iff.mp role, ?_⟩, notClosed, named⟩
    rw [← passesOver_pendingAt row, Bool.not_eq_true]
    exact operand
  · rintro ⟨before, word, after, ⟨run, isRegister, operand⟩, notClosed, named⟩
    have role := roleOf_eq_register_iff.mpr isRegister
    refine ⟨_, _, _, run.tokens_eq (by simp [word_ne_nil role]), ?_⟩
    rw [← passesOver_pendingAt row, Bool.not_eq_true] at operand
    exact (mem_namedBy_iff register fun _ => exists_delimiter_of_captured run.begins).mpr
      ⟨role, operand, notClosed, named⟩

theorem not_mem_of_delimiters_ne {text : List Char}
    (absent : ∀ token ∈ tokens (delimiters architecture).contains text,
      token.delimiter ≠ some ']') : ']' ∉ text := by
  intro member
  rw [← text_tokens (delimiters architecture).contains text] at member
  obtain ⟨token, listed, member⟩ := List.mem_flatMap.mp member
  rcases List.mem_append.mp member with inWord | delimits
  · obtain ⟨earlier, later, read⟩ := List.append_of_mem listed
    obtain ⟨before, after, run, -, -⟩ := exists_isRun read
    have plain := run.plain _ inWord
    cases architecture <;> cases plain
  · exact absent token listed (Option.mem_toList.mp delimits)

theorem opensExpression_of_captured {before : List Char}
    (captured : (pendingAt architecture row before).captured ≠ none) :
    OpensExpression architecture before := by
  obtain ⟨expression, captured⟩ := Option.ne_none_iff_exists'.mp captured
  obtain ⟨earlier, token, later, read, ⟨role, opened, offset⟩, within, -⟩ :=
    exists_start_of_captured architecture row captured
  obtain ⟨start, rest, run, rfl, ended⟩ := exists_isRun read
  refine ⟨start, token.word, rest, run, roleOf_eq_register_iff.mp role, ?_, ended ▸ offset⟩
  cases rest with
  | nil => simp
  | cons delimiter rest =>
      rw [← ended] at opened
      rw [← run.tokens_tail read] at within
      rintro (_ | ⟨_, member⟩)
      · exact opened rfl
      · exact not_mem_of_delimiters_ne within member

theorem opensRange_of_rangeStart {before : List Char}
    (pending : (pendingAt architecture row before).rangeStart ≠ none) :
    OpensRange architecture before := by
  obtain ⟨first, pending⟩ := Option.ne_none_iff_exists'.mp pending
  obtain ⟨rfl, earlier, later, read, inList, unended⟩ :=
    exists_dash_of_rangeStart architecture row pending
  obtain ⟨start, rest, run, rfl, dash⟩ := exists_isRun read
  refine ⟨rfl, start, first, rest, run, dash, inList_pendingAt row start ▸ inList, ?_⟩
  intro between other after within register
  have role := roleOf_eq_register_iff.mpr register
  rw [← run.tokens_tail read, within.tokens_eq (by simp [word_ne_nil role])] at unended
  exact unended ⟨other, after.head?⟩ (by simp) role

theorem explicit_applyAll (arguments : List Char) (effect : Effect)
    (adjustments : List Adjustment) :
    (Adjustment.applyAll arguments effect adjustments).explicit = effect.explicit := by
  induction adjustments generalizing effect with
  | nil => rfl
  | cons adjustment adjustments ih =>
      refine (ih _).trans ?_
      cases adjustment <;> simp only [Adjustment.apply] <;> repeat' split
      all_goals rfl

theorem explicit_rowEffect (shaped : row.shape.isEmpty = false) (text : List Char) :
    (Classification.rowEffect architecture row text).explicit =
      explicitAfter architecture row (tokens (delimiters architecture).contains text) := by
  unfold Classification.rowEffect
  rw [explicit_applyAll]
  cases architecture with
  | x86 | x64 =>
      simp only [X86.operands, shaped, Bool.false_eq_true, if_false]
      rfl
  | arm =>
      simp only [Arm.operands, shaped, Bool.false_eq_true, if_false]
      rfl

end

open Classification

/--
A register of the text becomes a named operand unless its word ends a captured expression or a range
is pending before it.  The text alone rules this out where no bracket closes an expression right
after the word and a register follows every dash in a list before it.  A register is named only by
such a word or as a part of the range that the word ends.
-/
theorem registers_named_exactly (architecture : Architecture) (row : TableRow)
    (shaped : row.shape.isEmpty = false) (text : List Char) :
    (∀ before word after, SpellsRegister architecture text before word after →
      ¬ EndsCapture architecture row before after →
      (pendingAt architecture row before).rangeStart = none →
      String.ofList word ∈ (rowEffect architecture row text).explicit) ∧
    (∀ before word after, SpellsRegister architecture text before word after →
      ¬ (after.head? = some ']' ∧ OpensExpression architecture before) →
      ¬ OpensRange architecture before →
      String.ofList word ∈ (rowEffect architecture row text).explicit) ∧
    (∀ name, Register.isRegister architecture name = true →
      (name ∈ (rowEffect architecture row text).explicit ↔
        ∃ before word after, SpellsRegister architecture text before word after ∧
          ¬ EndsCapture architecture row before after ∧
          name ∈ Arm.named (pendingAt architecture row before).rangeStart word)) := by
  rw [explicit_rowEffect shaped]
  have named : ∀ before word after, SpellsRegister architecture text before word after →
      ¬ EndsCapture architecture row before after →
      (pendingAt architecture row before).rangeStart = none →
      String.ofList word ∈
        explicitAfter architecture row (tokens (delimiters architecture).contains text) := by
    intro before word after spells notCaptured noRange
    refine (mem_explicitAfter_tokens_iff spells.register).mpr
      ⟨before, word, after, spells, notCaptured, ?_⟩
    simp [noRange, Arm.named]
  refine ⟨named, ?_, fun name register => mem_explicitAfter_tokens_iff register⟩
  intro before word after spells notClosing noDash
  apply named before word after spells
  · rintro ⟨closing, captured⟩
    exact notClosing ⟨closing, opensExpression_of_captured captured⟩
  · by_contra pending
    exact noDash (opensRange_of_rangeStart pending)

theorem scaledIndex_named :
    "ecx" ∈ (rowEffect .x86 (.starting "mov" .dataMove .move)
      "eax,dword ptr [ebp+ecx*4]".toList).explicit ∧
    "r2" ∈ (rowEffect .arm (.starting "ldrex" .dataMove .load)
      "r0,[r1,r2,lsl #2]".toList).explicit := by
  constructor
  · exact (registers_named_exactly .x86 _ (by decide) _).1 "eax,dword ptr [ebp+".toList
      "ecx".toList "*4]".toList (by decide +kernel) (by decide +kernel) (by decide +kernel)
  · exact (registers_named_exactly .arm _ (by decide) _).1 "r0,[r1,".toList
      "r2".toList ",lsl #2]".toList (by decide +kernel) (by decide +kernel) (by decide +kernel)

/-- The index of a frame reference, and of any reference on ARM, is not named before a bracket. -/
theorem lastIndex_not_named :
    (∃ row ∈ Table.rows .x86, row.mnemonic = "mov" ∧ row.shape.isEmpty = false ∧
      SpellsRegister .x86 "eax,dword ptr [ebp+ecx]".toList "eax,dword ptr [ebp+".toList
        "ecx".toList "]".toList ∧
      "ecx" ∉ (rowEffect .x86 row "eax,dword ptr [ebp+ecx]".toList).explicit) ∧
    (∃ row ∈ Table.rows .arm, row.mnemonic = "ldr" ∧ row.shape.isEmpty = false ∧
      SpellsRegister .arm "r0,[r1,r2]".toList "r0,[r1,".toList "r2".toList "]".toList ∧
      "r2" ∉ (rowEffect .arm row "r0,[r1,r2]".toList).explicit) := by
  decide +kernel

end Scan
end FaultTriage
