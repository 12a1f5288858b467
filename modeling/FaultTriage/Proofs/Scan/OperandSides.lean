import FaultTriage.Proofs.Scan.Reader
import FaultTriage.Proofs.Scan.Run

/-!
# Operands on the two sides of a comma

Reading x86 and x64 text only adds to the operands found before, and what it adds does not depend on
them.  Behind a comma outside brackets nothing is captured and no bracket is open, as at the start
of a text.  What stands before such a comma and what stands after it are therefore read as if each
stood alone.
-/

set_option autoImplicit false

namespace FaultTriage

namespace OperandSet

theorem union_assoc (first second third : OperandSet) :
    (first.union second).union third = first.union (second.union third) := by
  ext name
  simp only [mem_union, or_assoc]

theorem union_empty (set : OperandSet) : set.union ∅ = set := by
  ext name
  simp

theorem union_insertAll (left right : OperandSet) (names : List Operand) :
    left.union (right.insertAll names) = (left.union right).insertAll names := by
  ext name
  simp only [mem_union, mem_insertAll]
  exact or_left_comm

end OperandSet

namespace Operands

def union (left right : Operands) : Operands :=
  { source := left.source.union right.source
    destination := left.destination.union right.destination
    destinationPointer := left.destinationPointer.union right.destinationPointer
    passedOrReturned := left.passedOrReturned.union right.passedOrReturned
    explicit := left.explicit.union right.explicit
    compound := left.compound.union right.compound }

theorem union_assoc (first second third : Operands) :
    (first.union second).union third = first.union (second.union third) := by
  simp only [union, OperandSet.union_assoc]

theorem union_empty (operands : Operands) : operands.union ∅ = operands := by
  have nothing (set : OperandSet) : set.union OperandSet.empty = set := set.union_empty
  simp only [union, EmptyCollection.emptyCollection, empty, nothing]

section

variable (earlier operands : Operands) (names : List Operand)

theorem union_addSources :
    earlier.union (operands.addSources names) = (earlier.union operands).addSources names := by
  simp only [union, addSources, OperandSet.union_insertAll]

theorem union_addDestinations :
    earlier.union (operands.addDestinations names) =
      (earlier.union operands).addDestinations names := by
  simp only [union, addDestinations, OperandSet.union_insertAll]

theorem union_addDestinationPointers :
    earlier.union (operands.addDestinationPointers names) =
      (earlier.union operands).addDestinationPointers names := by
  simp only [union, addDestinationPointers, OperandSet.union_insertAll]

theorem union_addExplicit :
    earlier.union (operands.addExplicit names) = (earlier.union operands).addExplicit names := by
  simp only [union, addExplicit, OperandSet.union_insertAll]

theorem union_addCompound :
    earlier.union (operands.addCompound names) = (earlier.union operands).addCompound names := by
  simp only [union, addCompound, OperandSet.union_insertAll]

end

end Operands

namespace Scan

open Operands in
theorem union_file (shape : OperandShape) (inSource indirect : Bool) (names : List Operand)
    (earlier operands : Operands) :
    earlier.union (file shape inSource indirect names operands) =
      file shape inSource indirect names (earlier.union operands) := by
  simp only [file, union_addExplicit, apply_ite earlier.union, union_addSources,
    union_addDestinations, union_addDestinationPointers]

open Operands in
theorem union_fileCompound (shape : OperandShape) (markers : List Char) (inSource : Bool)
    (expression : List Char) (earlier operands : Operands) :
    earlier.union (fileCompound shape markers inSource expression operands) =
      fileCompound shape markers inSource expression (earlier.union operands) := by
  simp only [fileCompound, union_addExplicit, union_addCompound, apply_ite earlier.union,
    union_addSources, union_addDestinations]

namespace X86

variable (architecture : Architecture) (shape : OperandShape)

/-! ## What was found before -/

/-- The state of a reader that had found some operands before it started. -/
def State.after (earlier : Operands) (state : State) : State :=
  { state with operands := earlier.union state.operands }

theorem cross_after (earlier : Operands) (state : State) (delimiter : Option Char) :
    (state.after earlier).cross shape delimiter = (state.cross shape delimiter).after earlier := by
  unfold State.cross
  split <;> rfl

theorem step_after (earlier : Operands) (state : State) (token : Token) :
    step architecture shape (state.after earlier) token =
      (step architecture shape state token).after earlier := by
  have found : (state.after earlier).operands = earlier.union state.operands := rfl
  have captured : (state.after earlier).captured = state.captured := rfl
  simp only [step, cross_after, found, captured]
  split
  case h_1 =>
    rw [← union_fileCompound]
    rfl
  case h_2 => rfl
  case h_3 =>
    cases roleOf architecture token.word with
    | passed | interrupting => rfl
    | register =>
        simp only [State.after, union_file]
        rfl

theorem foldl_step_after (earlier : Operands) (read : List Token) (state : State) :
    read.foldl (step architecture shape) (state.after earlier) =
      (read.foldl (step architecture shape) state).after earlier := by
  induction read generalizing state with
  | nil => rfl
  | cons token read ih => rw [List.foldl_cons, List.foldl_cons, step_after, ih]

/-- What reading adds does not depend on what was found before. -/
theorem readFrom_eq_union (inSource : Bool) (earlier : Operands) (text : List Char) :
    readFrom architecture shape inSource earlier text =
      earlier.union (readFrom architecture shape inSource ∅ text) := by
  have start : (⟨inSource, false, none, earlier⟩ : State) =
      State.after earlier ⟨inSource, false, none, ∅⟩ := by
    rw [State.after, earlier.union_empty]
  rw [readFrom, start, foldl_step_after]
  rfl

/-! ## Brackets -/

/-- Brackets open and close in turn, and none is open at the end. -/
inductive Paired : List Char → Prop where
  | plain {text : List Char} (unopened : '[' ∉ text) (unclosed : ']' ∉ text) : Paired text
  | enclosed {before inside after : List Char} (beforeUnopened : '[' ∉ before)
      (beforeUnclosed : ']' ∉ before) (insideUnopened : '[' ∉ inside)
      (insideUnclosed : ']' ∉ inside) :
      Paired after → Paired (before ++ '[' :: (inside ++ ']' :: after))

def bracketAfter (opened : Bool) : Option Char → Bool
  | some '[' => true
  | some ']' => false
  | _ => opened

def bracketOpen (opened : Bool) (text : List Char) : Bool :=
  text.foldl (fun opened character => bracketAfter opened (some character)) opened

theorem bracketOpen_append (opened : Bool) (left right : List Char) :
    bracketOpen opened (left ++ right) = bracketOpen (bracketOpen opened left) right :=
  List.foldl_append

theorem bracketAfter_of_ne {character : Char} (opening : character ≠ '[')
    (closing : character ≠ ']') (opened : Bool) : bracketAfter opened (some character) = opened := by
  unfold bracketAfter
  split
  case h_1 same => exact absurd (Option.some.inj same) opening
  case h_2 same => exact absurd (Option.some.inj same) closing
  case h_3 => rfl

theorem bracketOpen_of_not_mem {text : List Char} (unopened : '[' ∉ text) (unclosed : ']' ∉ text)
    (opened : Bool) : bracketOpen opened text = opened := by
  induction text generalizing opened with
  | nil => rfl
  | cons character rest ih =>
      rw [List.mem_cons, not_or] at unopened unclosed
      have same := bracketAfter_of_ne (Ne.symm unopened.1) (Ne.symm unclosed.1) opened
      rw [bracketOpen, List.foldl_cons, same]
      exact ih unopened.2 unclosed.2 opened

theorem Paired.bracketOpen_eq {text : List Char} (paired : Paired text) :
    bracketOpen false text = false := by
  induction paired with
  | plain unopened unclosed => exact bracketOpen_of_not_mem unopened unclosed false
  | enclosed beforeUnopened beforeUnclosed insideUnopened insideUnclosed _ ih =>
      rw [bracketOpen_append, bracketOpen_of_not_mem beforeUnopened beforeUnclosed]
      change bracketOpen true _ = false
      rw [bracketOpen_append, bracketOpen_of_not_mem insideUnopened insideUnclosed]
      exact ih

theorem bracketOpen_tokens (text : List Char) (opened : Bool) :
    (tokens delimiters.contains text).foldl
        (fun opened token => bracketAfter opened token.delimiter) opened =
      bracketOpen opened text := by
  refine foldl_delimiters bracketAfter (fun opened character plain => ?_) (fun _ => rfl) text opened
  refine bracketAfter_of_ne ?_ ?_ opened
  · rintro rfl
    cases plain
  · rintro rfl
    cases plain

/-! ## From token to token -/

section

variable (state : State) (token : Token)

theorem indirect_cross :
    (state.cross shape token.delimiter).indirect =
      bracketAfter state.indirect token.delimiter := by
  simp only [State.cross, bracketAfter]
  split <;> simp_all

theorem indirect_step :
    (step architecture shape state token).indirect =
      bracketAfter state.indirect token.delimiter := by
  rw [← indirect_cross shape]
  simp only [step]
  repeat' split
  all_goals rfl

theorem inSource_step (stays : token.delimiter = some ',' → sideAfterComma shape = state.inSource) :
    (step architecture shape state token).inSource = state.inSource := by
  have crossed : (state.cross shape token.delimiter).inSource = state.inSource := by
    unfold State.cross
    split
    case h_1 comma => exact stays comma
    all_goals rfl
  rw [← crossed]
  simp only [step]
  repeat' split
  all_goals rfl

def State.Enclosed (state : State) : Prop :=
  state.indirect = false → state.captured = none

theorem State.Enclosed.step {state : State} (enclosed : state.Enclosed) :
    (X86.step architecture shape state token).Enclosed := by
  intro closed
  rw [indirect_step] at closed
  have crossed := indirect_cross shape state token
  have outside (opening : token.delimiter ≠ some ']') : state.captured = none := by
    apply enclosed
    unfold bracketAfter at closed
    split at closed
    case h_1 => cases closed
    case h_2 ended => exact absurd ended opening
    case h_3 => exact closed
  simp only [X86.step]
  split
  case h_1 => rfl
  case h_2 ended =>
    have free := outside (by simp [ended])
    simp only [free, Option.map_none]
  case h_3 goesOn =>
    have free : state.captured = none := by
      by_cases ended : token.delimiter = some ']'
      · cases captured : state.captured with
        | none => rfl
        | some expression => exact (goesOn expression ended captured).elim
      · exact outside ended
    cases roleOf architecture token.word with
    | passed => simp only [free, Option.map_none]
    | interrupting => rfl
    | register =>
        rw [closed] at crossed
        simp only [startsCapture, crossed, Bool.false_and, Bool.false_eq_true, if_false]

end

theorem indirect_foldl (read : List Token) (state : State) :
    (read.foldl (step architecture shape) state).indirect =
      read.foldl (fun opened token => bracketAfter opened token.delimiter) state.indirect := by
  induction read generalizing state with
  | nil => rfl
  | cons token read ih => rw [List.foldl_cons, List.foldl_cons, ih, indirect_step]

theorem enclosed_foldl (read : List Token) {state : State} (enclosed : state.Enclosed) :
    (read.foldl (step architecture shape) state).Enclosed := by
  induction read generalizing state with
  | nil => exact enclosed
  | cons token read ih => exact ih (enclosed.step architecture shape token)

/-! ## The comma -/

/-- Outside brackets a comma leaves nothing pending, and its word adds what it adds at the end. -/
theorem step_comma {state : State} (closed : state.indirect = false) (free : state.captured = none)
    (word : List Char) :
    step architecture shape state ⟨word, some ','⟩ =
      ⟨sideAfterComma shape, false, none,
        (step architecture shape state ⟨word, none⟩).operands⟩ := by
  simp only [step, State.cross, closed, free]
  cases roleOf architecture word with
  | passed | interrupting => rfl
  | register => simp [startsCapture]

/-- The reader goes on behind the comma as from the start of a text, but on the other side. -/
theorem foldl_step_comma {left : List Char} (closed : bracketOpen false left = false)
    (inSource : Bool) (earlier : Operands) (right : List Char) :
    (tokens delimiters.contains (left ++ ',' :: right)).foldl (step architecture shape)
        ⟨inSource, false, none, earlier⟩ =
      (tokens delimiters.contains right).foldl (step architecture shape)
        ⟨sideAfterComma shape, false, none,
          readFrom architecture shape inSource earlier left⟩ := by
  obtain ⟨before, word, run⟩ := exists_lastRun delimiters.contains left
  have comma : IsRun delimiters.contains (left ++ ',' :: right) before word (',' :: right) := by
    refine ⟨by simp [run.split], run.plain, run.begins, ?_⟩
    rintro character ⟨⟩
    rfl
  rw [comma.tokens_eq (by simp), List.foldl_append, List.foldl_cons]
  generalize state_eq : (tokens delimiters.contains before).foldl (step architecture shape)
    ⟨inSource, false, none, earlier⟩ = state
  -- The brackets of the text all stand before its last word.
  have outside : state.indirect = false := by
    have noBracket (bracket : Char) (delimits : delimiters.contains bracket = true) :
        bracket ∉ word := by
      intro member
      rw [run.plain bracket member] at delimits
      cases delimits
    rw [run.split, List.append_nil, bracketOpen_append,
      bracketOpen_of_not_mem (noBracket '[' rfl) (noBracket ']' rfl)] at closed
    rw [← state_eq, indirect_foldl, bracketOpen_tokens]
    exact closed
  have free : state.captured = none := by
    rw [← state_eq] at outside ⊢
    exact enclosed_foldl architecture shape _ (fun _ => rfl) outside
  have found : readFrom architecture shape inSource earlier left =
      (step architecture shape state ⟨word, none⟩).operands := by
    rw [readFrom]
    by_cases empty : word = []
    · subst empty
      rw [run.split, List.append_nil, List.append_nil, state_eq]
      rfl
    · rw [run.tokens_eq (by simpa using empty), List.foldl_append, state_eq]
      rfl
  rw [List.head?_cons, List.tail_cons, step_comma architecture shape outside free, ← found]

theorem readFrom_comma {left : List Char} (closed : bracketOpen false left = false)
    (inSource : Bool) (earlier : Operands) (right : List Char) :
    readFrom architecture shape inSource earlier (left ++ ',' :: right) =
      readFrom architecture shape (sideAfterComma shape)
        (readFrom architecture shape inSource earlier left) right :=
  congrArg State.operands (foldl_step_comma architecture shape closed inSource earlier right)

/-! ## The sides -/

section

variable {shape} {state : State}

theorem written_step (onSource : state.inSource = true) (token : Token) :
    (step architecture shape state token).operands.destination = state.operands.destination ∧
      (step architecture shape state token).operands.destinationPointer =
        state.operands.destinationPointer := by
  simp only [step, onSource]
  split
  case h_1 =>
    simp only [fileCompound, if_true]
    split <;> exact ⟨rfl, rfl⟩
  case h_2 => simp only [operands_cross, and_self]
  case h_3 =>
    cases roleOf architecture token.word with
    | passed | interrupting => simp only [operands_cross, and_self]
    | register => exact ⟨rfl, rfl⟩

theorem source_step (onDestination : state.inSource = false)
    (separate : shape.destinationIsSource = false) (token : Token) :
    (step architecture shape state token).operands.source = state.operands.source := by
  simp only [step, onDestination]
  split
  case h_1 =>
    simp only [fileCompound, separate, Bool.false_eq_true, if_false]
    repeat' split
    all_goals rfl
  case h_2 => rw [operands_cross]
  case h_3 =>
    cases roleOf architecture token.word with
    | passed | interrupting => simp only [operands_cross]
    | register =>
        simp only [file, separate, Bool.false_eq_true, if_false]
        repeat' split
        all_goals rfl

theorem written_foldl (sourcesLast : sideAfterComma shape = true) (read : List Token)
    (onSource : state.inSource = true) :
    (read.foldl (step architecture shape) state).operands.destination =
        state.operands.destination ∧
      (read.foldl (step architecture shape) state).operands.destinationPointer =
        state.operands.destinationPointer := by
  induction read generalizing state with
  | nil => exact ⟨rfl, rfl⟩
  | cons token read ih =>
      have stays := inSource_step architecture shape state token
        fun _ => sourcesLast.trans onSource.symm
      obtain ⟨destination, pointer⟩ := ih (stays.trans onSource)
      obtain ⟨destinationNow, pointerNow⟩ := written_step architecture onSource token
      exact ⟨destination.trans destinationNow, pointer.trans pointerNow⟩

theorem source_foldl (separate : shape.destinationIsSource = false) {read : List Token}
    (single : ∀ token ∈ read, token.delimiter ≠ some ',') (onDestination : state.inSource = false) :
    (read.foldl (step architecture shape) state).operands.source = state.operands.source := by
  induction read generalizing state with
  | nil => rfl
  | cons token read ih =>
      obtain ⟨notComma, later⟩ := List.forall_mem_cons.mp single
      have stays := inSource_step architecture shape state token fun comma => absurd comma notComma
      exact (ih later (stays.trans onDestination)).trans
        (source_step architecture onDestination separate token)

end

theorem reversed_eq_false {row : TableRow} (notArm : architecture ≠ .arm)
    (listed : row ∈ Table.rows architecture) : row.shape.reversed = false := by
  have checked : ∀ row ∈ Table.rows architecture, row.shape.reversed = false := by
    cases architecture with
    | x86 | x64 => decide +kernel
    | arm => exact absurd rfl notArm
  exact checked row listed

variable {architecture}

/--
The operands of a row whose text has a comma outside brackets are the implied ones, those of the
text before the comma and those of the text after it, each part read for itself; at the comma no
bracket is open and nothing is captured.  Where the row has sources, the part after the comma writes
nothing; where it has destinations that are no sources as well, the part before it reads nothing.
-/
theorem operands_of_sides (notArm : architecture ≠ .arm) {row : TableRow}
    (listed : row ∈ Table.rows architecture) (shaped : row.shape.isEmpty = false)
    {left : List Char} (single : ',' ∉ left) (paired : Paired left) (right : List Char) :
    let first := readFrom architecture row.shape (initialSide row.shape) ∅ left
    let second := readFrom architecture row.shape (sideAfterComma row.shape) ∅ right
    operands architecture row (left ++ ',' :: right) = (implied row).union (first.union second) ∧
      stateAfter architecture row (tokens delimiters.contains (left ++ [','])) =
        ⟨sideAfterComma row.shape, false, none, (implied row).union first⟩ ∧
      (row.shape.hasSource = true →
        second.destination = ∅ ∧ second.destinationPointer = ∅) ∧
      (row.shape.hasDestination = true → row.shape.destinationIsSource = false →
        first.source = ∅) := by
  have closed := paired.bracketOpen_eq
  have forward := reversed_eq_false architecture notArm listed
  refine ⟨?_, ?_, ?_, ?_⟩
  · rw [operands, if_neg (by simp [shaped]), readFrom_comma _ _ closed, readFrom_eq_union,
      readFrom_eq_union architecture row.shape (initialSide row.shape), Operands.union_assoc]
  · rw [stateAfter, foldl_step_comma _ _ closed, readFrom_eq_union]
    rfl
  · intro sources
    have sourcesLast : sideAfterComma row.shape = true := by
      simp only [sideAfterComma, forward, Bool.false_eq_true, if_false, sources]
    exact written_foldl architecture sourcesLast _ sourcesLast
  · intro destinations separate
    have destinationFirst : initialSide row.shape = false := by
      simp only [initialSide, destinations, forward, Bool.not_true, Bool.or_self]
    refine source_foldl architecture separate (fun token member comma => ?_) destinationFirst
    exact single (mem_of_mem_tokens member comma)

theorem elementToFrameSlot_read_by_sides :
    let row : TableRow := .starting "mov" .dataMove .move
    let left := "dword ptr es:[ebp-8]".toList
    let right := "[ebx+esi*4]".toList
    row ∈ Table.rows .x86 ∧ row.shape.isEmpty = false ∧ ',' ∉ left ∧ Paired left ∧
      operands .x86 row (left ++ ',' :: right) =
        { (∅ : Operands) with
          source := .ofList ["ebx", "esi"]
          destination := .ofList ["ebp-8"]
          destinationPointer := .ofList ["ebp"]
          explicit := .ofList ["ebp", "ebx", "esi", "ebp-8"]
          compound := .ofList ["ebp-8"] } ∧
      (readFrom .x86 row.shape (sideAfterComma row.shape) ∅ right).destination = ∅ ∧
      (readFrom .x86 row.shape (initialSide row.shape) ∅ left).source = ∅ := by
  intro row left right
  have listed : row ∈ Table.rows .x86 := by decide +kernel
  have single : ',' ∉ left := by decide +kernel
  have paired : Paired left :=
    @Paired.enclosed "dword ptr es:".toList "ebp-8".toList [] (by decide) (by decide) (by decide)
      (by decide) (.plain List.not_mem_nil List.not_mem_nil)
  obtain ⟨sides, -, written, read⟩ := operands_of_sides (by decide) listed rfl single paired right
  refine ⟨listed, rfl, single, paired, sides.trans ?_, (written rfl).1, read rfl rfl⟩
  decide +kernel

end X86

end Scan

end FaultTriage
