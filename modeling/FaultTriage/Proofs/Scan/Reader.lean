import Mathlib.Data.List.Induction
import FaultTriage.Classification

/-!
# Readers of argument text, token by token

The readers of the architectures differ in their states, but what they do with the next token
depends on little of it: the captured expression, whether a list is open, and the start of a range.
This module says once for each reader what a token names and what it captures, in these terms, and
then speaks of both readers together.
-/

set_option autoImplicit false

namespace FaultTriage.Scan

def delimiters : Architecture → List Char
  | .x86 | .x64 => X86.delimiters
  | .arm => Arm.delimiters

/-- What a reader carries from the text before a word to that word. -/
structure Pending where
  captured : Option (List Char)
  inList : Bool
  rangeStart : Option (List Char)

def X86.State.pending (state : X86.State) : Pending := ⟨state.captured, false, none⟩

def Arm.State.pending (state : Arm.State) : Pending :=
  ⟨state.captured, state.inList, state.rangeStart⟩

def passesOver (architecture : Architecture) (inList : Bool) (delimiter : Option Char) : Bool :=
  match architecture with
  | .x86 | .x64 => delimiter == some ':'
  | .arm => delimiter == some '-' && !inList

def namedBy (architecture : Architecture) (pending : Pending) (token : Token) : List Operand :=
  match token.delimiter, pending.captured with
  | some ']', some captured => [String.ofList (captured ++ token.word)]
  | delimiter, _ =>
      if roleOf architecture token.word = .register
          ∧ passesOver architecture pending.inList delimiter = false then
        Arm.named pending.rangeStart token.word
      else
        []

def StartsExpression (architecture : Architecture) (token : Token) : Prop :=
  roleOf architecture token.word = .register ∧ token.delimiter ≠ some ']' ∧
    (architecture ≠ .arm →
      token.word.getLast? = some 'p' ∧ (token.delimiter = some '+' ∨ token.delimiter = some '-'))

/-- What a captured expression can be after a token: the old one continued, or a new one. -/
def Captures (architecture : Architecture) (before : Option (List Char)) (token : Token)
    (expression : List Char) : Prop :=
  (∃ captured, before = some captured ∧ token.delimiter ≠ some ']' ∧
    expression = captured ++ token.text) ∨
  (StartsExpression architecture token ∧ expression = token.text)

@[simp] theorem explicit_file (shape : OperandShape) (inSource indirect : Bool)
    (names : List Operand) (operands : Operands) :
    (file shape inSource indirect names operands).explicit = operands.explicit.insertAll names := by
  simp only [file, Operands.addExplicit]
  repeat' split
  all_goals rfl

@[simp] theorem explicit_fileCompound (shape : OperandShape) (markers : List Char) (inSource : Bool)
    (expression : List Char) (operands : Operands) :
    (fileCompound shape markers inSource expression operands).explicit =
      operands.explicit.insertAll [String.ofList expression] := by
  simp only [fileCompound, Operands.addExplicit]
  repeat' split
  all_goals rfl

theorem namedBy_of_closes (architecture : Architecture) {pending : Pending} {token : Token}
    {captured : List Char} (ended : token.delimiter = some ']')
    (capturing : pending.captured = some captured) :
    namedBy architecture pending token = [String.ofList (captured ++ token.word)] := by
  simp only [namedBy, ended, capturing]

theorem namedBy_of_reads (architecture : Architecture) {pending : Pending} {token : Token}
    (goesOn : ∀ captured, token.delimiter = some ']' → pending.captured = some captured → False) :
    namedBy architecture pending token =
      if roleOf architecture token.word = .register
          ∧ passesOver architecture pending.inList token.delimiter = false then
        Arm.named pending.rangeStart token.word
      else
        [] := by
  unfold namedBy
  split
  case h_1 captured ended capturing => exact (goesOn captured ended capturing).elim
  case h_2 => rfl

theorem Captures.continued {architecture : Architecture} {before : Option (List Char)}
    {token : Token} {expression : List Char}
    (goesOn : ∀ captured, token.delimiter = some ']' → before = some captured → False)
    (continued : before.map (· ++ token.text) = some expression) :
    Captures architecture before token expression := by
  obtain ⟨captured, found, rfl⟩ := Option.map_eq_some_iff.mp continued
  exact .inl ⟨captured, found, fun ended => goesOn captured ended found, rfl⟩

/-! ## One token of x86 and x64 text -/

namespace X86

variable {architecture : Architecture} (shape : OperandShape) (state : State) (token : Token)

@[simp] theorem operands_cross (delimiter : Option Char) :
    (state.cross shape delimiter).operands = state.operands := by
  unfold State.cross
  split <;> rfl

theorem explicit_step (notArm : architecture ≠ .arm) :
    (step architecture shape state token).operands.explicit =
      state.operands.explicit.insertAll (namedBy architecture state.pending token) := by
  have passes (delimiter : Option Char) :
      passesOver architecture false delimiter = (delimiter == some ':') := by
    cases architecture with
    | x86 | x64 => rfl
    | arm => exact absurd rfl notArm
  simp only [step]
  split
  case h_1 captured ended capturing =>
    rw [@namedBy_of_closes architecture state.pending token captured ended capturing]
    simp
  case h_2 ended =>
    rw [namedBy_of_reads architecture (by simp [ended])]
    simp [ended, passes, State.pending, OperandSet.insertAll]
  case h_3 notColon goesOn =>
    rw [@namedBy_of_reads architecture state.pending token goesOn]
    cases role : roleOf architecture token.word with
    | passed | interrupting => simp [OperandSet.insertAll]
    | register =>
        have read : token.delimiter ≠ some ':' := notColon
        simp [read, passes, State.pending, Arm.named]

theorem captures_of_step {expression : List Char}
    (captured : (step architecture shape state token).captured = some expression) :
    Captures architecture state.captured token expression := by
  simp only [step] at captured
  split at captured
  case h_1 => cases captured
  case h_2 ended => exact .continued (by simp [ended]) captured
  case h_3 notColon goesOn =>
    cases role : roleOf architecture token.word with
    | passed =>
        rw [role] at captured
        exact .continued goesOn captured
    | interrupting =>
        rw [role] at captured
        cases captured
    | register =>
        rw [role] at captured
        simp only [startsCapture, Option.ite_none_right_eq_some, Bool.and_eq_true, Bool.or_eq_true,
          beq_iff_eq, Option.some.injEq] at captured
        obtain ⟨⟨⟨⟨-, pointer⟩, offset⟩, -⟩, rfl⟩ := captured
        refine .inr ⟨⟨role, ?_, fun _ => ⟨pointer, offset⟩⟩, rfl⟩
        intro ended
        simp [ended] at offset

end X86

/-! ## One token of ARM text -/

namespace Arm

variable (shape : OperandShape) (state : State) (token : Token)

@[simp] theorem operands_cross : (state.cross shape token).operands = state.operands := by
  unfold State.cross
  repeat' split
  all_goals rfl

theorem explicit_step :
    (step shape state token).operands.explicit =
      state.operands.explicit.insertAll (namedBy .arm state.pending token) := by
  simp only [step]
  split
  case h_1 captured ended capturing =>
    rw [@namedBy_of_closes .arm state.pending token captured ended capturing]
    simp
  case h_2 goesOn =>
    rw [@namedBy_of_reads .arm state.pending token goesOn]
    split
    case isTrue passed => simp [passed, passesOver, State.pending, OperandSet.insertAll]
    case isFalse read =>
      cases role : roleOf .arm token.word with
      | passed | interrupting => simp [OperandSet.insertAll]
      | register => simp_all [passesOver, State.pending]

theorem captures_of_step {expression : List Char}
    (captured : (step shape state token).captured = some expression) :
    Captures .arm state.captured token expression := by
  simp only [step] at captured
  split at captured
  case h_1 => cases captured
  case h_2 goesOn =>
    split at captured
    case isTrue => exact .continued goesOn captured
    case isFalse =>
      cases role : roleOf .arm token.word with
      | passed =>
          rw [role] at captured
          exact .continued goesOn captured
      | interrupting =>
          rw [role] at captured
          cases captured
      | register =>
          rw [role] at captured
          dsimp only at captured
          split at captured
          case isTrue opened =>
            refine .inr ⟨⟨role, ?_, fun notArm => absurd rfl notArm⟩, by simpa using captured.symm⟩
            intro ended
            simp [State.cross, ended] at opened
          case isFalse => exact .continued goesOn captured

def listAfter (inList : Bool) : Option Char → Bool
  | some '\x7b' => true
  | some '\x7d' => false
  | _ => inList

@[simp] theorem inList_cross :
    (state.cross shape token).inList = listAfter state.inList token.delimiter := by
  simp only [State.cross, listAfter]
  split <;> try split
  all_goals simp_all

theorem inList_step :
    (step shape state token).inList = listAfter state.inList token.delimiter := by
  rw [← inList_cross shape]
  simp only [step]
  repeat' split
  all_goals rfl

theorem rangeStart_of_cross {first : List Char}
    (opened : (state.cross shape token).rangeStart = some first) :
    (token = ⟨first, some '-'⟩ ∧ state.inList = true) ∨ state.rangeStart = some first := by
  obtain ⟨word, delimiter⟩ := token
  simp only [State.cross] at opened
  split at opened <;> try split at opened
  all_goals simp_all

/--
A range is open after a token only if a dash in a list opens it, or if it was before and the token
is no register that can end it.
-/
theorem rangeStart_of_step {first : List Char}
    (opened : (step shape state token).rangeStart = some first) :
    (token = ⟨first, some '-'⟩ ∧ state.inList = true) ∨
      (state.rangeStart = some first ∧
        (roleOf .arm token.word = .register →
          token.delimiter = some ']' ∨ token.delimiter = some '-')) := by
  have crossed := @rangeStart_of_cross shape state token first
  simp only [step] at opened
  split at opened
  case h_1 ended _ =>
    exact (crossed opened).imp_right fun pending => ⟨pending, fun _ => .inl ended⟩
  case h_2 =>
    split at opened
    case isTrue passed =>
      exact (crossed opened).imp_right fun pending => ⟨pending, fun _ => .inr passed.1⟩
    case isFalse =>
      cases role : roleOf .arm token.word with
      | passed | interrupting =>
          rw [role] at opened
          exact (crossed opened).imp_right fun pending => ⟨pending, nofun⟩
      | register =>
          rw [role] at opened
          dsimp only at opened
          -- A register ends a pending range, even before a dash that would open the next one.
          split at opened
          case isTrue => cases opened
          case isFalse ended =>
            rcases crossed opened with dash | pending
            · exact .inl dash
            · simp [pending] at ended

end Arm

/-! ## Both readers on a list of tokens -/

section

variable (architecture : Architecture) (row : TableRow)

def X86.stateAfter (read : List Token) : X86.State :=
  read.foldl (X86.step architecture row.shape) ⟨initialSide row.shape, false, none, implied row⟩

def Arm.stateAfter (read : List Token) : Arm.State :=
  read.foldl (Arm.step row.shape)
    ⟨initialSide row.shape, false, false, 0, none, none, implied row⟩

theorem X86.stateAfter_concat (read : List Token) (token : Token) :
    X86.stateAfter architecture row (read ++ [token]) =
      X86.step architecture row.shape (X86.stateAfter architecture row read) token := by
  simp only [X86.stateAfter, List.foldl_append, List.foldl_cons, List.foldl_nil]

theorem Arm.stateAfter_concat (read : List Token) (token : Token) :
    Arm.stateAfter row (read ++ [token]) =
      Arm.step row.shape (Arm.stateAfter row read) token := by
  simp only [Arm.stateAfter, List.foldl_append, List.foldl_cons, List.foldl_nil]

def pendingAfter (read : List Token) : Pending :=
  match architecture with
  | .x86 | .x64 => (X86.stateAfter architecture row read).pending
  | .arm => (Arm.stateAfter row read).pending

def explicitAfter (read : List Token) : OperandSet :=
  match architecture with
  | .x86 | .x64 => (X86.stateAfter architecture row read).operands.explicit
  | .arm => (Arm.stateAfter row read).operands.explicit

@[simp] theorem pendingAfter_nil : pendingAfter architecture row [] = ⟨none, false, none⟩ := by
  cases architecture <;> rfl

@[simp] theorem explicitAfter_nil : explicitAfter architecture row [] = ∅ := by
  cases architecture <;> rfl

theorem explicitAfter_concat (read : List Token) (token : Token) :
    explicitAfter architecture row (read ++ [token]) =
      (explicitAfter architecture row read).insertAll
        (namedBy architecture (pendingAfter architecture row read) token) := by
  cases architecture with
  | x86 | x64 =>
      simp only [explicitAfter, X86.stateAfter_concat]
      exact X86.explicit_step _ _ _ (by decide)
  | arm =>
      simp only [explicitAfter, Arm.stateAfter_concat]
      exact Arm.explicit_step _ _ _

theorem captures_of_pendingAfter_concat {read : List Token} {token : Token}
    {expression : List Char}
    (captured : (pendingAfter architecture row (read ++ [token])).captured = some expression) :
    Captures architecture (pendingAfter architecture row read).captured token expression := by
  cases architecture with
  | x86 | x64 =>
      simp only [pendingAfter, X86.stateAfter_concat] at captured
      exact X86.captures_of_step _ _ _ captured
  | arm =>
      simp only [pendingAfter, Arm.stateAfter_concat] at captured
      exact Arm.captures_of_step _ _ _ captured

/-- An operand is named exactly if one of the tokens names it where it stands. -/
theorem mem_explicitAfter_iff {name : Operand} (spelled : name ≠ "") (read : List Token) :
    name ∈ explicitAfter architecture row read ↔
      ∃ earlier token later, read = earlier ++ token :: later ∧
        name ∈ namedBy architecture (pendingAfter architecture row earlier) token := by
  induction read using List.reverseRecOn with
  | nil => simp
  | append_singleton read last ih =>
      rw [explicitAfter_concat, OperandSet.mem_insertAll, ih]
      constructor
      · rintro (⟨named, -⟩ | ⟨earlier, token, later, rfl, named⟩)
        · exact ⟨read, last, [], rfl, named⟩
        · exact ⟨earlier, token, later ++ [last], by simp, named⟩
      · rintro ⟨earlier, token, later, split, named⟩
        cases later using List.reverseRecOn with
        | nil =>
            obtain ⟨rfl, rfl⟩ := List.append_inj' split rfl |>.imp_right List.singleton_inj.mp
            exact .inl ⟨named, spelled⟩
        | append_singleton later final =>
            rw [← List.cons_append, ← List.append_assoc] at split
            exact .inr ⟨earlier, token, later, (List.append_inj' split rfl).1, named⟩

/-- A captured expression starts with a token that can start one and holds no closed bracket. -/
theorem exists_start_of_captured {read : List Token} {expression : List Char}
    (captured : (pendingAfter architecture row read).captured = some expression) :
    ∃ earlier token later, read = earlier ++ token :: later ∧
      StartsExpression architecture token ∧ (∀ other ∈ later, other.delimiter ≠ some ']') ∧
      expression = (token :: later).flatMap Token.text := by
  induction read using List.reverseRecOn generalizing expression with
  | nil => simp at captured
  | append_singleton read last ih =>
      rcases captures_of_pendingAfter_concat architecture row captured with
        ⟨old, found, goesOn, rfl⟩ | ⟨starts, rfl⟩
      · obtain ⟨earlier, token, later, rfl, starts, within, rfl⟩ := ih found
        have stillWithin := List.forall_mem_append.mpr ⟨within, List.forall_mem_singleton.mpr goesOn⟩
        exact ⟨earlier, token, later ++ [last], by simp, starts, stillWithin, by simp⟩
      · exact ⟨read, last, [], rfl, starts, by simp, by simp⟩

/-- A pending range was opened by a dash in a list, and no register has ended it since. -/
theorem exists_dash_of_rangeStart {read : List Token} {first : List Char}
    (opened : (pendingAfter architecture row read).rangeStart = some first) :
    architecture = .arm ∧ ∃ earlier later, read = earlier ++ ⟨first, some '-'⟩ :: later ∧
      (pendingAfter architecture row earlier).inList = true ∧
      ∀ other ∈ later, roleOf architecture other.word = .register →
        other.delimiter = some ']' ∨ other.delimiter = some '-' := by
  cases architecture with
  | x86 | x64 => cases opened
  | arm =>
      refine ⟨rfl, ?_⟩
      induction read using List.reverseRecOn with
      | nil => cases opened
      | append_singleton read last ih =>
          simp only [pendingAfter, Arm.stateAfter_concat] at opened
          rcases Arm.rangeStart_of_step _ _ _ opened with ⟨rfl, inList⟩ | ⟨pending, goesOn⟩
          · exact ⟨read, [], rfl, inList, by simp⟩
          · obtain ⟨earlier, later, rfl, inList, unended⟩ := ih pending
            have stillUnended :=
              List.forall_mem_append.mpr ⟨unended, List.forall_mem_singleton.mpr goesOn⟩
            exact ⟨earlier, later ++ [last], by simp, inList, stillUnended⟩

end

end FaultTriage.Scan
