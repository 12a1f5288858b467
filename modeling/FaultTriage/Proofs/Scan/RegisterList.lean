import FaultTriage.Proofs.Scan.NamedRegisters

/-!
# Register lists of ARM text

A list names registers one by one and in ranges.  Reading it files every register that it names, in
order and on the side on which the list starts, and leaves the reader as it was before the list.
-/

set_option autoImplicit false

namespace FaultTriage.Scan

theorem file_append (shape : OperandShape) (inSource indirect : Bool) (first second : List Operand)
    (operands : Operands) :
    file shape inSource indirect (first ++ second) operands =
      file shape inSource indirect second (file shape inSource indirect first operands) := by
  have joined (set : OperandSet) :
      set.insertAll (first ++ second) = (set.insertAll first).insertAll second :=
    List.foldl_append
  cases inSource with
  | true => simp [file, Operands.addSources, Operands.addExplicit, joined]
  | false =>
      simp only [file, Bool.false_eq_true, if_false]
      repeat' split
      all_goals
        simp_all [Operands.addSources, Operands.addDestinations, Operands.addDestinationPointers,
          Operands.addExplicit]

namespace Arm

open Register

inductive ListItem where
  | single (register : Operand)
  | range (first last : Operand)
deriving DecidableEq

namespace ListItem

def text : ListItem → List Char
  | single register => register.toList
  | range first last => first.toList ++ '-' :: last.toList

def registers : ListItem → List Operand
  | single register => [register]
  | range first last =>
      (coreRegisters.take (coreRegisters.idxOf last + 1)).drop (coreRegisters.idxOf first)

def Valid : ListItem → Prop
  | single register => register ∈ armRegisters
  | range first last =>
      first ∈ coreRegisters ∧ last ∈ coreRegisters ∧
        coreRegisters.idxOf first < coreRegisters.idxOf last

instance : DecidablePred Valid
  | single register => inferInstanceAs (Decidable (register ∈ armRegisters))
  | range _ _ => inferInstanceAs (Decidable (_ ∧ _ ∧ _))

end ListItem

/-- Items with a comma after each but the last one; a space may follow a comma. -/
inductive Joined : List ListItem → List Char → Prop where
  | last (item : ListItem) : Joined [item] item.text
  | comma (item : ListItem) {items : List ListItem} {text : List Char} :
      Joined items text → Joined (item :: items) (item.text ++ ',' :: text)
  | commaSpace (item : ListItem) {items : List ListItem} {text : List Char} :
      Joined items text → Joined (item :: items) (item.text ++ ',' :: ' ' :: text)

def WritesList (items : List ListItem) (text : List Char) : Prop :=
  (∀ item ∈ items, item.Valid) ∧ ∃ body, Joined items body ∧ text = '\x7b' :: (body ++ ['\x7d'])

/-! ## The registers of a range -/

theorem registers_range {first last : Operand} (valid : (ListItem.range first last).Valid) :
    (ListItem.range first last).registers = first :: rangeAfter first last := by
  have checked : ∀ first ∈ coreRegisters, ∀ last ∈ coreRegisters,
      coreRegisters.idxOf first < coreRegisters.idxOf last →
        (coreRegisters.take (coreRegisters.idxOf last + 1)).drop (coreRegisters.idxOf first) =
          first :: rangeAfter first last := by
    decide +kernel
  obtain ⟨firstCore, lastCore, upwards⟩ := valid
  exact checked first firstCore last lastCore upwards

theorem mem_armRegisters_of_core {name : Operand} (core : name ∈ coreRegisters) :
    name ∈ armRegisters :=
  List.mem_append_left _ core

/-! ## Tokens inside a list -/

def State.listing (inSource : Bool) (operandsFound : Nat) (rangeStart : Option (List Char))
    (operands : Operands) : State :=
  ⟨inSource, false, true, operandsFound, none, rangeStart, operands⟩

def State.outside (inSource : Bool) (operandsFound : Nat) (operands : Operands) : State :=
  ⟨inSource, false, false, operandsFound, none, none, operands⟩

section

variable (shape : OperandShape) (inSource : Bool) (operandsFound : Nat) (operands : Operands)

theorem step_openBrace :
    step shape (.outside inSource operandsFound operands) ⟨[], some '\x7b'⟩ =
      .listing inSource operandsFound none operands := rfl

theorem step_space :
    step shape (.listing inSource operandsFound none operands) ⟨[], some ' '⟩ =
      .listing inSource operandsFound none operands := rfl

theorem isRegister_toList {register : Operand} (listed : register ∈ armRegisters) :
    isRegister .arm (String.ofList register.toList) = true := by
  rw [String.ofList_toList]
  exact List.contains_iff_mem.mpr listed

theorem roleOf_toList {register : Operand} (listed : register ∈ armRegisters) :
    roleOf .arm register.toList = .register :=
  roleOf_eq_register_iff.mpr (isRegister_toList listed)

theorem step_dash {register : Operand} (listed : register ∈ armRegisters) :
    step shape (.listing inSource operandsFound none operands) ⟨register.toList, some '-'⟩ =
      .listing inSource operandsFound (some register.toList)
        (file shape inSource false [register] operands) := by
  simp only [step, roleOf_toList listed]
  simp [State.listing, State.cross, named]

def State.afterItem (inSource : Bool) (operandsFound : Nat) (operands : Operands) :
    Char → State
  | '\x7d' => .outside inSource operandsFound operands
  | _ => .listing inSource operandsFound none operands

theorem step_lastWord (rangeStart : Option (List Char)) {register : Operand}
    (listed : register ∈ armRegisters) {delimiter : Char}
    (ends : delimiter = ',' ∨ delimiter = '\x7d') :
    step shape (.listing inSource operandsFound rangeStart operands)
        ⟨register.toList, some delimiter⟩ =
      .afterItem inSource operandsFound
        (file shape inSource false (named rangeStart register.toList) operands) delimiter := by
  simp only [step, roleOf_toList listed]
  obtain rfl | rfl := ends <;> cases rangeStart <;> rfl

/-! ## Items and lists -/

def read (shape : OperandShape) (state : State) (text : List Char) : State :=
  (tokens delimiters.contains text).foldl (step shape) state

theorem read_word_append {register : Operand} (listed : register ∈ armRegisters) {delimiter : Char}
    (delimits : delimiters.contains delimiter = true) (state : State) (rest : List Char) :
    read shape state (register.toList ++ delimiter :: rest) =
      read shape (step shape state ⟨register.toList, some delimiter⟩) rest := by
  have plain : ∀ character ∈ register.toList, delimiters.contains character = false :=
    (isRegisterWord_of_isRegister (isRegister_toList listed)).plain
  rw [read, tokens_word_append plain delimits, List.foldl_cons, read]

theorem read_cons {delimiter : Char} (delimits : delimiters.contains delimiter = true)
    (state : State) (rest : List Char) :
    read shape state (delimiter :: rest) =
      read shape (step shape state ⟨[], some delimiter⟩) rest := by
  rw [read, tokens_cons_delimiter delimits, List.foldl_cons, read]

theorem read_item {item : ListItem} (valid : item.Valid) {delimiter : Char}
    (ends : delimiter = ',' ∨ delimiter = '\x7d') (rest : List Char) :
    read shape (.listing inSource operandsFound none operands) (item.text ++ delimiter :: rest) =
      read shape (.afterItem inSource operandsFound
        (file shape inSource false item.registers operands) delimiter) rest := by
  have delimits : delimiters.contains delimiter = true := by
    obtain rfl | rfl := ends <;> decide
  cases item with
  | single register =>
      have whole : named none register.toList = [register] := by simp [named]
      rw [ListItem.text, read_word_append shape valid delimits,
        step_lastWord shape inSource operandsFound operands none valid ends, whole]
      rfl
  | range first last =>
      have firstListed := mem_armRegisters_of_core valid.1
      have lastListed := mem_armRegisters_of_core valid.2.1
      have added : named (some first.toList) last.toList = rangeAfter first last := by
        simp [named]
      -- The first register is filed before the dash, the others with the last one.
      have filed := file_append shape inSource false [first] (rangeAfter first last) operands
      rw [List.singleton_append, ← registers_range valid] at filed
      rw [ListItem.text, List.append_assoc, List.cons_append,
        read_word_append shape firstListed (by decide),
        step_dash shape inSource operandsFound operands firstListed,
        read_word_append shape lastListed delimits,
        step_lastWord shape inSource operandsFound _ _ lastListed ends, added, filed]

theorem read_items {items : List ListItem} {body : List Char} (joined : Joined items body)
    (valid : ∀ item ∈ items, item.Valid) (rest : List Char) :
    read shape (.listing inSource operandsFound none operands) (body ++ '\x7d' :: rest) =
      read shape (.outside inSource operandsFound
        (file shape inSource false (items.flatMap ListItem.registers) operands)) rest := by
  induction joined generalizing operands with
  | last item =>
      have validItem := valid item List.mem_cons_self
      rw [read_item shape inSource operandsFound operands validItem (.inr rfl),
        List.flatMap_singleton]
      rfl
  | @comma item items text joined ih =>
      have later := ih (file shape inSource false item.registers operands)
        fun other member => valid other (List.mem_cons_of_mem _ member)
      rw [List.append_assoc, List.cons_append,
        read_item shape inSource operandsFound operands (valid item List.mem_cons_self) (.inl rfl)]
      rw [List.flatMap_cons, file_append]
      exact later
  | @commaSpace item items text joined ih =>
      have later := ih (file shape inSource false item.registers operands)
        fun other member => valid other (List.mem_cons_of_mem _ member)
      rw [List.append_assoc, List.cons_append,
        read_item shape inSource operandsFound operands (valid item List.mem_cons_self) (.inl rfl),
        List.cons_append, State.afterItem, read_cons shape (by decide), step_space,
        List.flatMap_cons, file_append]
      · exact later
      · decide

/-- A list files its registers and leaves the reader outside lists, where it was before. -/
theorem read_list {items : List ListItem} {text : List Char} (written : WritesList items text) :
    read shape (.outside inSource operandsFound operands) text =
      .outside inSource operandsFound
        (file shape inSource false (items.flatMap ListItem.registers) operands) := by
  obtain ⟨valid, body, joined, rfl⟩ := written
  rw [read_cons shape (by decide), step_openBrace]
  exact read_items shape inSource operandsFound operands joined valid []

end

theorem readFrom_list (shape : OperandShape) (inSource : Bool) (operands : Operands)
    {items : List ListItem} {text : List Char} (written : WritesList items text) :
    readFrom shape inSource operands text =
      file shape inSource false (items.flatMap ListItem.registers) operands :=
  congrArg State.operands (read_list shape inSource 0 operands written)

theorem operands_list (row : TableRow) (takes : row.shape.isEmpty = false) {items : List ListItem}
    {text : List Char} (written : WritesList items text) :
    Arm.operands row text =
      file row.shape (initialSide row.shape) false (items.flatMap ListItem.registers)
        (implied row) := by
  rw [Arm.operands, if_neg (by simp [takes])]
  exact readFrom_list _ _ _ written

theorem exists_writesList {names : List Operand} (nonempty : names ≠ [])
    (registers : ∀ name ∈ names, name ∈ armRegisters) :
    ∃ items text, WritesList items text ∧ items.flatMap ListItem.registers = names := by
  have joined : ∃ body, Joined (names.map .single) body := by
    induction names with
    | nil => exact absurd rfl nonempty
    | cons name rest ih =>
        cases rest with
        | nil => exact ⟨_, .last (.single name)⟩
        | cons next rest =>
            obtain ⟨body, joined⟩ := ih (List.cons_ne_nil _ _)
              fun other member => registers other (List.mem_cons_of_mem _ member)
            exact ⟨_, .comma (.single name) joined⟩
  obtain ⟨body, joined⟩ := joined
  refine ⟨names.map .single, _, ⟨?_, body, joined, rfl⟩, ?_⟩
  · intro item member
    obtain ⟨name, listed, rfl⟩ := List.mem_map.mp member
    exact registers name listed
  · rw [List.flatMap_map]
    exact List.flatMap_singleton' names

end Arm

end FaultTriage.Scan
