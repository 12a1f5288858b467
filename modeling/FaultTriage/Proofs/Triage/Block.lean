import FaultTriage.Triage.Block

/-!
# Blocks are exactly what a host shows

A block is said position by position: which address an instruction is shown at, which flags it is
read with, where a block may end and where it must.  Nothing is asked of the host; its next addresses
may go backwards or around in a circle.  One block at most fits this description, and it is the block
that is built.
-/

set_option autoImplicit false

namespace FaultTriage

theorem nextAddress_of_disassemble {architecture : Architecture} {text : String}
    {nextAddress : Option Address} {flagsValid : Bool} {flags : ProcessorFlags}
    {instruction : Instruction}
    (read : disassemble architecture text nextAddress flagsValid flags = .ok instruction) :
    instruction.nextAddress = nextAddress := by
  simp only [disassemble] at read
  repeat' split at read
  all_goals cases read
  rfl

namespace Block

/-! ## The description -/

def addressAfter? (host : Host) : Nat → Address → Option Address
  | 0, address => some address
  | count + 1, address =>
      match host.fetch address with
      | .ok ⟨_, some next⟩ => addressAfter? host count next
      | _ => none

/-- Whether the flags are valid before an instruction of a block at the start of which they may be. -/
def flagsValidBefore (flagsValid : Bool) (block : List Instruction) (index : Nat) : Bool :=
  flagsValid && (block.take index).all fun instruction => !instruction.flagsModified

def Shows (host : Host) (flagsValid : Bool) (address : Address) (instruction : Instruction) :
    Prop :=
  ∃ line, host.fetch address = .ok line ∧
    disassemble host.architecture line.text line.nextAddress flagsValid host.flags = .ok instruction

inductive FailsWith (host : Host) (flagsValid : Bool) (address : Address) : BlockError → Prop where
  | fetch {error : HostError} : host.fetch address = .error error →
      FailsWith host flagsValid address (.host error)
  | line {line : FetchedLine} {error : DisassemblyError} : host.fetch address = .ok line →
      disassemble host.architecture line.text line.nextAddress flagsValid host.flags =
        .error error →
      FailsWith host flagsValid address (.disassembly address error)

/-- A block of at most `limit` instructions from an address on, which could not be longer. -/
structure IsBlock (host : Host) (flagsValid : Bool) (limit : Nat) (start : Address)
    (block : List Instruction) : Prop where
  bounded : block.length ≤ limit
  shown : ∀ index instruction, block[index]? = some instruction →
    ∃ address, addressAfter? host index start = some address ∧
      Shows host (flagsValidBefore flagsValid block index) address instruction
  /-- Only the last instruction may end the block or have nothing after it. -/
  unbroken : ∀ index instruction, block[index]? = some instruction → index + 1 < block.length →
    instruction.endsBlock = false ∧ instruction.nextAddress ≠ none
  /-- The block ends at the limit, or where there is nothing to go on with. -/
  maximal : block.length = limit ∨ ∃ last, block.getLast? = some last ∧
    (last.endsBlock = true ∨ last.nextAddress = none ∨
      ∃ address error, last.nextAddress = some address ∧
        FailsWith host (flagsValidBefore flagsValid block block.length) address error)

/-! ## One instruction -/

theorem instructionAt_eq_ok_iff {host : Host} {flagsValid : Bool} {address : Address}
    {instruction : Instruction} :
    instructionAt host flagsValid address = .ok instruction ↔
      Shows host flagsValid address instruction := by
  constructor
  · intro shown
    unfold instructionAt at shown
    cases fetched : host.fetch address with
    | error cause =>
        simp only [fetched] at shown
        cases shown
    | ok line =>
        simp only [fetched] at shown
        cases read : disassemble host.architecture line.text line.nextAddress flagsValid
            host.flags with
        | error cause =>
            rw [read] at shown
            cases shown
        | ok found =>
            rw [read] at shown
            cases shown
            exact ⟨line, fetched, read⟩
  · rintro ⟨line, fetched, read⟩
    simp only [instructionAt, fetched, read]
    rfl

theorem instructionAt_eq_error_iff {host : Host} {flagsValid : Bool} {address : Address}
    {error : BlockError} :
    instructionAt host flagsValid address = .error error ↔
      FailsWith host flagsValid address error := by
  constructor
  · intro failed
    unfold instructionAt at failed
    cases fetched : host.fetch address with
    | error cause =>
        simp only [fetched] at failed
        cases failed
        exact .fetch fetched
    | ok line =>
        simp only [fetched] at failed
        cases read : disassemble host.architecture line.text line.nextAddress flagsValid
            host.flags with
        | error cause =>
            rw [read] at failed
            cases failed
            exact .line fetched read
        | ok instruction =>
            rw [read] at failed
            cases failed
  · rintro (fetched | ⟨fetched, unread⟩)
    · simp [instructionAt, fetched]
    · simp only [instructionAt, fetched, unread]
      rfl

theorem successor?_eq_some_iff {instruction : Instruction} {next : Address} :
    successor? instruction = some next ↔
      instruction.endsBlock = false ∧ instruction.nextAddress = some next := by
  cases ends : instruction.endsBlock <;> simp [successor?, ends]

theorem Shows.addressAfter?_succ {host : Host} {flagsValid : Bool} {address next : Address}
    {instruction : Instruction} (isShown : Shows host flagsValid address instruction)
    (goesOn : instruction.nextAddress = some next) (count : Nat) :
    addressAfter? host (count + 1) address = addressAfter? host count next := by
  obtain ⟨⟨text, nextAddress⟩, fetched, read⟩ := isShown
  cases (nextAddress_of_disassemble read).symm.trans goesOn
  simp [addressAfter?, fetched]

@[simp] theorem flagsValidBefore_zero (flagsValid : Bool) (block : List Instruction) :
    flagsValidBefore flagsValid block 0 = flagsValid := by
  simp [flagsValidBefore]

@[simp] theorem flagsValidBefore_succ (flagsValid : Bool) (first : Instruction)
    (rest : List Instruction) (index : Nat) :
    flagsValidBefore flagsValid (first :: rest) (index + 1) =
      flagsValidBefore (flagsAfter flagsValid first) rest index := by
  simp [flagsValidBefore, flagsAfter, Bool.and_assoc]

/-! ## Blocks by their first instruction -/

section

variable {host : Host} {flagsValid : Bool} {limit : Nat} {start next : Address}
  {first : Instruction} {rest : List Instruction}

theorem isBlock_nil_iff : IsBlock host flagsValid limit start [] ↔ limit = 0 := by
  constructor
  · intro isBlock
    rcases isBlock.maximal with full | ⟨last, found, _⟩
    · exact full.symm
    · cases found
  · rintro rfl
    exact ⟨Nat.le_refl 0, by simp, by simp, .inl rfl⟩

theorem isBlock_singleton (isShown : Shows host flagsValid start first)
    (ends : first.endsBlock = true ∨ first.nextAddress = none ∨
      ∃ address error, first.nextAddress = some address ∧
        FailsWith host (flagsAfter flagsValid first) address error) :
    IsBlock host flagsValid (limit + 1) start [first] where
  bounded := by simp
  shown := by
    intro index instruction located
    cases index with
    | zero =>
        cases located
        exact ⟨start, rfl, by simpa using isShown⟩
    | succ index => simp at located
  unbroken := by
    intro index instruction _ earlier
    simp at earlier
  maximal := .inr ⟨first, rfl, by simpa using ends⟩

theorem IsBlock.cons (isShown : Shows host flagsValid start first)
    (follows : successor? first = some next)
    (tail : IsBlock host (flagsAfter flagsValid first) limit next rest) :
    IsBlock host flagsValid (limit + 1) start (first :: rest) := by
  obtain ⟨notEnds, goesOn⟩ := successor?_eq_some_iff.mp follows
  constructor
  case bounded => simpa using tail.bounded
  case shown =>
    intro index instruction located
    cases index with
    | zero =>
        cases located
        exact ⟨start, rfl, by simpa using isShown⟩
    | succ index =>
        obtain ⟨address, reached, shown⟩ := tail.shown index instruction located
        exact ⟨address, (isShown.addressAfter?_succ goesOn index).trans reached, by
          simpa using shown⟩
  case unbroken =>
    intro index instruction located earlier
    cases index with
    | zero =>
        cases located
        exact ⟨notEnds, by simp [goesOn]⟩
    | succ index => exact tail.unbroken index instruction located (by simpa using earlier)
  case maximal =>
    rcases tail.maximal with full | ⟨last, found, ends⟩
    · exact .inl (by simp [full])
    · exact .inr ⟨last, by simp [List.getLast?_cons, found], by simpa using ends⟩

theorem IsBlock.shows_first (isBlock : IsBlock host flagsValid limit start (first :: rest)) :
    Shows host flagsValid start first := by
  obtain ⟨address, reached, shown⟩ := isBlock.shown 0 first rfl
  cases reached
  simpa using shown

theorem IsBlock.tail (isBlock : IsBlock host flagsValid (limit + 1) start (first :: rest))
    (more : rest ≠ []) :
    ∃ next, successor? first = some next ∧
      IsBlock host (flagsAfter flagsValid first) limit next rest := by
  have isShown := isBlock.shows_first
  obtain ⟨notEnds, goesOn⟩ := isBlock.unbroken 0 first rfl (by
    simpa using List.length_pos_iff.mpr more)
  obtain ⟨next, goesOn⟩ := Option.ne_none_iff_exists'.mp goesOn
  refine ⟨next, successor?_eq_some_iff.mpr ⟨notEnds, goesOn⟩, ?_⟩
  constructor
  case bounded => simpa using isBlock.bounded
  case shown =>
    intro index instruction located
    obtain ⟨address, reached, shown⟩ := isBlock.shown (index + 1) instruction located
    exact ⟨address, (isShown.addressAfter?_succ goesOn index).symm.trans reached, by
      simpa using shown⟩
  case unbroken =>
    intro index instruction located earlier
    exact isBlock.unbroken (index + 1) instruction located (by simpa using earlier)
  case maximal =>
    rcases isBlock.maximal with full | ⟨last, found, ends⟩
    · exact .inl (by simpa using full)
    · refine .inr ⟨last, ?_, by simpa using ends⟩
      rwa [List.getLast?_cons_of_ne_nil more] at found

theorem isBlock_cons_iff :
    IsBlock host flagsValid (limit + 1) start (first :: rest) ↔
      Shows host flagsValid start first ∧
        ((successor? first = none ∧ rest = []) ∨
          ∃ next, successor? first = some next ∧
            (IsBlock host (flagsAfter flagsValid first) limit next rest ∨
              rest = [] ∧ ∃ error, FailsWith host (flagsAfter flagsValid first) next error)) := by
  constructor
  · intro isBlock
    refine ⟨isBlock.shows_first, ?_⟩
    by_cases more : rest = []
    · subst more
      cases follows : successor? first with
      | none => exact .inl ⟨rfl, rfl⟩
      | some next =>
          obtain ⟨notEnds, goesOn⟩ := successor?_eq_some_iff.mp follows
          refine .inr ⟨next, rfl, ?_⟩
          rcases isBlock.maximal with full | ⟨last, found, ends⟩
          · exact .inl (isBlock_nil_iff.mpr (by simpa using full.symm))
          · obtain rfl : first = last := by simpa using found
            rw [notEnds, goesOn] at ends
            rcases ends with impossible | impossible | ⟨_, error, ⟨⟩, failed⟩
            · cases impossible
            · cases impossible
            · exact .inr ⟨rfl, error, by simpa using failed⟩
    · obtain ⟨next, follows, tail⟩ := isBlock.tail more
      exact .inr ⟨next, follows, .inl tail⟩
  · rintro ⟨isShown, ⟨follows, rfl⟩ | ⟨next, follows, tail | ⟨rfl, error, failed⟩⟩⟩
    · refine isBlock_singleton isShown ?_
      cases ends : first.endsBlock with
      | true => exact .inl rfl
      | false => exact .inr (.inl (by simpa [successor?, ends] using follows))
    · exact tail.cons isShown follows
    · obtain ⟨_, goesOn⟩ := successor?_eq_some_iff.mp follows
      exact isBlock_singleton isShown (.inr (.inr ⟨next, error, goesOn, failed⟩))

end

/-! ## Building -/

theorem Shows.not_failsWith {host : Host} {flagsValid : Bool} {address : Address}
    {instruction : Instruction} (isShown : Shows host flagsValid address instruction)
    (error : BlockError) : ¬ FailsWith host flagsValid address error := by
  intro failed
  cases (instructionAt_eq_ok_iff.mpr isShown).symm.trans (instructionAt_eq_error_iff.mpr failed)

theorem extend_none (host : Host) (limit : Nat) (flagsValid : Bool) :
    extend host limit flagsValid none = [] := by
  cases limit <;> rfl

/-- A block is extended from a later address on unless the host shows no instruction there. -/
theorem extend_eq_iff (host : Host) (limit : Nat) (flagsValid : Bool) (address : Address)
    (block : List Instruction) :
    extend host limit flagsValid (some address) = block ↔
      IsBlock host flagsValid limit address block ∨
        block = [] ∧ ∃ error, FailsWith host flagsValid address error := by
  induction limit generalizing flagsValid address block with
  | zero =>
      cases block with
      | nil => simp [extend, isBlock_nil_iff]
      | cons first rest =>
          refine iff_of_false (by simp [extend]) ?_
          rintro (isBlock | ⟨⟨⟩, _⟩)
          simpa using isBlock.bounded
  | succ limit ih =>
      cases shown : instructionAt host flagsValid address with
      | error error =>
          have failed := instructionAt_eq_error_iff.mp shown
          simp only [extend, shown]
          constructor
          · rintro rfl
            exact .inr ⟨rfl, error, failed⟩
          · rintro (isBlock | ⟨rfl, _⟩)
            · cases block with
              | nil => rfl
              | cons first rest => exact absurd failed (isBlock.shows_first.not_failsWith error)
            · rfl
      | ok instruction =>
          have isShown := instructionAt_eq_ok_iff.mp shown
          simp only [extend, shown]
          cases block with
          | nil =>
              refine iff_of_false (by simp) ?_
              rintro (isBlock | ⟨_, error, failed⟩)
              · cases isBlock_nil_iff.mp isBlock
              · exact isShown.not_failsWith error failed
          | cons first rest =>
              have same : Shows host flagsValid address first ↔ instruction = first := by
                rw [← instructionAt_eq_ok_iff, shown, Except.ok.injEq]
              rw [List.cons.injEq, isBlock_cons_iff, same]
              simp only [reduceCtorEq, false_and, or_false]
              refine and_congr_right ?_
              rintro rfl
              cases follows : successor? instruction with
              | none => simp [extend_none, eq_comm]
              | some next => simp [ih]

theorem build_eq_error_iff {host : Host} {limit : Nat} {start : Address} {error : BlockError} :
    build host limit start = .error error ↔
      1 ≤ limit ∧ FailsWith host host.flags.valid start error := by
  cases limit with
  | zero => simp [build]
  | succ limit =>
      rw [← instructionAt_eq_error_iff, build]
      cases instructionAt host host.flags.valid start <;> simp [Except.map]

/-- Where the first instruction is shown, the block is what an empty one is extended to. -/
theorem extend_of_build {host : Host} {limit : Nat} {start : Address} {block : List Instruction}
    (built : build host limit start = .ok block) :
    extend host limit host.flags.valid (some start) = block := by
  cases limit with
  | zero =>
      cases built
      rfl
  | succ limit =>
      rw [build] at built
      cases shown : instructionAt host host.flags.valid start with
      | error error =>
          rw [shown] at built
          cases built
      | ok instruction =>
          rw [shown] at built
          cases built
          simp [extend, shown]

theorem build_eq_ok_iff {host : Host} {limit : Nat} {start : Address} {block : List Instruction} :
    build host limit start = .ok block ↔ IsBlock host host.flags.valid limit start block := by
  have extended := extend_eq_iff host limit host.flags.valid start block
  constructor
  · intro built
    rcases extended.mp (extend_of_build built) with isBlock | ⟨rfl, error, failed⟩
    · exact isBlock
    · -- A failure that is no error can only be one that nobody asked for.
      refine isBlock_nil_iff.mpr (Nat.eq_zero_of_not_pos fun positive => ?_)
      cases built.symm.trans (build_eq_error_iff.mpr ⟨positive, failed⟩)
  · intro isBlock
    cases built : build host limit start with
    | ok result => rw [← extend_of_build built, extended.mpr (.inl isBlock)]
    | error error =>
        obtain ⟨positive, failed⟩ := build_eq_error_iff.mp built
        cases block with
        | nil =>
            cases isBlock_nil_iff.mp isBlock
            cases positive
        | cons first rest => exact absurd failed (isBlock.shows_first.not_failsWith error)

/--
Building fails exactly if a block is wanted and the host shows no first instruction, for the reason
that it has none to show.  Otherwise it gives the one block that there is.
-/
theorem build_exact (host : Host) (limit : Nat) (start : Address) :
    (∀ error, build host limit start = .error error ↔
      1 ≤ limit ∧ FailsWith host host.flags.valid start error) ∧
    ∀ block, build host limit start = .ok block ↔
      IsBlock host host.flags.valid limit start block :=
  ⟨fun _ => build_eq_error_iff, fun _ => build_eq_ok_iff⟩

end Block

end FaultTriage
