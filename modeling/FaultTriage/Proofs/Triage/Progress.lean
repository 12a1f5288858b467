import FaultTriage.Proofs.Triage.ListingAddress

/-!
# Blocks that stand still

A line whose next address is its own is refused, so that every block moves on.  The next address is
compared with the address of the instruction, from which bit 0 has been cleared on ARM.  A Thumb line
at an odd address therefore passes the check, and a block that starts at such a line stays there up
to its limit; a block never stands still anywhere else.
-/

set_option autoImplicit false

namespace FaultTriage

/-! ## The Thumb bit -/

namespace Disassembly

theorem and_not_eq_self_iff {address mask : Address} :
    address &&& ~~~ mask = address ↔ address &&& mask = 0 := by
  simp only [← UInt64.toBitVec_inj, UInt64.toBitVec_and, UInt64.toBitVec_not,
    UInt64.toBitVec_zero, BitVec.eq_of_getElem_eq_iff, BitVec.getElem_and, BitVec.getElem_not,
    BitVec.getElem_zero]
  refine forall₂_congr fun index _ => ?_
  cases address.toBitVec[index] <;> simp

theorem and_one_eq_zero_iff {address : Address} : address &&& 1 = 0 ↔ address &&& 1 ≠ 1 := by
  have parity : (address &&& 1).toNat = address.toNat % 2 := by
    rw [UInt64.toNat_and]
    exact Nat.and_one_is_mod _
  constructor
  · intro even odd
    cases even.symm.trans odd
  · intro even
    rcases Nat.mod_two_eq_zero_or_one address.toNat with zero | one
    · exact UInt64.toNat_inj.mp (parity.trans zero)
    · have odd : address &&& 1 = 1 := UInt64.toNat_inj.mp (parity.trans one)
      exact absurd odd even

theorem align_eq_self_iff {architecture : Architecture} {address : Address} :
    align architecture address = address ↔ ¬ (architecture = .arm ∧ address &&& 1 = 1) := by
  by_cases arm : architecture = .arm
  · simp only [align, arm, if_true, true_and, and_not_eq_self_iff, and_one_eq_zero_iff]
  · simp [align, arm]

theorem Legible.disassemble_at_own_address {architecture : Architecture} {line : String}
    {fields : Fields} {address : Address} (legible : Legible architecture line fields address)
    (flagsValid : Bool) (flags : ProcessorFlags) :
    FaultTriage.disassemble architecture line (some address) flagsValid flags =
      if architecture = .arm ∧ address &&& 1 = 1 then
        .ok (instructionOn architecture line fields address (some address) flagsValid flags)
      else
        .error (.noProgress address) := by
  rw [legible.disassemble]
  by_cases thumb : architecture = .arm ∧ address &&& 1 = 1
  · -- The next address keeps the bit that the line's own address has lost.
    have moved : some address ≠ some (align architecture address) := by
      intro same
      exact align_eq_self_iff.mp (Option.some.inj same).symm thumb
    rw [if_pos thumb, if_neg moved]
  · rw [if_neg thumb, align_eq_self_iff.mpr thumb, if_pos rfl]

end Disassembly

/-! ## Conditional instructions after a change of the flags -/

namespace Classification

section

variable (architecture : Architecture) (flagsValid : Bool) (flags : ProcessorFlags)
  (root arguments : List Char)

theorem executedKind_ofText_congr (otherValid : Bool) :
    (ofText architecture flagsValid flags root arguments).executedKind =
      (ofText architecture otherValid flags root arguments).executedKind := by
  unfold ofText
  split <;> rfl

theorem flagsModified_ofText :
    (ofText architecture flagsValid flags root arguments).flagsModified =
      modifiesFlags (ofText architecture flagsValid flags root arguments).toEffect := by
  unfold ofText
  split <;> rfl

theorem conditionalKind_eq_or (condition : Condition) (kind : InstructionKind) :
    conditionalKind condition flagsValid flags kind = kind ∨
      conditionalKind condition flagsValid flags kind =
        if flagsValid then .noop else .unpredictable := by
  unfold conditionalKind
  split
  · exact .inl rfl
  · cases flagsValid with
    | false => exact .inr rfl
    | true => cases condition.holds flags <;> simp

theorem kind_applySuffix (suffix : MnemonicSuffix) (effect : Effect) :
    (applySuffix suffix flagsValid flags effect).kind =
      match suffix.condition with
      | none => effect.kind
      | some condition => conditionalKind condition flagsValid flags effect.kind := by
  obtain ⟨setsFlags, condition⟩ := suffix
  cases setsFlags <;> cases condition <;> rfl

/-- The kind is the executed one unless the flags are against it or not known. -/
theorem kind_ofText :
    (ofText architecture flagsValid flags root arguments).kind =
        (ofText architecture flagsValid flags root arguments).executedKind ∨
      (ofText architecture flagsValid flags root arguments).kind =
        if flagsValid then .noop else .unpredictable := by
  unfold ofText
  split
  · exact .inl rfl
  · cases architecture with
    | arm =>
        simp only [kind_applySuffix]
        split
        · exact .inl rfl
        · exact conditionalKind_eq_or ..
    | x86 => exact .inl rfl
    | x64 => exact .inl rfl

end

end Classification

namespace Instruction

theorem endsBlock_eq_terminatesBlock {instruction : Instruction}
    (decided : instruction.kind = instruction.executedKind ∨ instruction.kind = .unpredictable) :
    instruction.endsBlock = instruction.executedKind.terminatesBlock := by
  rcases decided with executed | unpredictable
  · rw [endsBlock, executed]
    cases instruction.executedKind <;> rfl
  · rw [endsBlock, unpredictable]

/-- An instruction that executed and made the flags invalid ends the block no sooner without them. -/
theorem endsBlock_classify_of_flagsModified {architecture : Architecture} {flags : ProcessorFlags}
    {line : Line} {address : Address} {nextAddress : Option Address}
    (modified : ((ofLine line address nextAddress true).classify architecture
      flags).flagsModified = true) :
    ((ofLine line address nextAddress false).classify architecture flags).endsBlock =
      ((ofLine line address nextAddress true).classify architecture flags).endsBlock := by
  have executed : ((ofLine line address nextAddress true).classify architecture flags).kind =
      ((ofLine line address nextAddress true).classify architecture flags).executedKind := by
    rcases Classification.kind_ofText architecture true flags line.rootMnemonic line.arguments
      with executed | noop
    · exact executed
    · have unmodified := Classification.flagsModified_ofText architecture true flags
        line.rootMnemonic line.arguments
      rw [Classification.modifiesFlags, noop] at unmodified
      cases unmodified.symm.trans modified
  rw [endsBlock_eq_terminatesBlock (.inl executed), endsBlock_eq_terminatesBlock
    (Classification.kind_ofText architecture false flags line.rootMnemonic line.arguments)]
  exact congrArg _ (Classification.executedKind_ofText_congr ..)

end Instruction

/-! ## A line that leads to itself -/

namespace Block

open Disassembly

theorem endsBlock_flagsAfter (architecture : Architecture) (line : String) (fields : Fields)
    (written : Address) (nextAddress : Option Address) (flagsValid : Bool)
    (flags : ProcessorFlags) :
    (instructionOn architecture line fields written nextAddress
        (flagsAfter flagsValid
          (instructionOn architecture line fields written nextAddress flagsValid flags))
        flags).endsBlock =
      (instructionOn architecture line fields written nextAddress flagsValid flags).endsBlock := by
  cases flagsValid with
  | false => rfl
  | true =>
      cases modified : (instructionOn architecture line fields written nextAddress true
          flags).flagsModified with
      | false => simp [flagsAfter, modified]
      | true =>
          simp only [flagsAfter, modified]
          exact Instruction.endsBlock_classify_of_flagsModified modified

theorem exists_isBlock_standing {host : Host} {line : String} {fields : Fields}
    {address : Address} (fetched : host.fetch address = .ok ⟨line, some address⟩)
    (legible : Legible host.architecture line fields address)
    (thumb : host.architecture = .arm ∧ address &&& 1 = 1) {flagsValid : Bool}
    (goesOn : (instructionOn host.architecture line fields address (some address) flagsValid
      host.flags).endsBlock = false) (limit : Nat) :
    ∃ block, IsBlock host flagsValid limit address block ∧ block.length = limit ∧
      ∀ instruction ∈ block, instruction.nextAddress = some address := by
  induction limit generalizing flagsValid with
  | zero => exact ⟨[], isBlock_nil_iff.mpr rfl, rfl, by simp⟩
  | succ limit ih =>
      obtain ⟨rest, tail, full, standing⟩ := ih (by rwa [endsBlock_flagsAfter])
      have shown : Shows host flagsValid address (instructionOn host.architecture line fields
          address (some address) flagsValid host.flags) := by
        refine ⟨_, fetched, ?_⟩
        rw [legible.disassemble_at_own_address, if_pos thumb]
      refine ⟨_ :: rest, tail.cons shown (successor?_eq_some_iff.mpr ⟨goesOn, rfl⟩), ?_, ?_⟩
      · rw [List.length_cons, full]
      · intro instruction member
        rcases List.mem_cons.mp member with rfl | member
        · rfl
        · exact standing instruction member

theorem fetchedFrom?_of_standing {address : Address} {block : List Instruction}
    (standing : ∀ instruction ∈ block, instruction.nextAddress = some address) {index : Nat}
    (bounded : index ≤ block.length) : fetchedFrom? address block index = some address := by
  cases index with
  | zero => rfl
  | succ index =>
      rw [fetchedFrom?, List.getElem?_eq_getElem bounded]
      exact standing _ (List.getElem_mem bounded)

/-! ## Blocks of a listing -/

/--
A line that leads to its own address is refused unless that is an odd address on ARM, where it is an
instruction like any other.  So a block stands still at odd ARM addresses only; and there it does, up
to the limit, from every such line that does not end the block.
-/
theorem stands_still_exactly_at_thumb_addresses {text : String} {listing : Listing}
    (parsed : Listing.parse text = .ok listing) (architecture : Architecture)
    (flags : ProcessorFlags) :
    (∀ address line, (address, line) ∈ listing.lines → ∀ flagsValid instruction,
      disassemble architecture line none flagsValid flags = .ok instruction →
        disassemble architecture line (some address) flagsValid flags =
          if architecture = .arm ∧ address &&& 1 = 1 then
            .ok { instruction with nextAddress := some address }
          else
            .error (.noProgress address)) ∧
    (∀ limit start block, build (listing.toHost architecture flags) limit start = .ok block →
      ∀ index address, fetchedFrom? start block index = some address →
        fetchedFrom? start block (index + 1) = some address →
          architecture = .arm ∧ address &&& 1 = 1) ∧
    ∀ address line instruction, architecture = .arm → address &&& 1 = 1 →
      listing.fetch address = .ok ⟨line, some address⟩ →
        disassemble architecture line none flags.valid flags = .ok instruction →
          instruction.endsBlock = false → ∀ limit, ∃ block,
            build (listing.toHost architecture flags) limit address = .ok block ∧
              block.length = limit ∧
                ∀ index ≤ limit, fetchedFrom? address block index = some address := by
  have announced := Listing.announced_of_parse parsed
  refine ⟨?_, ?_, ?_⟩
  · intro address line member flagsValid instruction read
    obtain ⟨fields, written, legible, _, rfl⟩ := exists_legible_of_disassemble read
    obtain rfl := legible.written_eq (announced (address, line) member)
    exact legible.disassemble_at_own_address flagsValid flags
  · intro limit start block built index address origin repeated
    obtain ⟨instruction, located, next⟩ := Option.bind_eq_some_iff.mp repeated
    obtain ⟨valid, shownAt, sameOrigin, ⟨line, nextAddress⟩, fetched, read⟩ :=
      (build_eq_ok_iff.mp built).shows located
    cases sameOrigin.symm.trans origin
    cases (nextAddress_of_disassemble read).symm.trans next
    obtain ⟨fields, written, legible, _, _⟩ := exists_legible_of_disassemble read
    obtain rfl := legible.written_eq (announced (address, line) (Listing.mem_of_fetch fetched))
    by_contra ordinary
    cases read.symm.trans ((legible.disassemble_at_own_address valid flags).trans
      (if_neg ordinary))
  · intro address line instruction arm odd fetched read goesOn limit
    obtain ⟨fields, written, legible, _, rfl⟩ := exists_legible_of_disassemble read
    obtain rfl := legible.written_eq (announced (address, line) (Listing.mem_of_fetch fetched))
    obtain ⟨block, isBlock, full, standing⟩ := @exists_isBlock_standing
      (listing.toHost architecture flags) line fields written fetched legible ⟨arm, odd⟩
      flags.valid goesOn limit
    refine ⟨block, build_eq_ok_iff.mpr isBlock, full, ?_⟩
    intro index bounded
    exact fetchedFrom?_of_standing standing (full ▸ bounded)

def repeatedText : String :=
  "00001001 4608 mov r0,r1\n00001001 4608 mov r0,r1\n"

def repeatedListing : Listing :=
  ⟨[(0x1001, "00001001 4608 mov r0,r1"), (0x1001, "00001001 4608 mov r0,r1")], []⟩

theorem repeatedListing_followed_on_arm_only :
    Listing.parse repeatedText = .ok repeatedListing ∧
      (∃ block, build (repeatedListing.toHost .arm .unknown) 256 0x1001 = .ok block ∧
        block.length = 256 ∧ ∀ index ≤ 256, fetchedFrom? 0x1001 block index = some 0x1001) ∧
      disassemble .x64 "00001001 4608 mov r0,r1" (some 0x1001) false .unknown =
        .error (.noProgress 0x1001) := by
  have parsed : Listing.parse repeatedText = .ok repeatedListing := rfl
  have onArm : (disassemble .arm "00001001 4608 mov r0,r1" none false .unknown).toOption.map
      (·.endsBlock) = some false := by decide +kernel
  have onX64 : (disassemble .x64 "00001001 4608 mov r0,r1" none false .unknown).toOption.map
      (·.endsBlock) = some false := by decide +kernel
  obtain ⟨armInstruction, armRead, goesOn⟩ := exists_eq_ok_of_toOption onArm
  obtain ⟨x64Instruction, x64Read, _⟩ := exists_eq_ok_of_toOption onX64
  refine ⟨parsed, ?_, ?_⟩
  · exact (stands_still_exactly_at_thumb_addresses parsed .arm .unknown).2.2 0x1001
      "00001001 4608 mov r0,r1" armInstruction rfl rfl rfl armRead goesOn 256
  · exact (stands_still_exactly_at_thumb_addresses parsed .x64 .unknown).1 0x1001
      "00001001 4608 mov r0,r1" List.mem_cons_self false x64Instruction x64Read

theorem repeatedListing_stands_still :
    Listing.parse repeatedText = .ok repeatedListing ∧
      ¬ ∀ block index address,
        build (repeatedListing.toHost .arm .unknown) 3 0x1001 = .ok block →
          index + 1 < block.length → fetchedFrom? 0x1001 block index = some address →
            fetchedFrom? 0x1001 block (index + 1) ≠ some address := by
  refine ⟨rfl, ?_⟩
  intro moves
  have shape : (build (repeatedListing.toHost .arm .unknown) 3 0x1001).toOption.map
      (·.map (·.nextAddress)) = some [some 0x1001, some 0x1001, some 0x1001] := by decide +kernel
  obtain ⟨block, built, nexts⟩ := exists_eq_ok_of_toOption shape
  obtain ⟨first, rest, rfl, follows, nexts⟩ := List.map_eq_cons_iff.mp nexts
  obtain ⟨second, rest, rfl, _⟩ := List.map_eq_cons_iff.mp nexts
  exact moves _ 0 0x1001 built (by simp) rfl follows

end Block

end FaultTriage
