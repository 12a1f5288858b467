import FaultTriage.Proofs.Address
import FaultTriage.Proofs.Text.FirstWord
import FaultTriage.Proofs.Triage.Block
import FaultTriage.Triage.Listing

/-!
# A listing and its instructions have the same addresses

A listing takes the address of a line from its first word, with every Unicode blank around it; an
instruction takes it again from a field between ASCII blanks of the line in lowercase.  Wherever both
find an address, they find the same one: a blank that only one of them knows would end up in the
field, where no address could be read.
-/

set_option autoImplicit false

namespace FaultTriage

namespace Disassembly

/-! ## Lines in lowercase -/

def withoutTab (character : Char) : Char :=
  if character = '\t' then ' ' else character

theorem isBlank_withoutTab (character : Char) :
    Text.isBlank (withoutTab character) = Text.isBlank character := by
  unfold withoutTab
  split
  · next tab => rw [tab]; rfl
  · rfl

theorem isAsciiBlank_withoutTab (character : Char) :
    Text.isAsciiBlank (withoutTab character) = Text.isAsciiBlank character := by
  unfold withoutTab
  split
  · next tab => rw [tab]; rfl
  · rfl

theorem withoutTab_of_not_isBlank {character : Char} (solid : Text.isBlank character = false) :
    withoutTab character = character := by
  refine if_neg ?_
  rintro rfl
  cases solid

theorem map_withoutTab_eq_self_iff {characters : List Char} :
    characters.map withoutTab = characters ↔ '\t' ∉ characters := by
  constructor
  · intro same tab
    rw [← same] at tab
    obtain ⟨origin, _, isTab⟩ := List.mem_map.mp tab
    unfold withoutTab at isTab
    split at isTab
    · cases isTab
    · next other => exact other isTab
  · intro tabless
    refine (List.map_congr_left fun character member => ?_).trans (List.map_id _)
    refine if_neg ?_
    rintro rfl
    exact tabless member

theorem map_withoutTab_of_solid {word : List Char}
    (solid : ∀ character ∈ word, Text.isBlank character = false) : word.map withoutTab = word := by
  refine map_withoutTab_eq_self_iff.mpr fun tab => ?_
  cases solid '\t' tab

theorem normalize_append {left : List Char}
    (plain : ∀ character ∈ left, character.toNat < 0x80 ∨ Text.isBlank character = true)
    (right : List Char) :
    normalize (left ++ right) =
      (Text.asciiLowercase left).map withoutTab ++
        (Text.Lowercase.loweredFrom left.reverse right).map withoutTab := by
  rw [normalize, Text.lowercase, Text.Lowercase.loweredFrom_append plain, List.append_nil]
  exact List.map_append

theorem isBlank_head?_lowered {before characters : List Char}
    (blank : ∀ character ∈ characters.head?, Text.isBlank character = true) :
    ∀ character ∈ ((Text.Lowercase.loweredFrom before characters).map withoutTab).head?,
      Text.isBlank character = true := by
  cases characters with
  | nil => simp [Text.Lowercase.loweredFrom]
  | cons first rest =>
      have blankFirst := blank first rfl
      rw [Text.Lowercase.loweredFrom, Text.Lowercase.lowered_of_plain (.inr blankFirst),
        Text.asciiLower_of_isBlank blankFirst]
      rintro character ⟨⟩
      exact (isBlank_withoutTab first).trans blankFirst

theorem firstWord_normalize {line : List Char} (nonempty : Text.firstWord line ≠ [])
    (ascii : ∀ character ∈ Text.firstWord line, character.toNat < 0x80) :
    Text.firstWord (normalize line) = Text.asciiLowercase (Text.firstWord line) := by
  obtain ⟨before, after, parts, blanks, solid, ends⟩ := Text.exists_firstWord_append line
  generalize Text.firstWord line = word at nonempty ascii parts solid ⊢
  subst parts
  have plain : ∀ character ∈ before ++ word,
      character.toNat < 0x80 ∨ Text.isBlank character = true := by
    intro character member
    rcases List.mem_append.mp member with member | member
    · exact .inr (blanks character member)
    · exact .inl (ascii character member)
  have solidLower : ∀ character ∈ Text.asciiLowercase word, Text.isBlank character = false := by
    intro character member
    obtain ⟨origin, inWord, rfl⟩ := List.mem_map.mp member
    rw [Text.isBlank_asciiLower, solid origin inWord]
  have split : normalize (before ++ (word ++ after)) =
      (Text.asciiLowercase before).map withoutTab ++ (Text.asciiLowercase word ++
        (Text.Lowercase.loweredFrom (before ++ word).reverse after).map withoutTab) := by
    rw [← List.append_assoc, normalize_append plain, Text.asciiLowercase, List.map_append,
      List.map_append, List.append_assoc]
    exact congrArg _ (congrArg (· ++ _) (map_withoutTab_of_solid solidLower))
  rw [split]
  refine Text.firstWord_append ?_ ?_ solidLower (isBlank_head?_lowered ends)
  · intro character member
    obtain ⟨lowered, inLowered, rfl⟩ := List.mem_map.mp member
    obtain ⟨origin, inBefore, rfl⟩ := List.mem_map.mp inLowered
    rw [isBlank_withoutTab, Text.isBlank_asciiLower, blanks origin inBefore]
  · simpa [Text.asciiLowercase] using nonempty

/-! ## The address field -/

theorem readField_nil (soFar characters : List Char) :
    Fields.readField [] false soFar characters =
      (soFar ++ characters.takeWhile (!Text.isAsciiBlank ·),
        characters.dropWhile (!Text.isAsciiBlank ·)) := by
  induction characters generalizing soFar with
  | nil => simp [Fields.readField]
  | cons character rest ih =>
      cases blank : Text.isAsciiBlank character with
      | true => simp [Fields.readField, blank]
      | false => simp [Fields.readField, blank, ih]

theorem address_of_split? {attached : List (List Char)} {text : List Char} {fields : Fields}
    (found : Fields.split? attached text = some fields) :
    fields.address ≠ [] ∧ fields.address =
      ((Text.trimEnd text).dropWhile Text.isAsciiBlank).takeWhile (!Text.isAsciiBlank ·) := by
  simp only [Fields.split?, Fields.next, readField_nil, List.nil_append] at found
  split at found
  · cases found
  · next present =>
      cases found
      refine ⟨?_, rfl⟩
      simp only [ne_eq]
      intro missing
      simp [missing] at present

theorem address_eq_firstWord {attached : List (List Char)} {text : List Char} {fields : Fields}
    (found : Fields.split? attached text = some fields)
    (solid : ∀ character ∈ fields.address, Text.isBlank character = false) :
    fields.address = Text.firstWord text := by
  obtain ⟨nonempty, address⟩ := address_of_split? found
  rw [address] at nonempty solid ⊢
  obtain ⟨trailing, parts, blanks⟩ := Text.exists_trimEnd_append text
  generalize Text.trimEnd text = line at parts nonempty solid ⊢
  generalize rest_eq : line.dropWhile Text.isAsciiBlank = rest at nonempty solid ⊢
  have whole : text = line.takeWhile Text.isAsciiBlank ++
      (rest.takeWhile (!Text.isAsciiBlank ·) ++
        (rest.dropWhile (!Text.isAsciiBlank ·) ++ trailing)) := by
    rw [← List.append_assoc (rest.takeWhile _), List.takeWhile_append_dropWhile, ← rest_eq,
      ← List.append_assoc, List.takeWhile_append_dropWhile, parts]
  rw [whole, Text.firstWord_append ?_ nonempty solid ?_]
  · intro character member
    exact Text.isBlank_of_isAsciiBlank (List.mem_takeWhile_imp member)
  · intro character member
    have stopped := List.head?_dropWhile_not (!Text.isAsciiBlank ·) rest
    cases tail : rest.dropWhile (!Text.isAsciiBlank ·) with
    | nil =>
        rw [tail] at member
        exact blanks character (List.mem_of_mem_head? member)
    | cons first others =>
        rw [tail] at member stopped
        cases member
        exact Text.isBlank_of_isAsciiBlank (by simpa using stopped)

/-! ## Reading a line -/

/-- The line passes every check that does not depend on the address of the next one. -/
structure Legible (architecture : Architecture) (line : String) (fields : Fields)
    (written : Address) : Prop where
  decoded : Text.containsRun refusal (normalize line.toList) = false
  split : Fields.split? ((Register.mnemonicPrefixes architecture).map String.toList)
    (normalize line.toList) = some fields
  address : Address.parse? fields.address = some written
  complete : isContinuation fields = false

def instructionOn (architecture : Architecture) (line : String) (fields : Fields)
    (written : Address) (nextAddress : Option Address) (flagsValid : Bool)
    (flags : ProcessorFlags) : Instruction :=
  (Instruction.ofLine (fields.toLine (normalize line.toList)) (align architecture written)
    nextAddress flagsValid).classify architecture flags

section

variable {architecture : Architecture} {line : String} {fields : Fields} {written : Address}
  {nextAddress : Option Address} {flagsValid : Bool} {flags : ProcessorFlags}
  {instruction : Instruction}

theorem Legible.disassemble (legible : Legible architecture line fields written)
    (nextAddress : Option Address) (flagsValid : Bool) (flags : ProcessorFlags) :
    FaultTriage.disassemble architecture line nextAddress flagsValid flags =
      if nextAddress = some (align architecture written) then
        .error (.noProgress (align architecture written))
      else
        .ok (instructionOn architecture line fields written nextAddress flagsValid flags) := by
  simp [FaultTriage.disassemble, legible.decoded, legible.split, legible.address,
    legible.complete, instructionOn]

theorem exists_legible_of_disassemble
    (read : disassemble architecture line nextAddress flagsValid flags = .ok instruction) :
    ∃ fields written, Legible architecture line fields written ∧
      nextAddress ≠ some (align architecture written) ∧
      instruction =
        instructionOn architecture line fields written nextAddress flagsValid flags := by
  simp only [disassemble] at read
  split at read
  · cases read
  · next decoded =>
      split at read
      · cases read
      · next fields split =>
          split at read
          · cases read
          · next written parsed =>
              split at read
              · cases read
              · next complete =>
                  split at read
                  · cases read
                  · next advances =>
                      cases read
                      exact ⟨fields, written, ⟨by simpa using decoded, split, parsed,
                        by simpa using complete⟩, advances, rfl⟩

/-- What a listing reads at the start of a line is what stands in its address field. -/
theorem Legible.written_eq (legible : Legible architecture line fields written)
    {address : Address} (announced : Address.parse? (Text.firstWord line.toList) = some address) :
    written = address := by
  have plain := Address.plain_of_parse? announced
  have lowered := firstWord_normalize (Address.ne_nil_of_parse? announced)
    fun character member => (plain character member).1
  have solid := fun character member =>
    (Address.plain_of_parse? legible.address character member).2
  have field := (address_eq_firstWord legible.split solid).trans lowered
  have parsed := legible.address
  rw [field, Address.parse?_asciiLowercase announced] at parsed
  exact (Option.some.inj parsed).symm

theorem address_of_disassemble {address : Address}
    (announced : Address.parse? (Text.firstWord line.toList) = some address)
    (read : disassemble architecture line nextAddress flagsValid flags = .ok instruction) :
    instruction.address = align architecture address := by
  obtain ⟨fields, written, legible, _, rfl⟩ := exists_legible_of_disassemble read
  obtain rfl := legible.written_eq announced
  rfl

end

end Disassembly

/-! ## Lines of a listing -/

namespace Listing

theorem announced_of_roleOf {line : List Char} {address : Address}
    (role : roleOf line = .instruction address) :
    Address.parse? (Text.firstWord line) = some address := by
  unfold roleOf at role
  repeat' split at role
  all_goals cases role
  assumption

theorem announced_of_readLines {number : Nat} {label : Option Frame} {raws : List (List Char)}
    {listing : Listing} (parsed : readLines number label raws = .ok listing) :
    ∀ line ∈ listing.lines,
      Address.parse? (Text.firstWord line.2.toList) = some line.1 := by
  induction raws generalizing number label listing with
  | nil =>
      cases parsed
      simp [empty]
  | cons raw rest ih =>
      simp only [readLines] at parsed
      cases role : roleOf (Text.trim raw) with
      | blank =>
          rw [role] at parsed
          exact ih parsed
      | label frame =>
          rw [role] at parsed
          exact ih parsed
      | invalid =>
          rw [role] at parsed
          cases parsed
      | instruction address =>
          rw [role] at parsed
          cases later : readLines (number + 1) none rest with
          | error error =>
              rw [later] at parsed
              cases parsed
          | ok lines =>
              rw [later] at parsed
              cases parsed
              intro line member
              rcases List.mem_cons.mp member with rfl | member
              · simpa using announced_of_roleOf role
              · exact ih later line member

theorem announced_of_parse {text : String} {listing : Listing} (parsed : parse text = .ok listing) :
    ∀ line ∈ listing.lines,
      Address.parse? (Text.firstWord line.2.toList) = some line.1 :=
  announced_of_readLines parsed

theorem mem_of_findLine? {address : Address} {lines : List (Address × String)}
    {line : FetchedLine} (found : findLine? address lines = some line) :
    (address, line.text) ∈ lines := by
  induction lines with
  | nil => cases found
  | cons first rest ih =>
      obtain ⟨start, text⟩ := first
      simp only [findLine?] at found
      split at found
      · next same =>
          cases found
          subst same
          exact List.mem_cons_self
      · exact List.mem_cons_of_mem _ (ih found)

theorem mem_of_fetch {listing : Listing} {address : Address} {line : FetchedLine}
    (fetched : listing.fetch address = .ok line) : (address, line.text) ∈ listing.lines := by
  unfold fetch at fetched
  split at fetched
  · next found =>
      cases fetched
      exact mem_of_findLine? found
  · cases fetched

end Listing

/-! ## Blocks of a listing -/

namespace Block

def fetchedFrom? (start : Address) (block : List Instruction) : Nat → Option Address
  | 0 => some start
  | index + 1 => block[index]?.bind (·.nextAddress)

theorem IsBlock.shows {host : Host} {flagsValid : Bool} {limit : Nat} {start : Address}
    {block : List Instruction} (isBlock : IsBlock host flagsValid limit start block)
    {index : Nat} {instruction : Instruction} (located : block[index]? = some instruction) :
    ∃ valid address, fetchedFrom? start block index = some address ∧
      Shows host valid address instruction := by
  induction block generalizing flagsValid limit start index with
  | nil => cases located
  | cons first rest ih =>
      cases index with
      | zero =>
          cases located
          exact ⟨flagsValid, start, rfl, isBlock.shows_first⟩
      | succ index =>
          have more : rest ≠ [] := by
            rintro rfl
            cases located
          cases limit with
          | zero => exact absurd isBlock.bounded (by simp)
          | succ limit =>
              obtain ⟨next, follows, tail⟩ := isBlock.tail more
              obtain ⟨valid, address, origin, shown⟩ := ih tail located
              refine ⟨valid, address, ?_, shown⟩
              cases index with
              | zero => exact (successor?_eq_some_iff.mp follows).2.trans origin
              | succ index => exact origin

/--
Every instruction of a block has the address that it was fetched from, with bit 0 cleared on ARM:
wherever a line of a listing can be read, it is read at the address that the listing has for it.
-/
theorem addresses_agree_along_block {text : String} {listing : Listing}
    (parsed : Listing.parse text = .ok listing) (architecture : Architecture)
    (flags : ProcessorFlags) :
    (∀ address line, (address, line) ∈ listing.lines → ∀ nextAddress flagsValid instruction,
      disassemble architecture line nextAddress flagsValid flags = .ok instruction →
        instruction.address = if architecture = .arm then address &&& ~~~ 1 else address) ∧
    ∀ limit start block, build (listing.toHost architecture flags) limit start = .ok block →
      ∀ index instruction, block[index]? = some instruction →
        ∃ address, fetchedFrom? start block index = some address ∧
          instruction.address = if architecture = .arm then address &&& ~~~ 1 else address := by
  have agrees : ∀ address line, (address, line) ∈ listing.lines →
      ∀ nextAddress flagsValid instruction,
        disassemble architecture line nextAddress flagsValid flags = .ok instruction →
          instruction.address = Disassembly.align architecture address := by
    intro address line member nextAddress flagsValid instruction read
    exact Disassembly.address_of_disassemble (Listing.announced_of_parse parsed _ member) read
  refine ⟨agrees, ?_⟩
  intro limit start block built index instruction located
  obtain ⟨valid, address, origin, line, fetched, read⟩ := (build_eq_ok_iff.mp built).shows located
  exact ⟨address, origin, agrees address line.text (Listing.mem_of_fetch fetched) _ _ _ read⟩

theorem exists_eq_ok_of_toOption {ε α β : Type} {result : Except ε α} {view : α → β} {shown : β}
    (seen : result.toOption.map view = some shown) :
    ∃ value, result = .ok value ∧ view value = shown := by
  cases result with
  | error error => cases seen
  | ok value => exact ⟨value, rfl, Option.some.inj seen⟩

def thumbText : String :=
  "00001001 4608 MOV r0,r1\n0x`00001003\t4770 bx lr\n"

def thumbListing : Listing :=
  ⟨[(0x1001, "00001001 4608 MOV r0,r1"), (0x1003, "0x`00001003\t4770 bx lr")], []⟩

theorem thumbText_instructions_aligned :
    Listing.parse thumbText = .ok thumbListing ∧
      ∃ first second,
        build (thumbListing.toHost .arm .unknown) 8 0x1001 = .ok [first, second] ∧
          first.address = 0x1000 ∧ first.nextAddress = some 0x1003 ∧ second.address = 0x1002 := by
  have parsed : Listing.parse thumbText = .ok thumbListing := rfl
  have shape : (build (thumbListing.toHost .arm .unknown) 8 0x1001).toOption.map
      (·.map (·.nextAddress)) = some [some 0x1003, none] := by decide +kernel
  obtain ⟨block, built, nexts⟩ := exists_eq_ok_of_toOption shape
  obtain ⟨first, rest, rfl, follows, nexts⟩ := List.map_eq_cons_iff.mp nexts
  obtain ⟨second, rest, rfl, _, nexts⟩ := List.map_eq_cons_iff.mp nexts
  obtain rfl := List.map_eq_nil_iff.mp nexts
  have agree := (addresses_agree_along_block parsed .arm .unknown).2 8 0x1001 _ built
  obtain ⟨address, origin, firstAddress⟩ := agree 0 first rfl
  cases origin
  obtain ⟨address, next, secondAddress⟩ := agree 1 second rfl
  cases next.symm.trans follows
  exact ⟨parsed, first, second, built, firstAddress, follows, secondAddress⟩

end Block

end FaultTriage
