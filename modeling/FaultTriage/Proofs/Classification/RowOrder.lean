import FaultTriage.Table

/-!
# The order of the rows

Several rows of a table can apply to one mnemonic, and the first of them decides.  In every table it
is the one that spells out most of the mnemonic: where an earlier and a later row apply to the same
mnemonic, the later one has the shorter mnemonic of its own.  What a table finds can therefore be
said without the order of its rows.
-/

set_option autoImplicit false

namespace FaultTriage

theorem Condition.mem_codes_of_ofCode? {code : List Char} {condition : Condition}
    (isCode : ofCode? code = some condition) :
    ∃ entry ∈ codes, entry.1.toList = code ∧ entry.2 = condition := by
  obtain ⟨entry, found, same⟩ := Option.map_eq_some_iff.mp isCode
  have spelled : entry.1.toList = code := by simpa using List.find?_some found
  exact ⟨entry, List.mem_of_find?_eq_some found, spelled, same⟩

/-! ## Mnemonics of a row -/

namespace TableRow

def spellings (row : TableRow) : List (List Char) :=
  match row.rowMatch with
  | .leading => []
  | .exact => [row.mnemonic.toList]
  | .conditional =>
      row.mnemonic.toList ::
        Condition.codes.map fun entry => row.mnemonic.toList ++ entry.1.toList

theorem applies_mnemonic (row : TableRow) : row.applies row.mnemonic.toList = true := by
  have stripped := Text.stripStart?_append row.mnemonic.toList []
  rw [List.append_nil] at stripped
  unfold TableRow.applies
  cases row.rowMatch <;> simp [stripped]

theorem prefix_of_applies {row : TableRow} {mnemonic : List Char}
    (applies : row.applies mnemonic = true) : row.mnemonic.toList <+: mnemonic := by
  unfold TableRow.applies at applies
  cases matching : row.rowMatch with
  | leading =>
      rw [matching] at applies
      exact List.isPrefixOf_iff_prefix.mp applies
  | exact =>
      rw [matching] at applies
      exact beq_iff_eq.mp applies ▸ List.prefix_refl _
  | conditional =>
      rw [matching] at applies
      cases stripped : Text.stripStart? row.mnemonic.toList mnemonic with
      | none => simp [stripped] at applies
      | some rest =>
          rw [(Text.stripStart?_eq_some_iff _ _ _).mp stripped]
          exact List.prefix_append _ _

theorem mem_spellings_of_applies {row : TableRow} (limited : row.rowMatch ≠ .leading)
    {mnemonic : List Char} (applies : row.applies mnemonic = true) :
    mnemonic ∈ row.spellings := by
  obtain ⟨rest, split⟩ := prefix_of_applies applies
  subst split
  unfold TableRow.applies at applies
  cases matching : row.rowMatch with
  | leading => exact absurd matching limited
  | exact =>
      rw [matching] at applies
      simpa [spellings, matching] using applies
  | conditional =>
      simp only [matching, Text.stripStart?_append, Bool.or_eq_true, List.isEmpty_iff,
        Option.isSome_iff_exists] at applies
      rw [spellings, matching]
      obtain rfl | ⟨condition, isCode⟩ := applies
      · simp
      · obtain ⟨entry, listed, rfl, _⟩ := Condition.mem_codes_of_ofCode? isCode
        exact List.mem_cons_of_mem _ (List.mem_map_of_mem listed)

/--
A later row whose mnemonic goes on where that of an earlier one ends applies to nothing that the
earlier one applies to.
-/
def Precedes (earlier later : TableRow) : Prop :=
  earlier.mnemonic.toList <+: later.mnemonic.toList →
    earlier.rowMatch ≠ .leading ∧ ∀ spelling ∈ earlier.spellings, later.applies spelling = false

instance : DecidableRel Precedes := fun earlier later =>
  inferInstanceAs (Decidable
    (earlier.mnemonic.toList <+: later.mnemonic.toList →
      earlier.rowMatch ≠ .leading ∧ ∀ spelling ∈ earlier.spellings, later.applies spelling = false))

theorem Precedes.length_lt {earlier later : TableRow} (precedes : earlier.Precedes later)
    {mnemonic : List Char} (earlierApplies : earlier.applies mnemonic = true)
    (laterApplies : later.applies mnemonic = true) :
    later.mnemonic.length < earlier.mnemonic.length := by
  apply Nat.lt_of_not_le
  intro notShorter
  rw [← String.length_toList, ← String.length_toList] at notShorter
  -- Of two beginnings of one mnemonic the longer begins with the shorter.
  have within : earlier.mnemonic.toList <+: later.mnemonic.toList :=
    List.prefix_of_prefix_length_le (prefix_of_applies earlierApplies)
      (prefix_of_applies laterApplies) notShorter
  obtain ⟨limited, apart⟩ := precedes within
  have untaken := apart mnemonic (mem_spellings_of_applies limited earlierApplies)
  rw [laterApplies] at untaken
  cases untaken

end TableRow

/-! ## Rows that are found -/

namespace Table

open TableRow

theorem precedes_rows (architecture : Architecture) : (rows architecture).Pairwise Precedes := by
  cases architecture with
  | x86 => decide +kernel
  | x64 => decide +kernel
  | arm => decide +kernel

theorem applies_of_lookup? {architecture : Architecture} {mnemonic : List Char} {row : TableRow}
    (found : lookup? architecture mnemonic = some row) : row.applies mnemonic = true :=
  List.find?_some (p := fun candidate : TableRow => candidate.applies mnemonic) found

theorem length_lt_of_lookup? {architecture : Architecture} {mnemonic : List Char} {row : TableRow}
    (found : lookup? architecture mnemonic = some row) {other : TableRow}
    (listed : other ∈ rows architecture) (applies : other.applies mnemonic = true)
    (different : other ≠ row) : other.mnemonic.length < row.mnemonic.length := by
  obtain ⟨rowApplies, before, after, split, skipped⟩ := List.find?_eq_some_iff_append.mp found
  have ordered := precedes_rows architecture
  rw [split] at ordered listed
  obtain earlier | first | later :
      other ∈ before ∨ other = row ∨ other ∈ after := by simpa using listed
  · have notApplies := skipped other earlier
    simp [applies] at notApplies
  · exact absurd first different
  · have follows := (List.pairwise_cons.mp (List.pairwise_append.mp ordered).2.1).1 other later
    exact follows.length_lt rowApplies applies

theorem exists_lookup?_of_applies {architecture : Architecture} {mnemonic : List Char}
    {row : TableRow} (listed : row ∈ rows architecture) (applies : row.applies mnemonic = true) :
    ∃ found, lookup? architecture mnemonic = some found :=
  Option.isSome_iff_exists.mp (List.find?_isSome.mpr ⟨row, listed, applies⟩)

theorem lookup?_mnemonic {architecture : Architecture} {row : TableRow}
    (listed : row ∈ rows architecture) :
    lookup? architecture row.mnemonic.toList = some row := by
  obtain ⟨found, isFound⟩ := exists_lookup?_of_applies listed row.applies_mnemonic
  by_cases same : found = row
  · exact same ▸ isFound
  · have longer := length_lt_of_lookup? isFound listed row.applies_mnemonic (Ne.symm same)
    have within := (prefix_of_applies (applies_of_lookup? isFound)).length_le
    simp only [String.length_toList] at within
    omega

/--
Of all rows that apply to a mnemonic the one with the longest mnemonic is found, wherever it stands
in its table, and a row is found under its own mnemonic.
-/
theorem lookup?_finds_longest (architecture : Architecture) (mnemonic : List Char) :
    (∀ row, lookup? architecture mnemonic = some row ↔
      row ∈ rows architecture ∧ row.applies mnemonic = true ∧
        ∀ other ∈ rows architecture, other.applies mnemonic = true → other ≠ row →
          other.mnemonic.length < row.mnemonic.length) ∧
    ∀ named ∈ rows architecture, named.mnemonic.toList = mnemonic →
      lookup? architecture mnemonic = some named := by
  refine ⟨fun row => ⟨fun found => ?longest, fun unsurpassed => ?found⟩, ?named⟩
  case longest =>
    refine ⟨List.mem_of_find?_eq_some found, applies_of_lookup? found, ?_⟩
    intro other listed applies different
    exact length_lt_of_lookup? found listed applies different
  case found =>
    obtain ⟨listed, applies, longest⟩ := unsurpassed
    obtain ⟨found, isFound⟩ := exists_lookup?_of_applies listed applies
    by_cases same : found = row
    · exact same ▸ isFound
    · have shorter := longest found (List.mem_of_find?_eq_some isFound)
        (applies_of_lookup? isFound) same
      have longer := length_lt_of_lookup? isFound listed applies (Ne.symm same)
      omega
  case named =>
    intro named listed spelled
    exact spelled ▸ lookup?_mnemonic listed

/-- The string move stands before the general move, which applies to its mnemonic as well. -/
theorem stringMove_found_before_move :
    ∃ stringMove ∈ rows .x86, ∃ move ∈ rows .x86,
      stringMove.mnemonic = "movsd" ∧ stringMove.rowMatch = .exact ∧
      move.mnemonic = "mov" ∧ move.applies "movsd".toList = true ∧
      lookup? .x86 "movsd".toList = some stringMove ∧
      move.mnemonic.length < stringMove.mnemonic.length := by
  have stands : ∃ stringMove ∈ rows .x86, ∃ move ∈ rows .x86,
      stringMove.mnemonic = "movsd" ∧ stringMove.rowMatch = .exact ∧
      move.mnemonic = "mov" ∧ move.applies "movsd".toList = true := by decide +kernel
  obtain ⟨stringMove, listed, move, moveListed, spelled, matching, general, applies⟩ := stands
  obtain ⟨longest, named⟩ := lookup?_finds_longest .x86 "movsd".toList
  have found := named stringMove listed (congrArg String.toList spelled)
  have different : move ≠ stringMove := fun same => by
    rw [same, spelled] at general
    exact absurd general (by decide)
  have shorter := ((longest stringMove).mp found).2.2 move moveListed applies different
  exact ⟨stringMove, listed, move, moveListed, spelled, matching, general, applies, found, shorter⟩

end Table

end FaultTriage
