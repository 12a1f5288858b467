import FaultTriage.Proofs.CrashStore.History
import FaultTriage.Proofs.Json.StringList

/-!
# Recorded crashes are read back as they were

Words go through signed columns of 64 bits, and the tainted inputs through the text of a JSON list.
Neither loses anything: the crashes of a pair of halves are the recordings with that pair.
-/

set_option autoImplicit false

namespace FaultTriage

/-- What a store should tell about a recording. -/
def Recording.toRecord (recording : Recording) (id : Nat) : CrashRecord :=
  let report := recording.report
  { id := id
    pair := recording.pair
    hashMode := recording.mode.name
    architecture := report.architecture.name
    faultAddress := report.faultAddress
    instruction :=
      match report.instructions with
      | [] => ""
      | first :: _ => first.text
    taintedInputs :=
      match report.instructions with
      | [] => []
      | first :: _ => first.taintedInput.names
    status := report.status.name
    recordedAt := recording.moment.render }

namespace CrashStore

theorem inputsOf?_render (texts : List String) :
    inputsOf? (Json.strings texts).render = some texts := by
  rw [inputsOf?, Json.parse?_render_strings, Json.strings]
  simp only
  induction texts with
  | nil => rfl
  | cons text rest ih =>
      rw [List.map_cons, List.mapM_cons, ih]
      rfl

theorem recordOf_row (recording : Recording) (id : Nat) :
    recordOf (recording.row id) = .ok (recording.toRecord id) := by
  cases instructions : recording.report.instructions with
  | nil =>
      simp [recordOf, Recording.row, Recording.toRecord, fieldsOf, inputsOf?_render,
        TriageReport.faultingInstruction?, instructions, readHalf_storedHalf, Recording.pair]
  | cons first rest =>
      simp [recordOf, Recording.row, Recording.toRecord, fieldsOf, inputsOf?_render,
        TriageReport.faultingInstruction?, instructions, readHalf_storedHalf, Recording.pair]

theorem hasPair_row (pair : HashPair) (recording : Recording) (id : Nat) :
    hasPair pair (recording.row id) = decide (recording.pair = pair) := by
  rw [Bool.eq_iff_iff, decide_eq_true_iff]
  obtain ⟨major, minor⟩ := pair
  cases recorded : recording.pair with
  | mk recordedMajor recordedMinor =>
      have halves : recording.report.stackHash.toHashPair = ⟨recordedMajor, recordedMinor⟩ :=
        recorded
      simp [hasPair, Recording.row, fieldsOf, halves, storedHalf_inj]

/-- What a store should tell about a pair: each recording with it, in order and under its number. -/
def recordsOf (history : List Recording) (pair : HashPair) : List CrashRecord :=
  ((history.zipIdx 1).filter fun numbered => numbered.1.pair = pair).map
    fun numbered => numbered.1.toRecord numbered.2

theorem crashesIn_of_rows {store : CrashStore} {history : List Recording}
    (kept : store.rows = .ok (rowsOf history)) (pair : HashPair) :
    store.crashesIn pair = .ok (recordsOf history pair) := by
  have selected : (rowsOf history).filter (hasPair pair) =
      ((history.zipIdx 1).filter fun numbered => numbered.1.pair = pair).map
        fun numbered => numbered.1.row numbered.2 := by
    simp [rowsOf, List.filter_map, Function.comp_def, hasPair_row]
  simp only [crashesIn, kept, bind, Except.bind, selected, List.mapM_map, Function.comp_def,
    recordOf_row]
  exact List.mapM_pure

theorem crashesIn_ofHistory (history : List Recording) :
    ∃ store, ofHistory history = .ok (store, List.range' 1 history.length) ∧
      ∀ pair, store.crashesIn pair = .ok (recordsOf history pair) := by
  obtain ⟨store, made, kept⟩ := exists_store_ofHistory history
  exact ⟨store, made, crashesIn_of_rows kept⟩

end CrashStore

end FaultTriage
