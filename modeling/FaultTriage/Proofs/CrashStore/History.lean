import Mathlib.Data.List.Induction
import FaultTriage.CrashStore.Bucket
import FaultTriage.CrashStore.Migration

/-!
# Histories of a crash store

A new store after any number of recordings keeps exactly one row for each, in their order and
numbered from one.  No recording fails.
-/

set_option autoImplicit false

namespace FaultTriage

structure Recording where
  report : TriageReport
  moment : Timestamp

namespace Recording

def pair (recording : Recording) : HashPair :=
  recording.report.stackHash.toHashPair

def mode (recording : Recording) : HashMode :=
  recording.report.stackHash.mode

def row (recording : Recording) (id : Nat) : StoredCrash × String :=
  ({ CrashStore.fieldsOf recording.report recording.moment with id := id }, recording.mode.name)

end Recording

namespace CrashStore

def recordAll (store : CrashStore) : List Recording → Except StoreError (CrashStore × List Nat)
  | [] => .ok (store, [])
  | recording :: rest => do
      let (changed, id) ← store.record recording.report recording.moment
      let (final, ids) ← changed.recordAll rest
      return (final, id :: ids)

def ofHistory (history : List Recording) : Except StoreError (CrashStore × List Nat) := do
  (← empty.opened).recordAll history

def rowsOf (history : List Recording) : List (StoredCrash × String) :=
  (history.zipIdx 1).map fun numbered => numbered.1.row numbered.2

theorem rowsOf_concat (history : List Recording) (recording : Recording) :
    rowsOf (history ++ [recording]) = rowsOf history ++ [recording.row (history.length + 1)] := by
  simp [rowsOf, List.zipIdx_append, Nat.add_comm]

/-- A query that asks only for what the recordings tell does not depend on their numbers. -/
theorem map_filter_numbered {Value : Type} (history : List Recording)
    (selects : Recording → Bool) (value : Recording → Value) :
    (((history.zipIdx 1).filter fun numbered => selects numbered.1).map
      fun numbered => value numbered.1) = (history.filter selects).map value := by
  have recordings : (history.zipIdx 1).map (·.1) = history := List.zipIdx_map_fst 1 history
  conv_rhs => rw [← recordings]
  simp only [List.filter_map, List.map_map, Function.comp_def]

theorem nextId_concat (ids : List Nat) (id : Nat) :
    nextId (ids ++ [id]) = max (nextId ids) (id + 1) := by
  simp [nextId, List.foldl_append, Nat.succ_max_succ]

theorem nextId_rowsOf (history : List Recording) :
    nextId ((rowsOf history).map (·.1.id)) = history.length + 1 := by
  induction history using List.reverseRecOn with
  | nil => rfl
  | append_singleton history recording ih =>
      rw [rowsOf_concat, List.map_append, List.map_singleton, nextId_concat, ih]
      simp [Recording.row]

theorem rows_eq_ok_iff {store : CrashStore} {crashes : List (StoredCrash × String)} :
    store.rows = .ok crashes ↔ store.table = .withModes crashes := by
  unfold rows
  cases store.table with
  | missing => simp
  | withoutModes rows => simp
  | withModes rows => simp

theorem rows_of_insert {store : CrashStore} {crashes : List (StoredCrash × String)}
    (kept : store.rows = .ok crashes) (fields : CrashFields) (mode : String) :
    ∃ changed, store.insert fields mode = .ok (changed, nextId (crashes.map (·.1.id))) ∧
      changed.rows =
        .ok (crashes ++ [({ fields with id := nextId (crashes.map (·.1.id)) }, mode)]) := by
  have table := rows_eq_ok_iff.mp kept
  simp only [insert, table]
  exact ⟨_, rfl, rfl⟩

theorem rows_of_record {store : CrashStore} {history : List Recording}
    (kept : store.rows = .ok (rowsOf history)) (recording : Recording) :
    ∃ changed, store.record recording.report recording.moment = .ok (changed, history.length + 1) ∧
      changed.rows = .ok (rowsOf (history ++ [recording])) := by
  obtain ⟨changed, inserted, added⟩ :=
    rows_of_insert kept (fieldsOf recording.report recording.moment) recording.mode.name
  rw [nextId_rowsOf] at inserted added
  rw [rowsOf_concat]
  exact ⟨changed, inserted, added⟩

theorem rows_of_recordAll {store : CrashStore} {earlier : List Recording}
    (kept : store.rows = .ok (rowsOf earlier)) (later : List Recording) :
    ∃ final, store.recordAll later = .ok (final, List.range' (earlier.length + 1) later.length) ∧
      final.rows = .ok (rowsOf (earlier ++ later)) := by
  induction later generalizing store earlier with
  | nil => exact ⟨store, rfl, by rwa [List.append_nil]⟩
  | cons recording rest ih =>
      obtain ⟨changed, recorded, keptNext⟩ := rows_of_record kept recording
      obtain ⟨final, finished, keptAll⟩ := ih keptNext
      refine ⟨final, ?_, by simpa using keptAll⟩
      simp only [recordAll, recorded, finished, bind, Except.bind, pure, Except.pure]
      simp [List.range'_succ]

theorem exists_store_ofHistory (history : List Recording) :
    ∃ store, ofHistory history = .ok (store, List.range' 1 history.length) ∧
      store.rows = .ok (rowsOf history) := by
  have opened : empty.opened = .ok ⟨currentVersion, .withModes (rowsOf [])⟩ := rfl
  obtain ⟨store, recorded, kept⟩ :=
    rows_of_recordAll (rfl : rows ⟨currentVersion, .withModes (rowsOf [])⟩ = _) history
  refine ⟨store, ?_, kept⟩
  simp only [ofHistory, opened, bind, Except.bind]
  exact recorded

end CrashStore

end FaultTriage
