import FaultTriage.Command.Store
import FaultTriage.Proofs.CrashStore.Migration

/-!
# Which versions are refused

A store is refused for its version exactly if that is a later one.  A version below the oldest one
is not refused: such a store is brought up to date like one of version 1.  A store that cannot be
opened, for whatever reason, is left as it is.
-/

set_option autoImplicit false

namespace FaultTriage

namespace CrashStore

/-! ## Versions -/

theorem applyStep_ne_unsupportedVersion (store : CrashStore) (step : MigrationStep) (found : Int) :
    store.applyStep step ≠ .error (.unsupportedVersion found) := by
  intro refused
  obtain ⟨version, table⟩ := store
  cases step <;> cases table <;> cases refused

theorem foldlM_ne_unsupportedVersion (store : CrashStore) (steps : List MigrationStep)
    (found : Int) : steps.foldlM applyStep store ≠ .error (.unsupportedVersion found) := by
  induction steps generalizing store with
  | nil =>
      intro refused
      cases refused
  | cons step rest ih =>
      rw [List.foldlM_cons]
      cases stepped : store.applyStep step with
      | error error =>
          intro refused
          cases refused
          exact applyStep_ne_unsupportedVersion store step found stepped
      | ok next => exact ih next

theorem opened_eq_unsupportedVersion_iff {store : CrashStore} {found : Int} :
    store.opened = .error (.unsupportedVersion found) ↔
      found = store.version ∧ 2 < store.version := by
  by_cases later : currentVersion < store.version
  · rw [opened, if_pos later, Except.error.injEq, StoreError.unsupportedVersion.injEq]
    constructor
    · intro same
      exact ⟨same.symm, later⟩
    · intro same
      exact same.1.symm
  · constructor
    · intro refused
      rw [opened_eq_foldlM (Int.not_lt.mp later)] at refused
      exact absurd refused (foldlM_ne_unsupportedVersion store store.plan found)
    · intro isLater
      exact absurd isLater.2 later

theorem opened_of_negative {store : CrashStore} (negative : store.version < 0) :
    store.opened =
      if store.table = .missing then .error .missingColumn else .ok store.upToDate := by
  obtain ⟨version, table⟩ := store
  have notNew : version ≠ 0 := Int.ne_of_lt negative
  have isOlder : version < 2 := Int.lt_trans negative (by decide)
  by_cases missing : table = .missing
  · subst missing
    rw [opened_eq_foldlM (Int.le_of_lt isOlder), plan_of_older notNew isOlder]
    rfl
  · rw [(Updatable.older notNew isOlder missing).opened, if_neg missing]

theorem message_unsupportedVersion (found : Int) :
    (StoreError.unsupportedVersion found).message =
      "Unsupported schema version " ++ toString found ++ "; supported range is 0..=2" := by
  have range : "; supported range is " ++
      (toString oldestVersion ++ ("..=" ++ toString currentVersion)) =
        "; supported range is 0..=2" := by decide +kernel
  calc (StoreError.unsupportedVersion found).message
    _ = "Unsupported schema version " ++ toString found ++ "; supported range is "
          ++ toString oldestVersion ++ "..=" ++ toString currentVersion := rfl
    _ = "Unsupported schema version " ++ toString found ++ ("; supported range is " ++
          (toString oldestVersion ++ ("..=" ++ toString currentVersion))) := by
      simp only [String.append_assoc]
    _ = "Unsupported schema version " ++ toString found ++ "; supported range is 0..=2" := by
      rw [range]

/-! ## What a refusal leaves -/

theorem updatable_of_applyStep {store next : CrashStore} {step : MigrationStep}
    {rest : List MigrationStep} (planned : store.plan = step :: rest)
    (committed : store.applyStep step = .ok next) : Updatable store := by
  obtain ⟨version, table⟩ := store
  by_cases new : version = 0
  · subst new
    exact .new table
  · by_cases isOlder : version < 2
    · refine .older new isOlder ?_
      rintro rfl
      rw [plan_of_older new isOlder] at planned
      cases planned
      cases committed
    · simp [plan, new, currentVersion, isOlder] at planned

/-- A run that fails has not done any step before. -/
theorem eq_of_opened_eq_error {store cutOff : CrashStore} {error : StoreError}
    {done undone : List MigrationStep} (refused : store.opened = .error error)
    (planned : store.plan = done ++ undone)
    (committed : done.foldlM applyStep store = .ok cutOff) : cutOff = store := by
  cases done with
  | nil =>
      cases committed
      rfl
  | cons step done =>
      obtain ⟨next, stepped, _⟩ := committed_cons committed
      have succeeds := (updatable_of_applyStep planned stepped).opened
      cases succeeds.symm.trans refused

end CrashStore

namespace Directory

open CrashStore

theorem findFile_eq_or_empty {directory found : Directory} {locator : StoreLocator}
    {session : StoreSession} (located : directory.findFile locator = .ok (found, session)) :
    found = directory ∨ session.store = .empty := by
  simp only [findFile, bind, Except.bind] at located
  repeat' split at located
  all_goals cases located
  · exact .inl rfl
  · exact .inr rfl

theorem findStore_eq_or_empty {directory found : Directory} {locator : StoreLocator}
    {session : StoreSession} (located : directory.findStore locator = .ok (found, session)) :
    found = directory ∨ session.store = .empty := by
  simp only [findStore] at located
  repeat' split at located
  · cases located
    exact .inr rfl
  · exact findFile_eq_or_empty located
  · cases located
    exact .inr rfl
  · cases located

theorem opened_of_session_eq_error {session : StoreSession} {found : Int}
    (refused : session.opened = .error (.unsupportedVersion found)) :
    session.store.opened = .error (.unsupportedVersion found) := by
  simp only [StoreSession.opened, bind, Except.bind] at refused
  cases opened : session.store.opened with
  | error error =>
      rw [opened] at refused
      cases refused
      rfl
  | ok store =>
      rw [opened] at refused
      simp only at refused
      split at refused <;> cases refused

/-- Refusing a version leaves all files as they are. -/
theorem openStore_of_unsupportedVersion {directory : Directory} {name : FilePath} {found : Int}
    (refused : (directory.openStore name).2 = .error (.opening name (.unsupportedVersion found))) :
    (directory.openStore name).1 = directory := by
  simp only [openStore] at refused ⊢
  cases parsed : StoreLocator.parse? name with
  | none => rfl
  | some locator =>
      simp only [parsed] at refused ⊢
      cases located : directory.findStore locator with
      | error error => rfl
      | ok result =>
          obtain ⟨left, session⟩ := result
          simp only [located] at refused ⊢
          cases opened : session.opened with
          | ok ready =>
              rw [opened] at refused
              cases refused
          | error error =>
              rw [opened] at refused
              cases refused
              have later := opened_eq_unsupportedVersion_iff.mp (opened_of_session_eq_error opened)
              rcases findStore_eq_or_empty located with same | new
              · exact same
              · rw [new] at later
                exact absurd later.2 (by decide)

end Directory

namespace CrashStore

/--
For versions that are not negative, exactly those beyond the supported range are refused.  For the
others the range has no effect: the store is brought up to date if it has a table, and otherwise
fails for want of one.
-/
theorem refuses_exactly_later_versions (store : CrashStore) :
    ((store.opened = .error (.unsupportedVersion store.version) ↔
        ¬ (0 ≤ store.version ∧ store.version ≤ 2)) ↔ 0 ≤ store.version) ∧
    (∀ found, store.opened = .error (.unsupportedVersion found) ↔
      found = store.version ∧ 2 < store.version) ∧
    (StoreError.unsupportedVersion store.version).message =
      "Unsupported schema version " ++ toString store.version ++ "; supported range is 0..=2" ∧
    (store.version < 0 → store.opened =
      if store.table = .missing then .error .missingColumn else .ok store.upToDate) ∧
    (∀ error, store.opened = .error error → ∀ done undone cutOff, store.plan = done ++ undone →
      done.foldlM applyStep store = .ok cutOff → cutOff = store) ∧
    ∀ (directory : Directory) (name : FilePath),
      (directory.openStore name).2 = .error (.opening name (.unsupportedVersion store.version)) →
        (directory.openStore name).1 = directory := by
  refine ⟨?_, fun _ => opened_eq_unsupportedVersion_iff,
    message_unsupportedVersion store.version, opened_of_negative, ?_, ?_⟩
  · have refused := @opened_eq_unsupportedVersion_iff store store.version
    rw [refused]
    omega
  · intro error refused done undone cutOff planned committed
    exact eq_of_opened_eq_error refused planned committed
  · intro directory name refused
    exact Directory.openStore_of_unsupportedVersion refused

theorem negativeVersion_not_refused :
    ¬ (opened ⟨-1, .withoutModes [formerCrash]⟩ = .error (.unsupportedVersion (-1)) ↔
        ¬ (0 ≤ (-1 : Int) ∧ (-1 : Int) ≤ 2)) ∧
      opened ⟨-1, .withoutModes [formerCrash]⟩ = .ok ⟨2, .withModes [(formerCrash, "sha256")]⟩ ∧
      opened ⟨-1, .missing⟩ = .error .missingColumn := by
  have updated : opened ⟨-1, .withoutModes [formerCrash]⟩ =
      .ok ⟨2, .withModes [(formerCrash, "sha256")]⟩ := rfl
  refine ⟨?_, updated, rfl⟩
  intro refused
  cases updated.symm.trans (refused.mpr (by decide))

def directoryOfLater : Directory :=
  { files := [([Text.bytes "crashes.db"], .crashes ⟨3, .withoutModes [formerCrash]⟩)]
    directories := []
    current := [] }

theorem directoryOfLater_unchanged :
    opened ⟨3, .withoutModes [formerCrash]⟩ = .error (.unsupportedVersion 3) ∧
      (directoryOfLater.openStore "crashes.db").2 =
        .error (.opening "crashes.db" (.unsupportedVersion 3)) ∧
      (directoryOfLater.openStore "crashes.db").1 = directoryOfLater := by
  obtain ⟨_, refused, _, _, _, unchanged⟩ :=
    refuses_exactly_later_versions ⟨3, .withoutModes [formerCrash]⟩
  have opening : (directoryOfLater.openStore "crashes.db").2 =
      .error (.opening "crashes.db" (.unsupportedVersion 3)) := rfl
  exact ⟨(refused 3).mpr ⟨rfl, by decide⟩, opening, unchanged _ _ opening⟩

end CrashStore

end FaultTriage
