import FaultTriage.CrashStore.Migration

/-!
# Updates keep the rows and can be taken up again

An update is planned from the version and the layout that it finds.  What a run leaves behind when it
is cut off has the rest of its plan as its own plan, so a later run does what the first one did not
get to do.  No step touches a row, apart from the hash mode that rows of the old layout get.
-/

set_option autoImplicit false

namespace FaultTriage

def CrashTable.entries : CrashTable → List (StoredCrash × Option String)
  | .missing => []
  | .withoutModes crashes => crashes.map (·, none)
  | .withModes crashes => crashes.map fun row => (row.1, some row.2)

namespace CrashStore

def upToDate (store : CrashStore) : CrashStore :=
  ⟨2, .withModes (store.table.entries.map fun entry => (entry.1, entry.2.getD "sha256"))⟩

/--
The stores that an update succeeds on: new ones, older ones that have a table, and those in the
layout of version 2.
-/
inductive Updatable : CrashStore → Prop where
  | new (table : CrashTable) : Updatable ⟨0, table⟩
  | older {version : Int} {table : CrashTable} : version ≠ 0 → version < 2 → table ≠ .missing →
      Updatable ⟨version, table⟩
  | current (crashes : List (StoredCrash × String)) : Updatable ⟨2, .withModes crashes⟩

def finishing : CrashTable → List MigrationStep
  | .withModes _ => [.markCurrent]
  | .missing | .withoutModes _ => [.addModes, .markCurrent]

/-- The steps of an update, decided before the first of them is done. -/
def plan (store : CrashStore) : List MigrationStep :=
  if store.version = 0 then .createTable :: finishing store.table
  else if store.version < currentVersion then finishing store.table
  else []

/-! ## Plans -/

theorem plan_of_older {version : Int} (notNew : version ≠ 0) (isOlder : version < 2)
    (table : CrashTable) : plan ⟨version, table⟩ = finishing table := by
  simp [plan, notNew, currentVersion, isOlder]

theorem nextStep?_eq_head?_plan (store : CrashStore) : store.nextStep? = store.plan.head? := by
  obtain ⟨version, table⟩ := store
  simp only [nextStep?, plan]
  by_cases new : version = 0
  · simp [new]
  · by_cases older : version < currentVersion
    · cases table <;> simp [new, older, finishing]
    · simp [new, older]

theorem length_plan_le (store : CrashStore) : store.plan.length ≤ stepBound := by
  have bounded : (finishing store.table).length ≤ 2 := by
    cases store.table <;> simp [finishing]
  simp only [plan, stepBound]
  split
  · exact Nat.succ_le_succ bounded
  · split
    · exact Nat.le_succ_of_le bounded
    · simp

/-- What a step leaves to be done is the rest of the plan. -/
theorem plan_of_applyStep {store next : CrashStore} {step : MigrationStep}
    {rest : List MigrationStep} (planned : store.plan = step :: rest)
    (committed : store.applyStep step = .ok next) : next.plan = rest := by
  obtain ⟨version, table⟩ := store
  by_cases new : version = 0
  · subst new
    cases planned
    cases table <;> cases committed <;> rfl
  · by_cases isOlder : version < 2
    · rw [plan_of_older new isOlder] at planned
      cases table with
      | missing =>
          cases planned
          cases committed
      | withoutModes crashes =>
          cases planned
          cases committed
          exact plan_of_older new isOlder _
      | withModes crashes =>
          cases planned
          cases committed
          rfl
    · simp [plan, new, currentVersion, isOlder] at planned

theorem committed_cons {store cutOff : CrashStore} {step : MigrationStep}
    {done : List MigrationStep} (committed : (step :: done).foldlM applyStep store = .ok cutOff) :
    ∃ next, store.applyStep step = .ok next ∧ done.foldlM applyStep next = .ok cutOff := by
  rw [List.foldlM_cons] at committed
  cases stepped : store.applyStep step with
  | error error =>
      rw [stepped] at committed
      cases committed
  | ok next =>
      rw [stepped] at committed
      exact ⟨next, rfl, committed⟩

theorem plan_of_foldlM {store cutOff : CrashStore} {done undone : List MigrationStep}
    (planned : store.plan = done ++ undone)
    (committed : done.foldlM applyStep store = .ok cutOff) : cutOff.plan = undone := by
  induction done generalizing store with
  | nil =>
      cases committed
      exact planned
  | cons step done ih =>
      obtain ⟨next, stepped, rest⟩ := committed_cons committed
      exact ih (plan_of_applyStep planned stepped) rest

theorem advance_eq_foldlM (store : CrashStore) (steps : Nat) :
    store.advance steps = (store.plan.take steps).foldlM applyStep store := by
  induction steps generalizing store with
  | zero => rfl
  | succ steps ih =>
      rw [advance, nextStep?_eq_head?_plan]
      cases planned : store.plan with
      | nil => rfl
      | cons step rest =>
          simp only [List.head?_cons, List.take_succ_cons, List.foldlM_cons]
          cases committed : store.applyStep step with
          | error error => rfl
          | ok next =>
              rw [← plan_of_applyStep planned committed]
              exact ih next

theorem migrate_eq_foldlM (store : CrashStore) :
    store.migrate = store.plan.foldlM applyStep store := by
  rw [migrate, advance_eq_foldlM, List.take_of_length_le store.length_plan_le]

/-! ## Rows -/

theorem upToDate_of_applyStep {store next : CrashStore} {step : MigrationStep}
    (committed : store.applyStep step = .ok next) : next.upToDate = store.upToDate := by
  obtain ⟨version, table⟩ := store
  cases step <;> cases table <;> cases committed
  all_goals simp [upToDate, CrashTable.entries, formerMode, HashMode.name]

theorem upToDate_of_foldlM {store cutOff : CrashStore} {done : List MigrationStep}
    (committed : done.foldlM applyStep store = .ok cutOff) :
    cutOff.upToDate = store.upToDate := by
  induction done generalizing store with
  | nil =>
      cases committed
      rfl
  | cons step done ih =>
      obtain ⟨next, stepped, rest⟩ := committed_cons committed
      exact (ih rest).trans (upToDate_of_applyStep stepped)

/-! ## Updatable stores -/

theorem Updatable.version_le {store : CrashStore} (updatable : Updatable store) :
    store.version ≤ currentVersion := by
  cases updatable with
  | new table => exact (by decide : (0 : Int) ≤ 2)
  | older _ isOlder _ => exact Int.le_of_lt isOlder
  | current crashes => exact Int.le_refl 2

/-- A planned step can be done, and leaves a store on which the rest succeeds. -/
theorem Updatable.applyStep {store : CrashStore} (updatable : Updatable store)
    {step : MigrationStep} {rest : List MigrationStep} (planned : store.plan = step :: rest) :
    ∃ next, store.applyStep step = .ok next ∧ Updatable next := by
  cases updatable with
  | new table =>
      cases planned
      cases table
      all_goals exact ⟨_, rfl, .older (by decide) (by decide) (by simp)⟩
  | @older version table notNew isOlder present =>
      rw [plan_of_older notNew isOlder] at planned
      cases table with
      | missing => exact absurd rfl present
      | withoutModes crashes =>
          cases planned
          exact ⟨_, rfl, .older notNew isOlder (by simp)⟩
      | withModes crashes =>
          cases planned
          exact ⟨_, rfl, .current crashes⟩
  | current crashes => cases planned

theorem Updatable.foldlM {store : CrashStore} (updatable : Updatable store)
    {done undone : List MigrationStep} (planned : store.plan = done ++ undone) :
    ∃ cutOff, done.foldlM CrashStore.applyStep store = .ok cutOff ∧ Updatable cutOff := by
  induction done generalizing store with
  | nil => exact ⟨store, rfl, updatable⟩
  | cons step done ih =>
      obtain ⟨next, stepped, updatableNext⟩ := updatable.applyStep planned
      obtain ⟨cutOff, committed, updatableRest⟩ :=
        ih updatableNext (plan_of_applyStep planned stepped)
      refine ⟨cutOff, ?_, updatableRest⟩
      rw [List.foldlM_cons, stepped]
      exact committed

/-- Where nothing is left to do, the store has the layout of version 2. -/
theorem Updatable.eq_upToDate {store : CrashStore} (updatable : Updatable store)
    (nothing : store.plan = []) : store = store.upToDate := by
  cases updatable with
  | new table => cases nothing
  | @older version table notNew isOlder present =>
      rw [plan_of_older notNew isOlder] at nothing
      cases table <;> cases nothing
  | current crashes => simp [upToDate, CrashTable.entries, Function.comp_def]

/-! ## Opening -/

theorem opened_eq_foldlM {store : CrashStore} (notLater : store.version ≤ currentVersion) :
    store.opened = store.plan.foldlM applyStep store := by
  rw [opened, if_neg (Int.not_lt.mpr notLater), migrate_eq_foldlM]

theorem opened_of_current {store : CrashStore} (current : store.version = currentVersion) :
    store.opened = .ok store := by
  have nothing : store.plan = [] := by simp [plan, current, currentVersion]
  rw [opened_eq_foldlM (Int.le_of_eq current), nothing]
  rfl

theorem Updatable.opened {store : CrashStore} (updatable : Updatable store) :
    store.opened = .ok store.upToDate := by
  have whole := (List.append_nil store.plan).symm
  obtain ⟨final, committed, updatableFinal⟩ := updatable.foldlM whole
  have nothing := plan_of_foldlM whole committed
  rw [opened_eq_foldlM updatable.version_le, committed, updatableFinal.eq_upToDate nothing,
    upToDate_of_foldlM committed]

/--
Opening a store does the steps of its plan.  It keeps every row with its number and its fields, gives
the rows of the old layout the mode that was the only one, and changes nothing when it is done again.
Wherever a run is cut off, opening what it left leads to the same store.
-/
theorem opening_keeps_rows_and_resumes {store : CrashStore} (updatable : Updatable store) :
    store.opened = store.plan.foldlM applyStep store ∧
    store.opened = .ok store.upToDate ∧
    store.upToDate.opened = .ok store.upToDate ∧
    ∀ done undone, store.plan = done ++ undone →
      ∃ cutOff, done.foldlM applyStep store = .ok cutOff ∧
        cutOff.opened = .ok store.upToDate := by
  refine ⟨opened_eq_foldlM updatable.version_le, updatable.opened, opened_of_current rfl, ?_⟩
  intro done undone planned
  obtain ⟨cutOff, committed, updatableRest⟩ := updatable.foldlM planned
  refine ⟨cutOff, committed, ?_⟩
  rw [updatableRest.opened, upToDate_of_foldlM committed]

def formerCrash : StoredCrash :=
  { id := 7
    major := 0x0a0b0c0d
    minor := 0x01020304
    architecture := "x86"
    faultAddress := -4096
    instruction := "00401000 8b08 mov ecx,dword ptr [eax]"
    taintedInputs := "[\"eax\"]"
    status := "completed"
    recordedAt := "2024-03-01T12:00:00+00:00" }

theorem formerCrash_survives_cut_off_update :
    Updatable ⟨1, .withoutModes [formerCrash]⟩ ∧
      plan ⟨1, .withoutModes [formerCrash]⟩ = [.addModes] ++ [.markCurrent] ∧
      ∃ cutOff, List.foldlM applyStep ⟨1, .withoutModes [formerCrash]⟩ [.addModes] = .ok cutOff ∧
        cutOff.version = 1 ∧
        cutOff.opened = .ok ⟨2, .withModes [(formerCrash, "sha256")]⟩ := by
  have updatable : Updatable ⟨1, .withoutModes [formerCrash]⟩ :=
    .older (by decide) (by decide) (by simp)
  have planned : plan ⟨1, .withoutModes [formerCrash]⟩ = [.addModes] ++ [.markCurrent] := rfl
  obtain ⟨cutOff, committed, reopened⟩ :=
    (opening_keeps_rows_and_resumes updatable).2.2.2 _ _ planned
  refine ⟨updatable, planned, cutOff, committed, ?_, reopened⟩
  cases committed
  rfl

end CrashStore

end FaultTriage
