import Mathlib.Algebra.BigOperators.Group.List.Lemmas
import Mathlib.Algebra.GroupWithZero.Nat
import Mathlib.Data.Prod.Lex
import Mathlib.Data.Set.List
import Mathlib.Data.String.Basic
import Mathlib.Order.Bounds.Basic
import FaultTriage.Proofs.CrashStore.History

/-!
# Buckets partition the recordings

Every recording belongs to the bucket of its pair of halves and its hash mode.  The list of buckets
of a store has one summary for each bucket that was recorded to, which tells how many recordings the
bucket has and when it was seen, and it is ordered by size and then by the halves as unsigned words.
-/

set_option autoImplicit false

namespace FaultTriage

structure Bucket where
  pair : HashPair
  mode : HashMode
deriving DecidableEq

def Recording.bucket (recording : Recording) : Bucket :=
  ⟨recording.pair, recording.mode⟩

theorem HashMode.name_inj {left right : HashMode} : left.name = right.name ↔ left = right := by
  cases left <;> cases right <;> decide

namespace CrashStore

/-! ## Keys -/

theorem toInt_storedHalf (half : UInt32) : (storedHalf half).toInt = half.toNat := by
  have bounded := half.toNat_lt
  have same : (storedHalf half).toBitVec = half.toUInt64.toBitVec := rfl
  rw [← Int64.toInt_toBitVec, same, BitVec.toInt_eq_toNat_of_lt]
  · simp
  · simp only [UInt64.toNat_toBitVec, UInt32.toNat_toUInt64]
    omega

def keyFor (bucket : Bucket) : BucketKey :=
  ⟨storedHalf bucket.pair.major, storedHalf bucket.pair.minor, bucket.mode.name⟩

theorem keyFor_injective : Function.Injective keyFor := by
  intro left right same
  simp only [keyFor, BucketKey.mk.injEq, storedHalf_inj, HashMode.name_inj] at same
  obtain ⟨major, minor, mode⟩ := same
  cases left with
  | mk pair mode =>
      cases right with
      | mk otherPair otherMode =>
          cases pair
          cases otherPair
          simp_all

theorem keyOf_row (recording : Recording) (id : Nat) :
    keyOf (recording.row id) = keyFor recording.bucket := rfl

theorem map_keyOf_rowsOf (history : List Recording) :
    (rowsOf history).map keyOf = history.map fun recording => keyFor recording.bucket := by
  have all := map_filter_numbered history (fun _ => true) fun recording => keyFor recording.bucket
  simpa [rowsOf, Function.comp_def, keyOf_row] using all

/-! ## Summaries -/

def timesOf (history : List Recording) (bucket : Bucket) : List String :=
  (history.filter (·.bucket = bucket)).map (·.moment.render)

def summaryOf (history : List Recording) (bucket : Bucket) : BucketSummary :=
  { pair := bucket.pair
    hashMode := bucket.mode.name
    count := history.countP (·.bucket = bucket)
    firstSeen := select lesser (timesOf history bucket)
    lastSeen := select greater (timesOf history bucket) }

def rowsWith (rows : List (StoredCrash × String)) (key : BucketKey) : BucketRows :=
  ⟨key, rows.filter (keyOf · == key)⟩

@[simp] theorem key_rowsWith (rows : List (StoredCrash × String)) (key : BucketKey) :
    (rowsWith rows key).key = key := rfl

theorem recordedAt_rowsWith (history : List Recording) (bucket : Bucket) :
    (rowsWith (rowsOf history) (keyFor bucket)).rows.map (·.1.recordedAt) =
      timesOf history bucket := by
  simp only [rowsWith, rowsOf, List.filter_map, List.map_map, Function.comp_def, keyOf_row,
    beq_eq_decide, keyFor_injective.eq_iff]
  exact map_filter_numbered history (·.bucket = bucket) (·.moment.render)

theorem length_rowsWith (history : List Recording) (bucket : Bucket) :
    (rowsWith (rowsOf history) (keyFor bucket)).rows.length =
      history.countP (·.bucket = bucket) := by
  have times := congrArg List.length (recordedAt_rowsWith history bucket)
  rwa [List.length_map, timesOf, List.length_map, ← List.countP_eq_length_filter] at times

theorem summary_rowsWith (history : List Recording) (bucket : Bucket) :
    (rowsWith (rowsOf history) (keyFor bucket)).summary = summaryOf history bucket := by
  simp only [BucketRows.summary, recordedAt_rowsWith, length_rowsWith]
  simp [rowsWith, keyFor, summaryOf, readHalf_storedHalf]

/-! ## Order -/

def BucketRows.rank (bucket : BucketRows) : ℕᵒᵈ ×ₗ ℤ ×ₗ ℤ ×ₗ String :=
  toLex (OrderDual.toDual bucket.rows.length,
    toLex (bucket.key.major.toInt, toLex (bucket.key.minor.toInt, bucket.key.hashMode)))

theorem BucketRows.mayPrecede_iff (left right : BucketRows) :
    left.mayPrecede right = true ↔ left.rank ≤ right.rank := by
  unfold mayPrecede rank
  simp only [Prod.Lex.toLex_le_toLex, OrderDual.toDual_lt_toDual, OrderDual.toDual_inj,
    Int64.toInt_inj, ← Int64.lt_iff_toInt_lt]
  by_cases size : left.rows.length = right.rows.length
  · by_cases major : left.key.major = right.key.major
    · by_cases minor : left.key.minor = right.key.minor
      · simp [size, major, minor]
      · simp [size, major, minor]
    · simp [size, major]
  · simp [size]

theorem pairwise_rank_mergeSort (buckets : List BucketRows) :
    (buckets.mergeSort BucketRows.mayPrecede).Pairwise fun left right => left.rank ≤ right.rank := by
  have transitive : ∀ first second third : BucketRows,
      first.mayPrecede second → second.mayPrecede third → first.mayPrecede third := by
    intro first second third
    simp only [BucketRows.mayPrecede_iff]
    exact le_trans
  have total : ∀ left right : BucketRows, left.mayPrecede right || right.mayPrecede left := by
    intro left right
    simp only [Bool.or_eq_true, BucketRows.mayPrecede_iff]
    exact le_total _ _
  have sorted := List.pairwise_mergeSort transitive total buckets
  exact sorted.imp fun ordered => (BucketRows.mayPrecede_iff _ _).mp ordered

theorem nodup_eraseDups (keys : List BucketKey) : keys.eraseDups.Nodup := by
  cases keys with
  | nil => simp
  | cons key rest =>
      rw [List.eraseDups_cons, List.nodup_cons, List.mem_eraseDups]
      exact ⟨by simp, nodup_eraseDups _⟩
termination_by keys.length
decreasing_by exact Nat.lt_succ_of_le (List.length_filter_le _ _)

theorem map_key_grouped (rows : List (StoredCrash × String)) :
    (grouped rows).map (·.key) = (rows.map keyOf).eraseDups := by
  simp [grouped, Function.comp_def]

theorem exists_key_order (rows : List (StoredCrash × String)) :
    ∃ keys : List BucketKey, keys.Nodup ∧ (∀ key, key ∈ keys ↔ key ∈ rows.map keyOf) ∧
      (grouped rows).mergeSort BucketRows.mayPrecede = keys.map (rowsWith rows) := by
  have permuted := List.mergeSort_perm (grouped rows) BucketRows.mayPrecede
  have keys := permuted.map (·.key)
  rw [map_key_grouped] at keys
  refine ⟨_, keys.nodup_iff.mpr (nodup_eraseDups _), ?_, ?_⟩
  · intro key
    rw [keys.mem_iff, List.mem_eraseDups]
  · have determined : ∀ bucket ∈ (grouped rows).mergeSort BucketRows.mayPrecede,
        rowsWith rows bucket.key = bucket := by
      intro bucket member
      obtain ⟨key, _, rfl⟩ := List.mem_map.mp (permuted.mem_iff.mp member)
      rfl
    rw [List.map_map]
    exact ((List.map_congr_left determined).trans (List.map_id _)).symm

/-- The order of the list: larger buckets first, then lesser halves first. -/
def Precedes (left right : BucketSummary) : Prop :=
  right.count < left.count ∨ left.count = right.count ∧
    (left.pair.major < right.pair.major ∨ left.pair.major = right.pair.major ∧
      left.pair.minor ≤ right.pair.minor)

theorem rank_rowsWith (history : List Recording) (bucket : Bucket) :
    (rowsWith (rowsOf history) (keyFor bucket)).rank =
      toLex (OrderDual.toDual (summaryOf history bucket).count,
        toLex ((bucket.pair.major.toNat : ℤ),
          toLex ((bucket.pair.minor.toNat : ℤ), bucket.mode.name))) := by
  rw [BucketRows.rank, length_rowsWith, key_rowsWith]
  simp only [keyFor, toInt_storedHalf, summaryOf]

theorem precedes_of_rank_le {history : List Recording} {left right : Bucket}
    (ordered : (rowsWith (rowsOf history) (keyFor left)).rank ≤
      (rowsWith (rowsOf history) (keyFor right)).rank) :
    Precedes (summaryOf history left) (summaryOf history right) := by
  rw [rank_rowsWith, rank_rowsWith] at ordered
  simp only [Prod.Lex.toLex_le_toLex, OrderDual.toDual_lt_toDual, OrderDual.toDual_inj] at ordered
  simp only [Precedes, UInt32.lt_iff_toNat_lt, UInt32.le_iff_toNat_le, ← UInt32.toNat_inj]
  have leftPair : (summaryOf history left).pair = left.pair := rfl
  have rightPair : (summaryOf history right).pair = right.pair := rfl
  rw [leftPair, rightPair]
  omega

structure Enumerates (order : List Bucket) (history : List Recording) : Prop where
  distinct : order.Nodup
  mem_iff : ∀ bucket, bucket ∈ order ↔ ∃ recording ∈ history, recording.bucket = bucket

/-- The buckets are listed in some order, each described by its recordings. -/
theorem buckets_of_rows {store : CrashStore} {history : List Recording}
    (kept : store.rows = .ok (rowsOf history)) :
    ∃ order, Enumerates order history ∧
      store.buckets = .ok (order.map (summaryOf history)) ∧
      (order.map (summaryOf history)).Pairwise Precedes := by
  obtain ⟨keys, distinct, members, sorted⟩ := exists_key_order (rowsOf history)
  rw [map_keyOf_rowsOf] at members
  -- Rows of recordings have keys of buckets only, so the order of keys is an order of buckets.
  have named : keys ∈ Set.range (List.map keyFor) := by
    rw [Set.range_list_map]
    intro key member
    obtain ⟨recording, _, same⟩ := List.mem_map.mp ((members key).mp member)
    exact ⟨recording.bucket, same⟩
  obtain ⟨order, rfl⟩ := named
  refine ⟨order, ⟨distinct.of_map _, ?_⟩, ?_, ?_⟩
  · intro bucket
    have member := members (keyFor bucket)
    rw [List.mem_map_of_injective keyFor_injective] at member
    rw [member]
    simp [keyFor_injective.eq_iff]
  · simp only [buckets, kept, Except.map, sorted, List.map_map, Function.comp_def, summary_rowsWith]
  · have ranked := pairwise_rank_mergeSort (grouped (rowsOf history))
    rw [sorted, List.map_map, List.pairwise_map] at ranked
    rw [List.pairwise_map]
    exact ranked.imp precedes_of_rank_le

/-! ## Times -/

theorem select_first {choice : String → String → String} (before : String → String → Prop)
    (refl : ∀ text, before text text)
    (trans : ∀ {first second third}, before first second → before second third →
      before first third)
    (takes : ∀ left right, choice left right = left ∧ before left right ∨
      choice left right = right ∧ before right left)
    {texts : List String} (present : texts ≠ []) :
    select choice texts ∈ texts ∧ ∀ text ∈ texts, before (select choice texts) text := by
  cases texts with
  | nil => exact absurd rfl present
  | cons first rest =>
      simp only [select]
      clear present
      induction rest generalizing first with
      | nil => simp [refl]
      | cons next others ih =>
          obtain ⟨member, least⟩ := ih (choice first next)
          rw [List.forall_mem_cons] at least
          rw [List.foldl_cons, List.forall_mem_cons, List.forall_mem_cons]
          -- What is found comes before the side that was taken, and so before the other one.
          cases takes first next with
          | inl left =>
              obtain ⟨same, ordered⟩ := left
              rw [same] at member least ⊢
              have kept := List.cons_subset_cons first (List.subset_cons_self next others) member
              exact ⟨kept, least.1, trans least.1 ordered, least.2⟩
          | inr right =>
              obtain ⟨same, ordered⟩ := right
              rw [same] at member least ⊢
              exact ⟨List.mem_cons_of_mem _ member, trans least.1 ordered, least.1, least.2⟩

theorem isLeast_select_lesser {texts : List String} (present : texts ≠ []) :
    IsLeast {text | text ∈ texts} (select lesser texts) := by
  refine select_first (· ≤ ·) le_refl le_trans ?_ present
  intro left right
  by_cases ordered : left ≤ right
  · exact .inl ⟨if_pos ordered, ordered⟩
  · exact .inr ⟨if_neg ordered, (not_le.mp ordered).le⟩

theorem isGreatest_select_greater {texts : List String} (present : texts ≠ []) :
    IsGreatest {text | text ∈ texts} (select greater texts) := by
  refine select_first (· ≥ ·) le_refl (fun first second => le_trans second first) ?_ present
  intro left right
  by_cases ordered : left ≤ right
  · exact .inr ⟨if_pos ordered, ordered⟩
  · exact .inl ⟨if_neg ordered, (not_le.mp ordered).le⟩

/-! ## The partition -/

def IsAbout (bucket : Bucket) (summary : BucketSummary) : Prop :=
  summary.pair = bucket.pair ∧ summary.hashMode = bucket.mode.name

instance (bucket : Bucket) (summary : BucketSummary) : Decidable (IsAbout bucket summary) :=
  inferInstanceAs (Decidable (_ ∧ _))

/-- Summaries that tell all there is to tell about the buckets of a history. -/
structure Partitions (history : List Recording) (summaries : List BucketSummary) : Prop where
  once : ∀ recording ∈ history, summaries.countP (IsAbout recording.bucket) = 1
  only : ∀ summary ∈ summaries, ∃ recording ∈ history, IsAbout recording.bucket summary
  count : ∀ summary ∈ summaries, ∀ bucket, IsAbout bucket summary →
    summary.count = history.countP (·.bucket = bucket)
  total : (summaries.map (·.count)).sum = history.length
  first : ∀ summary ∈ summaries, ∀ bucket, IsAbout bucket summary →
    IsLeast {time | ∃ recording ∈ history, recording.bucket = bucket ∧
      recording.moment.render = time} summary.firstSeen
  last : ∀ summary ∈ summaries, ∀ bucket, IsAbout bucket summary →
    IsGreatest {time | ∃ recording ∈ history, recording.bucket = bucket ∧
      recording.moment.render = time} summary.lastSeen
  ordered : summaries.Pairwise Precedes

theorem isAbout_summaryOf_iff {history : List Recording} {bucket other : Bucket} :
    IsAbout bucket (summaryOf history other) ↔ other = bucket := by
  obtain ⟨pair, mode⟩ := bucket
  obtain ⟨otherPair, otherMode⟩ := other
  simp [IsAbout, summaryOf, HashMode.name_inj]

theorem mem_timesOf {history : List Recording} {bucket : Bucket} {time : String} :
    time ∈ timesOf history bucket ↔
      ∃ recording ∈ history, recording.bucket = bucket ∧ recording.moment.render = time := by
  simp [timesOf, and_assoc]

theorem timesOf_ne_nil {history : List Recording} {bucket : Bucket}
    (seen : ∃ recording ∈ history, recording.bucket = bucket) : timesOf history bucket ≠ [] := by
  obtain ⟨recording, member, same⟩ := seen
  exact List.ne_nil_of_mem (mem_timesOf.mpr ⟨recording, member, same, rfl⟩)

theorem isLeast_firstSeen {history : List Recording} {bucket : Bucket}
    (seen : ∃ recording ∈ history, recording.bucket = bucket) :
    IsLeast {time | ∃ recording ∈ history, recording.bucket = bucket ∧
      recording.moment.render = time} (summaryOf history bucket).firstSeen := by
  have least := isLeast_select_lesser (timesOf_ne_nil seen)
  simp only [mem_timesOf] at least
  exact least

theorem isGreatest_lastSeen {history : List Recording} {bucket : Bucket}
    (seen : ∃ recording ∈ history, recording.bucket = bucket) :
    IsGreatest {time | ∃ recording ∈ history, recording.bucket = bucket ∧
      recording.moment.render = time} (summaryOf history bucket).lastSeen := by
  have greatest := isGreatest_select_greater (timesOf_ne_nil seen)
  simp only [mem_timesOf] at greatest
  exact greatest

theorem countP_isAbout_summaries (history : List Recording) (order : List Bucket)
    (bucket : Bucket) :
    (order.map (summaryOf history)).countP (IsAbout bucket) = order.count bucket := by
  rw [List.countP_map, List.count_eq_countP]
  refine List.countP_congr fun other _ => ?_
  simp [isAbout_summaryOf_iff]

theorem sum_count_summaries {history : List Recording} {order : List Bucket}
    (enumerates : Enumerates order history) (selects : Bucket → Bool) :
    ((order.filter selects).map fun bucket => (summaryOf history bucket).count).sum =
      history.countP fun recording => selects recording.bucket := by
  have permuted : order.Perm (history.map Recording.bucket).dedup := by
    rw [List.perm_ext_iff_of_nodup enumerates.distinct (List.nodup_dedup _)]
    intro bucket
    rw [enumerates.mem_iff, List.mem_dedup, List.mem_map]
  have counts : ∀ bucket, (summaryOf history bucket).count =
      (history.map Recording.bucket).count bucket := by
    intro bucket
    rw [List.count_eq_countP, List.countP_map]
    rfl
  calc ((order.filter selects).map fun bucket => (summaryOf history bucket).count).sum
      = (((history.map Recording.bucket).dedup.filter selects).map
          fun bucket => (history.map Recording.bucket).count bucket).sum := by
        simp only [counts]
        exact ((permuted.filter selects).map _).sum_eq
    _ = (history.map Recording.bucket).countP selects :=
        List.sum_map_count_dedup_filter_eq_countP selects _
    _ = history.countP fun recording => selects recording.bucket := List.countP_map ..

theorem partitions_summaries {history : List Recording} {order : List Bucket}
    (enumerates : Enumerates order history)
    (ordered : (order.map (summaryOf history)).Pairwise Precedes) :
    Partitions history (order.map (summaryOf history)) := by
  have described : ∀ summary ∈ order.map (summaryOf history), ∀ bucket, IsAbout bucket summary →
      summary = summaryOf history bucket ∧
        ∃ recording ∈ history, recording.bucket = bucket := by
    intro summary member bucket about
    obtain ⟨listed, present, rfl⟩ := List.mem_map.mp member
    obtain rfl := isAbout_summaryOf_iff.mp about
    exact ⟨rfl, (enumerates.mem_iff _).mp present⟩
  refine
    { once := ?once, only := ?only, count := ?count, total := ?total, first := ?first
      last := ?last, ordered := ordered }
  case once =>
      intro recording member
      rw [countP_isAbout_summaries]
      exact List.count_eq_one_of_mem enumerates.distinct
        ((enumerates.mem_iff _).mpr ⟨recording, member, rfl⟩)
  case only =>
      intro summary member
      obtain ⟨bucket, present, rfl⟩ := List.mem_map.mp member
      obtain ⟨recording, recorded, same⟩ := (enumerates.mem_iff bucket).mp present
      exact ⟨recording, recorded, isAbout_summaryOf_iff.mpr same.symm⟩
  case count =>
      intro summary member bucket about
      obtain ⟨rfl, _⟩ := described summary member bucket about
      rfl
  case total =>
      have whole := sum_count_summaries enumerates fun _ => true
      simpa [Function.comp_def] using whole
  case first =>
      intro summary member bucket about
      obtain ⟨rfl, seen⟩ := described summary member bucket about
      exact isLeast_firstSeen seen
  case last =>
      intro summary member bucket about
      obtain ⟨rfl, seen⟩ := described summary member bucket about
      exact isGreatest_lastSeen seen

theorem buckets_partition_history (history : List Recording) :
    ∃ store ids summaries, ofHistory history = .ok (store, ids) ∧ store.buckets = .ok summaries ∧
      Partitions history summaries := by
  obtain ⟨store, made, kept⟩ := exists_store_ofHistory history
  obtain ⟨order, enumerates, listed, ordered⟩ := buckets_of_rows kept
  exact ⟨store, _, _, made, listed, partitions_summaries enumerates ordered⟩

end CrashStore

end FaultTriage
