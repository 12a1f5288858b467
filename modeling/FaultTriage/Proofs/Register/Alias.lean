import FaultTriage.Register.Family

/-!
# Laws of register aliases

Every name is among the names that it makes suspect and among those that a write to it overwrites,
whether it belongs to a family or not.  What a write overwrites is always suspect with it.  These
laws hold for every architecture, because they only need what the tables are checked for here: no
view is empty, every view starts in the lower 32 bits and ends there or at bit 64, and a name occurs
in one view only.
-/

set_option autoImplicit false

namespace FaultTriage.Register

/-! ## What the tables are checked for -/

private theorem mem_all (architecture : Architecture) : architecture ∈ Architecture.all := by
  cases architecture <;> decide

theorem low_lt_high {architecture : Architecture} {family : Family} {view : View}
    (listed : family ∈ families architecture) (member : view ∈ family) : view.low < view.high := by
  have checked : ∀ architecture ∈ Architecture.all, ∀ family ∈ families architecture,
      ∀ view ∈ family, view.low < view.high := by decide
  exact checked architecture (mem_all architecture) family listed view member

theorem low_lt_word {architecture : Architecture} {family : Family} {view : View}
    (listed : family ∈ families architecture) (member : view ∈ family) : view.low < 32 := by
  have checked : ∀ architecture ∈ Architecture.all, ∀ family ∈ families architecture,
      ∀ view ∈ family, view.low < 32 := by decide
  exact checked architecture (mem_all architecture) family listed view member

theorem high_le_word_or_eq {architecture : Architecture} {family : Family} {view : View}
    (listed : family ∈ families architecture) (member : view ∈ family) :
    view.high ≤ 32 ∨ view.high = 64 := by
  have checked : ∀ architecture ∈ Architecture.all, ∀ family ∈ families architecture,
      ∀ view ∈ family, view.high ≤ 32 ∨ view.high = 64 := by decide
  exact checked architecture (mem_all architecture) family listed view member

theorem findView?_of_mem {architecture : Architecture} {family : Family} {view : View}
    (listed : family ∈ families architecture) (member : view ∈ family) :
    findView? view.name (families architecture) = some (family, view) := by
  have checked : ∀ architecture ∈ Architecture.all, ∀ family ∈ families architecture,
      ∀ view ∈ family, findView? view.name (families architecture) = some (family, view) := by
    decide +kernel
  exact checked architecture (mem_all architecture) family listed view member

theorem nested_of_overlaps {architecture : Architecture} {family : Family} {view other : View}
    (listed : family ∈ families architecture) (member : view ∈ family)
    (otherMember : other ∈ family) (overlaps : other.overlaps view = true) :
    other.within view.low view.high = true ∨ view.within other.low other.high = true := by
  have checked : ∀ architecture ∈ Architecture.all, ∀ family ∈ families architecture,
      ∀ view ∈ family, ∀ other ∈ family, other.overlaps view = true →
        other.within view.low view.high = true ∨ view.within other.low other.high = true := by
    decide
  exact checked architecture (mem_all architecture) family listed view member other otherMember
    overlaps

theorem view_named {architecture : Architecture} {family : Family} {view : View}
    (listed : family ∈ families architecture) (member : view ∈ family) : view.name ≠ "" := by
  have checked : ∀ architecture ∈ Architecture.all, ∀ family ∈ families architecture,
      ∀ view ∈ family, view.name ≠ "" := by decide
  exact checked architecture (mem_all architecture) family listed view member

/-! ## Views found by name -/

private theorem mem_of_findView? {name : Operand} {candidates : List Family} {family : Family}
    {view : View} (found : findView? name candidates = some (family, view)) :
    family ∈ candidates ∧ view ∈ family ∧ view.name = name := by
  induction candidates with
  | nil => cases found
  | cons head rest ih =>
      simp only [findView?] at found
      cases selected : head.find? (·.name == name) with
      | none =>
          rw [selected] at found
          obtain ⟨listed, member, named⟩ := ih found
          exact ⟨List.mem_cons_of_mem _ listed, member, named⟩
      | some candidate =>
          rw [selected] at found
          cases found
          have named := List.find?_some selected
          simp only [beq_iff_eq] at named
          exact ⟨List.mem_cons_self, List.mem_of_find?_eq_some selected, named⟩

theorem findView?_cases (architecture : Architecture) (name : Operand) :
    findView? name (families architecture) = none ∨
      ∃ family ∈ families architecture, ∃ view ∈ family, view.name = name ∧
        findView? name (families architecture) = some (family, view) := by
  cases found : findView? name (families architecture) with
  | none => exact .inl rfl
  | some pair =>
      obtain ⟨family, view⟩ := pair
      obtain ⟨listed, member, named⟩ := mem_of_findView? found
      exact .inr ⟨family, listed, view, member, named, rfl⟩

theorem within_writtenRange (architecture : Architecture) (family : Family) (view : View) :
    (writtenRange architecture family view).1 ≤ view.low ∧
      view.high ≤ (writtenRange architecture family view).2 := by
  unfold writtenRange
  split
  · rename_i extended
    obtain ⟨_, _, high, _⟩ := extended
    exact ⟨Nat.zero_le _, by omega⟩
  · exact ⟨Nat.le_refl _, Nat.le_refl _⟩

/-- A view that shares a bit with what a write overwrites shares one with the view written. -/
theorem overlaps_of_written {architecture : Architecture} {family : Family} {view other : View}
    (listed : family ∈ families architecture) (member : other ∈ family)
    (below : other.low < (writtenRange architecture family view).2)
    (above : (writtenRange architecture family view).1 < other.high) :
    other.overlaps view = true := by
  have start := low_lt_word listed member
  simp only [View.overlaps, Bool.and_eq_true, decide_eq_true_eq]
  by_cases extended : architecture = .x64 ∧ view.low = 0 ∧ view.high = 32 ∧ widest family = 64
  · simp only [writtenRange, if_pos extended] at below above
    obtain ⟨_, low, high, _⟩ := extended
    omega
  · simp only [writtenRange, if_neg extended] at below above
    exact ⟨below, above⟩

/-- A write to a view that another write overwrites does not reach further than that write. -/
theorem writtenRange_subset {architecture : Architecture} {family : Family} {view covered : View}
    (listed : family ∈ families architecture) (member : view ∈ family)
    (above : (writtenRange architecture family view).1 ≤ covered.low)
    (below : covered.high ≤ (writtenRange architecture family view).2) :
    (writtenRange architecture family view).1 ≤ (writtenRange architecture family covered).1 ∧
      (writtenRange architecture family covered).2 ≤ (writtenRange architecture family view).2 := by
  have wide := high_le_word_or_eq listed member
  by_cases narrow :
      architecture = .x64 ∧ covered.low = 0 ∧ covered.high = 32 ∧ widest family = 64
  · simp only [writtenRange, if_pos narrow]
    obtain ⟨x64, low, high, full⟩ := narrow
    by_cases extended : architecture = .x64 ∧ view.low = 0 ∧ view.high = 32 ∧ widest family = 64
    · simp [if_pos extended]
    · -- A view that covers the lower half and is not that half is the whole register.
      simp only [writtenRange, if_neg extended] at above below ⊢
      simp only [x64, full, true_and, and_true, not_and] at extended
      omega
  · rw [writtenRange.eq_def architecture family covered, if_neg narrow]
    exact ⟨above, below⟩

/-! ## Names -/

theorem mem_marked_view {architecture : Architecture} {family : Family} {view : View}
    (found : findView? view.name (families architecture) = some (family, view)) (other : Operand) :
    other ∈ marked architecture view.name ↔
      ∃ sibling ∈ family, sibling.overlaps view = true ∧ sibling.name = other := by
  simp [marked, aliases?, aliasViews, found, and_assoc]

theorem mem_overwritten_view {architecture : Architecture} {family : Family} {view : View}
    (found : findView? view.name (families architecture) = some (family, view)) (other : Operand) :
    other ∈ overwritten architecture view.name ↔
      ∃ covered ∈ family, covered.within (writtenRange architecture family view).1
        (writtenRange architecture family view).2 = true ∧ covered.name = other := by
  simp [overwritten, aliases?, aliasViews, found, and_assoc]

theorem marked_of_findView?_none {architecture : Architecture} {name : Operand}
    (outside : findView? name (families architecture) = none) : marked architecture name = [name] := by
  simp [marked, aliases?, outside]

theorem overwritten_of_findView?_none {architecture : Architecture} {name : Operand}
    (outside : findView? name (families architecture) = none) :
    overwritten architecture name = [name] := by
  simp [overwritten, aliases?, outside]

theorem mem_overwritten_self (architecture : Architecture) (name : Operand) :
    name ∈ overwritten architecture name := by
  rcases findView?_cases architecture name with outside | ⟨family, _, view, member, rfl, found⟩
  · simp [overwritten_of_findView?_none outside]
  · have covers := within_writtenRange architecture family view
    exact (mem_overwritten_view found view.name).mpr
      ⟨view, member, by simpa [View.within] using covers, rfl⟩

theorem mem_marked_of_mem_overwritten {architecture : Architecture} {name other : Operand}
    (covered : other ∈ overwritten architecture name) : other ∈ marked architecture name := by
  rcases findView?_cases architecture name with outside | ⟨family, listed, view, member, rfl, found⟩
  · rw [overwritten_of_findView?_none outside] at covered
    rwa [marked_of_findView?_none outside]
  · obtain ⟨sibling, siblingMember, inside, named⟩ := (mem_overwritten_view found other).mp covered
    have nonempty := low_lt_high listed siblingMember
    simp only [View.within, Bool.and_eq_true, decide_eq_true_eq] at inside
    exact (mem_marked_view found other).mpr ⟨sibling, siblingMember,
      overlaps_of_written listed siblingMember (by omega) (by omega), named⟩

theorem mem_marked_self (architecture : Architecture) (name : Operand) :
    name ∈ marked architecture name :=
  mem_marked_of_mem_overwritten (mem_overwritten_self architecture name)

/-- What becomes suspect with an overwritten name becomes suspect with the name written. -/
theorem mem_marked_of_overwritten_of_marked {architecture : Architecture}
    {name covered other : Operand} (overwrites : covered ∈ overwritten architecture name)
    (suspect : other ∈ marked architecture covered) : other ∈ marked architecture name := by
  rcases findView?_cases architecture name with outside | ⟨family, listed, view, _, rfl, found⟩
  · rw [overwritten_of_findView?_none outside, List.mem_singleton] at overwrites
    exact overwrites ▸ suspect
  · obtain ⟨inner, innerMember, inside, rfl⟩ := (mem_overwritten_view found covered).mp overwrites
    have innerFound := findView?_of_mem listed innerMember
    obtain ⟨sibling, member, overlaps, named⟩ := (mem_marked_view innerFound other).mp suspect
    simp only [View.within, View.overlaps, Bool.and_eq_true, decide_eq_true_eq] at inside overlaps
    exact (mem_marked_view found other).mpr
      ⟨sibling, member, overlaps_of_written listed member (by omega) (by omega), named⟩

theorem mem_marked_comm {architecture : Architecture} {name other : Operand}
    (suspect : other ∈ marked architecture name) : name ∈ marked architecture other := by
  rcases findView?_cases architecture name with outside | ⟨family, listed, view, member, rfl, found⟩
  · rw [marked_of_findView?_none outside, List.mem_singleton] at suspect
    exact suspect ▸ mem_marked_self architecture name
  · obtain ⟨sibling, siblingMember, overlaps, rfl⟩ := (mem_marked_view found other).mp suspect
    refine (mem_marked_view (findView?_of_mem listed siblingMember) view.name).mpr
      ⟨view, member, ?_, rfl⟩
    simp only [View.overlaps, Bool.and_eq_true, decide_eq_true_eq] at overlaps ⊢
    exact ⟨overlaps.2, overlaps.1⟩

/-- Of two names that overlap, a write to one of them overwrites the other. -/
theorem mem_overwritten_of_mem_marked {architecture : Architecture} {name other : Operand}
    (suspect : other ∈ marked architecture name) :
    other ∈ overwritten architecture name ∨ name ∈ overwritten architecture other := by
  rcases findView?_cases architecture name with outside | ⟨family, listed, view, member, rfl, found⟩
  · rw [marked_of_findView?_none outside] at suspect
    rw [overwritten_of_findView?_none outside]
    exact .inl suspect
  · obtain ⟨sibling, siblingMember, overlaps, rfl⟩ := (mem_marked_view found other).mp suspect
    have siblingFound := findView?_of_mem listed siblingMember
    rw [mem_overwritten_view found, mem_overwritten_view siblingFound]
    have viewCovers := within_writtenRange architecture family view
    have siblingCovers := within_writtenRange architecture family sibling
    refine (nested_of_overlaps listed member siblingMember overlaps).imp (fun inside => ?_)
      (fun inside => ?_)
    · refine ⟨sibling, siblingMember, ?_, rfl⟩
      simp only [View.within, Bool.and_eq_true, decide_eq_true_eq] at inside ⊢
      omega
    · refine ⟨view, member, ?_, rfl⟩
      simp only [View.within, Bool.and_eq_true, decide_eq_true_eq] at inside ⊢
      omega

theorem named_of_mem_overwritten {architecture : Architecture} {name other : Operand}
    (covered : other ∈ overwritten architecture name) (different : other ≠ name) : other ≠ "" := by
  rcases findView?_cases architecture name with outside | ⟨family, listed, view, _, rfl, found⟩
  · rw [overwritten_of_findView?_none outside, List.mem_singleton] at covered
    exact absurd covered different
  · obtain ⟨sibling, member, _, rfl⟩ := (mem_overwritten_view found other).mp covered
    exact view_named listed member

/-- Only the lower half of a 32-bit register has both narrower and wider views. -/
theorem half_of_between {architecture : Architecture} {inner name outer : Operand}
    (covered : inner ∈ overwritten architecture name) (narrower : inner ≠ name)
    (covers : name ∈ overwritten architecture outer)
    (wider : outer ∉ overwritten architecture name) :
    ∃ family ∈ families architecture, ∃ view ∈ family,
      view.name = name ∧ view.low = 0 ∧ view.high = 16 := by
  have checked : ∀ architecture ∈ Architecture.all, ∀ family ∈ families architecture,
      ∀ view ∈ family, ∀ inner ∈ overwritten architecture view.name, inner ≠ view.name →
        ∀ outer ∈ family, view.name ∈ overwritten architecture outer.name →
          outer.name ∉ overwritten architecture view.name → view.low = 0 ∧ view.high = 16 := by
    decide +kernel
  rcases findView?_cases architecture name with outside | ⟨family, listed, view, member, rfl, found⟩
  · rw [overwritten_of_findView?_none outside, List.mem_singleton] at covered
    exact absurd covered narrower
  · obtain ⟨outerView, outerMember, _, rfl⟩ := (mem_marked_view found outer).mp
      (mem_marked_comm (mem_marked_of_mem_overwritten covers))
    exact ⟨family, listed, view, member, rfl,
      checked architecture (mem_all architecture) family listed view member inner covered narrower
        outerView outerMember covers wider⟩

end FaultTriage.Register
