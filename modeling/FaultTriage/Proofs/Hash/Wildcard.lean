import Mathlib.Data.List.Infix
import FaultTriage.Hash.Exclusion

/-!
# Wildcard patterns match what they stand for

A search succeeds when the text that is left matches the pattern that is left, or when it does so
after the last `*` has absorbed more.  Since the last `*`, each byte of the pattern has passed one
byte of the text, so a match in which an earlier `*` absorbs more would leave a shorter end of the
text for the pattern that is left, and a later `*` absorbs the difference.  Therefore a search may
forget every `*` but the last, and its steps neither lose a match nor invent one.
-/

set_option autoImplicit false

namespace FaultTriage.Glob

/-! ## What a pattern stands for, read off its first byte -/

theorem matches_nil_iff {text : List UInt8} : Matches [] text ↔ text = [] := by
  constructor
  · rintro ⟨⟩
    rfl
  · rintro rfl
    exact .nil

theorem matches_star_iff {pattern text : List UInt8} :
    Matches (star :: pattern) text ↔ ∃ rest, rest <:+ text ∧ Matches pattern rest := by
  constructor
  · intro found
    cases found with
    | run absorbed matched => exact ⟨_, List.suffix_append _ _, matched⟩
    | letter notStar => exact absurd rfl notStar
  · rintro ⟨rest, ⟨absorbed, rfl⟩, matched⟩
    exact .run absorbed matched

theorem matches_cons_iff {symbol : UInt8} {pattern text : List UInt8} (notStar : symbol ≠ star) :
    Matches (symbol :: pattern) text ↔
      ∃ byte rest, text = byte :: rest ∧ standsFor symbol byte = true ∧ Matches pattern rest := by
  constructor
  · intro found
    cases found with
    | run => exact absurd rfl notStar
    | any byte matched => exact ⟨byte, _, rfl, by simp [standsFor], matched⟩
    | letter _ _ same matched => exact ⟨_, _, rfl, by simp [standsFor, same], matched⟩
  · rintro ⟨byte, rest, rfl, fits, matched⟩
    by_cases isAny : symbol = question
    · subst isAny
      exact .any byte matched
    · simp only [standsFor, Bool.or_eq_true, beq_iff_eq, isAny, false_or] at fits
      exact .letter notStar isAny fits matched

theorem matches_empty_iff {pattern : List UInt8} :
    Matches pattern [] ↔ pattern.all (· == star) = true := by
  induction pattern with
  | nil => simp [matches_nil_iff]
  | cons symbol pattern ih =>
      by_cases isStar : symbol = star
      · subst isStar
        simp [matches_star_iff, ih]
      · simp [matches_cons_iff isStar, isStar]

/-- A `*` can absorb more than it does. -/
theorem Matches.of_suffix {pattern rest text : List UInt8} (matched : Matches (star :: pattern) rest)
    (ends : rest <:+ text) : Matches (star :: pattern) text := by
  obtain ⟨shorter, within, found⟩ := matches_star_iff.mp matched
  exact matches_star_iff.mpr ⟨shorter, within.trans ends, found⟩

theorem Matches.split {passed pattern text : List UInt8} (plain : star ∉ passed)
    (matched : Matches (passed ++ pattern) text) :
    ∃ rest, rest <:+ text ∧ rest.length + passed.length = text.length ∧ Matches pattern rest := by
  induction passed generalizing text with
  | nil => exact ⟨text, List.suffix_refl _, rfl, matched⟩
  | cons symbol passed ih =>
      rw [List.mem_cons, not_or] at plain
      obtain ⟨byte, later, rfl, _, found⟩ := (matches_cons_iff (Ne.symm plain.1)).mp matched
      obtain ⟨rest, ends, lengths, matchedRest⟩ := ih plain.2 found
      refine ⟨rest, ends.trans (List.suffix_cons _ _), ?_, matchedRest⟩
      simp only [List.length_cons]
      omega

/-! ## Searches -/

namespace Search

/-- The text that is left matches, or does so once the last `*` absorbs more. -/
def Succeeds (search : Search) : Prop :=
  Matches search.pattern search.text ∨
    ∃ fallback ∈ search.fallback, Matches (star :: fallback.pattern) fallback.text.tail

/-- Since the last `*` pattern and text have been passed byte by byte. -/
def Aligned (search : Search) : Prop :=
  ∀ fallback ∈ search.fallback, ∃ passed consumed,
    fallback.pattern = passed ++ search.pattern ∧ fallback.text = consumed ++ search.text ∧
      passed.length = consumed.length ∧ star ∉ passed

/-- However much the last `*` absorbs, the pattern that is left gets no more than the text left. -/
theorem Succeeds.exists_suffix {search : Search} (succeeds : search.Succeeds)
    (aligned : search.Aligned) :
    ∃ rest, rest <:+ search.text ∧ Matches search.pattern rest := by
  rcases succeeds with matched | ⟨fallback, found, matched⟩
  · exact ⟨search.text, List.suffix_refl _, matched⟩
  · obtain ⟨passed, consumed, isPattern, isText, lengths, plain⟩ := aligned fallback found
    obtain ⟨later, laterEnds, matchedLater⟩ := matches_star_iff.mp matched
    rw [isPattern] at matchedLater
    obtain ⟨rest, restEnds, restLength, matchedRest⟩ := matchedLater.split plain
    refine ⟨rest, ?_, matchedRest⟩
    have within : rest <:+ fallback.text :=
      restEnds.trans (laterEnds.trans (List.tail_suffix _))
    have bound := laterEnds.length_le
    rw [isText] at within bound
    refine List.suffix_of_suffix_length_le within (List.suffix_append _ _) ?_
    simp only [List.length_tail, List.length_append] at bound
    omega

theorem Stuck.not_matches {search : Search} (stuck : search.Stuck) (unread : search.text ≠ []) :
    ¬ Matches search.pattern search.text := by
  obtain ⟨pattern, text, fallback⟩ := search
  cases pattern with
  | nil => exact fun matched => unread (matches_nil_iff.mp matched)
  | cons symbol pattern =>
      cases text with
      | nil => exact absurd rfl unread
      | cons byte text =>
          obtain ⟨notStar, misfit⟩ := stuck symbol pattern byte text rfl rfl
          intro matched
          obtain ⟨_, _, same, fits, _⟩ := (matches_cons_iff notStar).mp matched
          cases same
          exact absurd fits (by simp [misfit])

theorem aligned_of_step {search next : Search} (aligned : search.Aligned)
    (stepped : search.step = some next) : next.Aligned := by
  rcases search.step_cases with ⟨pattern, _, _, _, _, passed⟩ |
      ⟨symbol, pattern, byte, text, isSymbol, isByte, notStar, _, passed⟩ | ⟨_, passed⟩
  · cases passed.symm.trans stepped
    rintro _ ⟨⟩
    exact ⟨[], [], rfl, rfl, rfl, List.not_mem_nil⟩
  · cases passed.symm.trans stepped
    intro fallback found
    obtain ⟨before, consumed, isPattern, isText, lengths, plain⟩ := aligned fallback found
    refine ⟨before ++ [symbol], consumed ++ [byte], ?_, ?_, ?_, ?_⟩
    · simp [isPattern, isSymbol]
    · simp [isText, isByte]
    · simp [lengths]
    · simp [plain, Ne.symm notStar]
  · obtain ⟨pattern, _, text, _, rfl⟩ := eq_some_of_retry (passed.symm.trans stepped)
    rintro _ ⟨⟩
    exact ⟨[], [], rfl, rfl, rfl, List.not_mem_nil⟩

/-- A search that has just passed a `*` succeeds exactly if the `*` can absorb enough. -/
theorem succeeds_after_star {pattern text : List UInt8} :
    Succeeds ⟨pattern, text, some ⟨pattern, text⟩⟩ ↔ Matches (star :: pattern) text := by
  simp only [Succeeds, Option.mem_some_iff, exists_eq_left']
  constructor
  · rintro (matched | matched)
    · exact matches_star_iff.mpr ⟨text, List.suffix_refl _, matched⟩
    · exact matched.of_suffix (List.tail_suffix _)
  · intro matched
    obtain ⟨rest, ends, matchedRest⟩ := matches_star_iff.mp matched
    cases text with
    | nil => exact .inl (List.suffix_nil.mp ends ▸ matchedRest)
    | cons byte text =>
        rcases List.suffix_cons_iff.mp ends with rfl | shorter
        · exact .inl matchedRest
        · exact .inr (matches_star_iff.mpr ⟨rest, shorter, matchedRest⟩)

/-- A step neither loses a match nor invents one. -/
theorem succeeds_iff_of_step {search next : Search} (aligned : search.Aligned)
    (unread : search.text ≠ []) (stepped : search.step = some next) :
    search.Succeeds ↔ next.Succeeds := by
  rcases search.step_cases with ⟨pattern, _, _, isStar, _, passed⟩ |
      ⟨symbol, pattern, byte, text, isSymbol, isByte, notStar, fits, passed⟩ | ⟨stuck, passed⟩
  · cases passed.symm.trans stepped
    rw [succeeds_after_star]
    constructor
    · -- Whatever an earlier `*` would absorb, this one can.
      intro succeeds
      obtain ⟨rest, ends, matched⟩ := succeeds.exists_suffix aligned
      rw [isStar] at matched
      exact matched.of_suffix ends
    · intro matched
      exact .inl (isStar ▸ matched)
  · cases passed.symm.trans stepped
    have same : Matches search.pattern search.text ↔ Matches pattern text := by
      rw [isSymbol, isByte, matches_cons_iff notStar]
      simp [fits]
    exact or_congr_left same
  · obtain ⟨pattern, byte, text, found, rfl⟩ := eq_some_of_retry (passed.symm.trans stepped)
    rw [succeeds_after_star]
    simp [Succeeds, stuck.not_matches unread, found]

theorem not_succeeds_of_step_none {search : Search} (aligned : search.Aligned)
    (unread : search.text ≠ []) (failed : search.step = none) : ¬ search.Succeeds := by
  rcases search.step_cases with ⟨_, _, _, _, _, passed⟩ | ⟨_, _, _, _, _, _, _, _, passed⟩ |
      ⟨stuck, passed⟩
  · cases passed.symm.trans failed
  · cases passed.symm.trans failed
  · rintro (matched | ⟨fallback, found, _⟩)
    · exact stuck.not_matches unread matched
    · -- The last `*` has text left to absorb, so the search could have gone back to it.
      obtain ⟨_, consumed, _, isText, _, _⟩ := aligned fallback found
      obtain ⟨pattern, text⟩ := fallback
      rw [Option.mem_def] at found
      cases text with
      | nil => exact unread (List.append_eq_nil_iff.mp isText.symm).2
      | cons byte text => simp [passed, retry, found] at failed

theorem run_iff_succeeds (search : Search) (aligned : search.Aligned) :
    search.run = true ↔ search.Succeeds := by
  fun_induction run search with
  | case1 search done =>
      have isEmpty := List.isEmpty_iff.mp done
      rw [← matches_empty_iff]
      constructor
      · intro matched
        exact .inl (isEmpty ▸ matched)
      · intro succeeds
        obtain ⟨rest, ends, matched⟩ := succeeds.exists_suffix aligned
        rw [isEmpty, List.suffix_nil] at ends
        exact ends ▸ matched
  | case2 search unread failed =>
      rw [List.isEmpty_iff] at unread
      exact iff_of_false Bool.false_ne_true (not_succeeds_of_step_none aligned unread failed)
  | case3 search unread next stepped ih =>
      rw [List.isEmpty_iff] at unread
      rw [succeeds_iff_of_step aligned unread stepped]
      exact ih (aligned_of_step aligned stepped)

end Search

theorem isMatch_iff (pattern text : String) :
    isMatch pattern text = true ↔ Matches (Text.bytes pattern) (Text.bytes text) := by
  have aligned : Search.Aligned ⟨Text.bytes pattern, Text.bytes text, none⟩ := by
    rintro _ ⟨⟩
  rw [isMatch, matchesBytes, Search.run_iff_succeeds _ aligned]
  simp [Search.Succeeds]

/--
The search ends for every pattern and text and finds exactly the matches.  A symbol is excluded
exactly if a built-in or a further pattern matches it.
-/
theorem isMatch_iff_and_excludes_iff :
    (∀ pattern text : String,
      isMatch pattern text = true ↔ Matches (Text.bytes pattern) (Text.bytes text)) ∧
    ∀ (list : ExclusionList) (symbol : String),
      list.excludes symbol = true ↔
        ∃ pattern, (pattern ∈ ExclusionList.builtIn ∨ pattern ∈ list.extra) ∧
          Matches (Text.bytes pattern) (Text.bytes symbol) := by
  refine ⟨isMatch_iff, fun list symbol => ?_⟩
  simp only [ExclusionList.excludes, Bool.or_eq_true, List.any_eq_true, isMatch_iff, or_and_right,
    exists_or]

/-- The second `*` has to absorb a `b` that it could have left to the pattern. -/
example : isMatch "n*!a*b?c" "N1!aab2b3C" = true := by cbv

end FaultTriage.Glob
