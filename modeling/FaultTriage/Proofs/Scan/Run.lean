import Mathlib.Data.List.Induction
import FaultTriage.Scan.Basic

/-!
# Runs of argument text

The words that a reader sees are the maximal runs of characters that are no delimiters.  A run is
given with the text before and after it; reading the text before it gives exactly the tokens before
the one of the run.
-/

set_option autoImplicit false

namespace FaultTriage.Scan

/-- A maximal run of characters that are no delimiters, at its place in a text. -/
structure IsRun (isDelimiter : Char → Bool) (text before word after : List Char) : Prop where
  split : text = before ++ (word ++ after)
  plain : ∀ character ∈ word, isDelimiter character = false
  begins : ∀ character, before.getLast? = some character → isDelimiter character = true
  ends : ∀ character, after.head? = some character → isDelimiter character = true

section

variable {isDelimiter : Char → Bool}

theorem isRun_iff {text before word after : List Char} :
    IsRun isDelimiter text before word after ↔
      text = before ++ (word ++ after) ∧ word.all (!isDelimiter ·) = true ∧
        before.getLast?.all isDelimiter = true ∧ after.head?.all isDelimiter = true := by
  simp only [List.all_eq_true, Bool.not_eq_true', Option.all_eq_true]
  exact ⟨fun run => ⟨run.split, run.plain, run.begins, run.ends⟩,
    fun ⟨split, plain, begins, ends⟩ => ⟨split, plain, begins, ends⟩⟩

instance {text before word after : List Char} :
    Decidable (IsRun isDelimiter text before word after) :=
  decidable_of_iff _ isRun_iff.symm

theorem tokens_eq_nil_iff {text : List Char} : tokens isDelimiter text = [] ↔ text = [] := by
  cases text with
  | nil => simp [tokens]
  | cons character rest =>
      simp only [tokens, reduceCtorEq, iff_false]
      split
      · simp
      · split <;> simp

theorem tokens_cons_delimiter {character : Char} (delimits : isDelimiter character = true)
    (rest : List Char) :
    tokens isDelimiter (character :: rest) = ⟨[], some character⟩ :: tokens isDelimiter rest := by
  simp [tokens, delimits]

theorem tokens_cons_plain {character : Char} (plain : isDelimiter character = false)
    {rest : List Char} {token : Token} {more : List Token}
    (read : tokens isDelimiter rest = token :: more) :
    tokens isDelimiter (character :: rest) = ⟨character :: token.word, token.delimiter⟩ :: more := by
  simp [tokens, plain, read]

theorem tokens_word_append {word : List Char}
    (plain : ∀ character ∈ word, isDelimiter character = false) {delimiter : Char}
    (delimits : isDelimiter delimiter = true) (rest : List Char) :
    tokens isDelimiter (word ++ delimiter :: rest) =
      ⟨word, some delimiter⟩ :: tokens isDelimiter rest := by
  induction word with
  | nil => exact tokens_cons_delimiter delimits rest
  | cons character word ih =>
      have later := ih fun other member => plain other (List.mem_cons_of_mem _ member)
      exact tokens_cons_plain (plain character List.mem_cons_self) later

theorem tokens_word {word : List Char}
    (plain : ∀ character ∈ word, isDelimiter character = false) (spelled : word ≠ []) :
    tokens isDelimiter word = [⟨word, none⟩] := by
  induction word with
  | nil => exact absurd rfl spelled
  | cons character word ih =>
      have isPlain := plain character List.mem_cons_self
      cases word with
      | nil => simp [tokens, isPlain]
      | cons next word =>
          have later := ih (fun other member => plain other (List.mem_cons_of_mem _ member))
            (List.cons_ne_nil _ _)
          exact tokens_cons_plain isPlain later

/-- Text can be cut into tokens part by part where a part ends with a delimiter. -/
theorem tokens_append {left : List Char}
    (ends : ∀ character, left.getLast? = some character → isDelimiter character = true)
    (right : List Char) :
    tokens isDelimiter (left ++ right) = tokens isDelimiter left ++ tokens isDelimiter right := by
  induction left with
  | nil => rfl
  | cons character left ih =>
      cases left with
      | nil =>
          have delimits := ends character rfl
          simp [tokens, delimits]
      | cons next left =>
          have later := ih fun other last => ends other (by rwa [List.getLast?_cons_cons])
          by_cases delimits : isDelimiter character = true
          · rw [List.cons_append, tokens_cons_delimiter delimits, later,
              tokens_cons_delimiter delimits, List.cons_append]
          · rw [Bool.not_eq_true] at delimits
            cases found : tokens isDelimiter (next :: left) with
            | nil => cases tokens_eq_nil_iff.mp found
            | cons token more =>
                have joined : tokens isDelimiter (next :: left ++ right) =
                    token :: (more ++ tokens isDelimiter right) := by
                  rw [later, found, List.cons_append]
                rw [List.cons_append, tokens_cons_plain delimits joined,
                  tokens_cons_plain delimits found, List.cons_append]

theorem foldl_delimiters {Result : Type} (next : Result → Option Char → Result)
    (unchanged : ∀ result character, isDelimiter character = false →
      next result (some character) = result)
    (ended : ∀ result, next result none = result) (text : List Char) (result : Result) :
    (tokens isDelimiter text).foldl (fun result token => next result token.delimiter) result =
      text.foldl (fun result character => next result (some character)) result := by
  induction text generalizing result with
  | nil => rfl
  | cons character rest ih =>
      by_cases delimits : isDelimiter character = true
      · rw [tokens_cons_delimiter delimits, List.foldl_cons, List.foldl_cons, ih]
      · rw [Bool.not_eq_true] at delimits
        rw [List.foldl_cons, unchanged _ _ delimits, ← ih]
        cases found : tokens isDelimiter rest with
        | nil =>
            cases tokens_eq_nil_iff.mp found
            rw [tokens_word (by simpa using delimits) (by simp), List.foldl_cons, ended]
        | cons token more =>
            rw [tokens_cons_plain delimits found]
            rfl

theorem mem_of_mem_tokens {text : List Char} {token : Token} (member : token ∈ tokens isDelimiter text)
    {delimiter : Char} (ended : token.delimiter = some delimiter) : delimiter ∈ text := by
  rw [← text_tokens isDelimiter text]
  refine List.mem_flatMap.mpr ⟨token, member, List.mem_append_right _ ?_⟩
  rw [ended]
  exact List.mem_singleton_self delimiter

theorem exists_lastRun (isDelimiter : Char → Bool) (text : List Char) :
    ∃ before word, IsRun isDelimiter text before word [] := by
  induction text using List.reverseRecOn with
  | nil => exact ⟨[], [], rfl, by simp, by simp, by simp⟩
  | append_singleton text last ih =>
      obtain ⟨before, word, run⟩ := ih
      by_cases delimits : isDelimiter last = true
      · exact ⟨text ++ [last], [], by simp, by simp, by simpa using delimits, by simp⟩
      · rw [Bool.not_eq_true] at delimits
        refine ⟨before, word ++ [last], by simp [run.split], ?_, run.begins, run.ends⟩
        exact List.forall_mem_append.mpr ⟨run.plain, List.forall_mem_singleton.mpr delimits⟩

theorem IsRun.tokens_eq {text before word after : List Char}
    (run : IsRun isDelimiter text before word after) (spelled : word ++ after ≠ []) :
    tokens isDelimiter text =
      tokens isDelimiter before ++ ⟨word, after.head?⟩ :: tokens isDelimiter after.tail := by
  rw [run.split, tokens_append run.begins]
  cases after with
  | nil =>
      rw [List.append_nil] at spelled ⊢
      rw [tokens_word run.plain spelled]
      rfl
  | cons delimiter rest =>
      rw [tokens_word_append run.plain (run.ends delimiter rfl)]
      rfl

theorem IsRun.tokens_tail {text before word after : List Char} {token : Token} {later : List Token}
    (run : IsRun isDelimiter text before word after)
    (found : tokens isDelimiter text = tokens isDelimiter before ++ token :: later) :
    tokens isDelimiter after.tail = later := by
  have spelled : word ++ after ≠ [] := by
    intro nothing
    rw [run.split, nothing, List.append_nil] at found
    simp at found
  rw [run.tokens_eq spelled, List.append_right_inj, List.cons.injEq] at found
  exact found.2

/-- Every token comes from a run, and the tokens before it from the text before the run. -/
theorem exists_isRun {text : List Char} {earlier later : List Token} {token : Token}
    (found : tokens isDelimiter text = earlier ++ token :: later) :
    ∃ before after, IsRun isDelimiter text before token.word after ∧
      tokens isDelimiter before = earlier ∧ after.head? = token.delimiter := by
  induction text generalizing earlier token with
  | nil => simp [tokens] at found
  | cons character rest ih =>
      by_cases delimits : isDelimiter character = true
      · rw [tokens_cons_delimiter delimits] at found
        cases earlier with
        | nil =>
            cases found
            exact ⟨[], character :: rest, ⟨rfl, by simp, by simp, by simpa using delimits⟩, rfl, rfl⟩
        | cons first earlier =>
            rw [List.cons_append, List.cons.injEq] at found
            obtain ⟨rfl, found⟩ := found
            obtain ⟨before, after, run, read, ended⟩ := ih found
            refine ⟨character :: before, after, ⟨by simp [run.split], run.plain, ?_, run.ends⟩, ?_,
              ended⟩
            · intro other last
              cases before with
              | nil =>
                  cases last
                  exact delimits
              | cons => exact run.begins other (by rwa [List.getLast?_cons_cons] at last)
            · rw [tokens_cons_delimiter delimits, read]
      · rw [Bool.not_eq_true] at delimits
        cases read : tokens isDelimiter rest with
        | nil =>
            cases tokens_eq_nil_iff.mp read
            simp only [tokens, delimits, Bool.false_eq_true, if_false] at found
            cases earlier with
            | nil =>
                cases found
                exact ⟨[], [], ⟨rfl, by simpa using delimits, by simp, by simp⟩, rfl, rfl⟩
            | cons => simp at found
        | cons first more =>
            rw [tokens_cons_plain delimits read] at found
            cases earlier with
            | nil =>
                -- The run of the first token starts one character earlier.
                cases found
                obtain ⟨before, after, run, none, ended⟩ := @ih [] first read
                cases tokens_eq_nil_iff.mp none
                exact ⟨[], after, ⟨by simp [run.split], by simpa using ⟨delimits, run.plain⟩,
                  by simp, run.ends⟩, rfl, ended⟩
            | cons second earlier =>
                rw [List.cons_append, List.cons.injEq] at found
                obtain ⟨rfl, rfl⟩ := found
                obtain ⟨before, after, run, reads, ended⟩ := @ih (first :: earlier) token read
                refine ⟨character :: before, after,
                  ⟨by simp [run.split], run.plain, ?_, run.ends⟩, tokens_cons_plain delimits reads,
                  ended⟩
                intro other last
                cases before with
                | nil => cases reads
                | cons => exact run.begins other (by rwa [List.getLast?_cons_cons] at last)

end

end FaultTriage.Scan
