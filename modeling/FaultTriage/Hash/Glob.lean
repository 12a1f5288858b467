import FaultTriage.Text.Bytes

/-!
# Wildcard patterns

In a pattern `*` stands for any run of bytes, `?` for exactly one byte, and any other byte for
itself in either ASCII letter case.  The meaning of a pattern is an inductive relation.  The matcher
is a search that reads pattern and text side by side and remembers the last `*` only: on a failure
this `*` absorbs one byte more and the search goes on behind it.
-/

set_option autoImplicit false

namespace FaultTriage.Glob

def star : UInt8 := 0x2A

def question : UInt8 := 0x3F

def lowerByte (byte : UInt8) : UInt8 :=
  if 0x41 ≤ byte && byte ≤ 0x5A then byte + 0x20 else byte

def standsFor (symbol byte : UInt8) : Bool :=
  symbol == question || lowerByte symbol == lowerByte byte

/-- `Matches pattern text` holds when the pattern stands for the whole text. -/
inductive Matches : List UInt8 → List UInt8 → Prop where
  | nil : Matches [] []
  | run {pattern text : List UInt8} (absorbed : List UInt8) :
      Matches pattern text → Matches (star :: pattern) (absorbed ++ text)
  | any {pattern text : List UInt8} (byte : UInt8) :
      Matches pattern text → Matches (question :: pattern) (byte :: text)
  | letter {pattern text : List UInt8} {symbol byte : UInt8} :
      symbol ≠ star → symbol ≠ question → lowerByte symbol = lowerByte byte →
      Matches pattern text → Matches (symbol :: pattern) (byte :: text)

/-- The last `*` that a search has passed. -/
structure Fallback where
  pattern : List UInt8
  /-- The text that the `*` has not absorbed. -/
  text : List UInt8

/-- A search between two steps: the pattern and the text that are left, and the last `*`. -/
structure Search where
  pattern : List UInt8
  text : List UInt8
  fallback : Option Fallback

namespace Search

/-- Goes back to the last `*`, which absorbs one byte more. -/
def retry (search : Search) : Option Search :=
  match search.fallback with
  | some ⟨pattern, _ :: text⟩ => some ⟨pattern, text, some ⟨pattern, text⟩⟩
  | _ => none

/-- One step of a search that has text left.  There is none when the search has failed. -/
def step (search : Search) : Option Search :=
  match search.pattern, search.text with
  | symbol :: pattern, byte :: text =>
      if symbol = star then some ⟨pattern, byte :: text, some ⟨pattern, byte :: text⟩⟩
      else if standsFor symbol byte then some ⟨pattern, text, search.fallback⟩
      else search.retry
  | _, _ => search.retry

def Stuck (search : Search) : Prop :=
  ∀ symbol pattern byte text, search.pattern = symbol :: pattern → search.text = byte :: text →
    symbol ≠ star ∧ standsFor symbol byte = false

theorem eq_some_of_retry {search next : Search} (retried : search.retry = some next) :
    ∃ pattern byte text, search.fallback = some ⟨pattern, byte :: text⟩ ∧
      next = ⟨pattern, text, some ⟨pattern, text⟩⟩ := by
  unfold retry at retried
  split at retried
  · rename_i pattern byte text found
    exact ⟨pattern, byte, text, found, by simpa using retried.symm⟩
  · cases retried

/-- A step passes a `*`, or it passes one byte of pattern and text, or it goes back. -/
theorem step_cases (search : Search) :
    (∃ pattern byte text, search.pattern = star :: pattern ∧ search.text = byte :: text ∧
      search.step = some ⟨pattern, search.text, some ⟨pattern, search.text⟩⟩) ∨
    (∃ symbol pattern byte text, search.pattern = symbol :: pattern ∧
      search.text = byte :: text ∧ symbol ≠ star ∧ standsFor symbol byte = true ∧
      search.step = some ⟨pattern, text, search.fallback⟩) ∨
    (search.Stuck ∧ search.step = search.retry) := by
  obtain ⟨pattern, text, fallback⟩ := search
  cases pattern with
  | nil => exact .inr (.inr ⟨by simp [Stuck], rfl⟩)
  | cons symbol pattern =>
      cases text with
      | nil => exact .inr (.inr ⟨by simp [Stuck], rfl⟩)
      | cons byte text =>
          by_cases wild : symbol = star
          · subst wild
            exact .inl ⟨pattern, byte, text, rfl, rfl, rfl⟩
          · cases fits : standsFor symbol byte with
            | true =>
                exact .inr (.inl ⟨symbol, pattern, byte, text, rfl, rfl, wild, fits, by
                  simp [step, wild, fits]⟩)
            | false =>
                refine .inr (.inr ⟨?_, by simp [step, wild, fits]⟩)
                rintro _ _ _ _ ⟨⟩ ⟨⟩
                exact ⟨wild, fits⟩

def patternLeft (search : Search) : Nat :=
  max search.pattern.length (search.fallback.elim 0 (·.pattern.length))

def unabsorbed (search : Search) : Nat :=
  search.fallback.elim 0 (·.text.length)

/--
A `*` shortens the pattern that can be left, going back shortens the text that the last `*` has not
absorbed, and every other step shortens the text.
-/
theorem decreases_of_step {search next : Search} (stepped : search.step = some next) :
    Prod.Lex (· < ·) (Prod.Lex (· < ·) (· < ·))
      (next.patternLeft, next.unabsorbed, next.text.length)
      (search.patternLeft, search.unabsorbed, search.text.length) := by
  simp only [Prod.lex_def, patternLeft, unabsorbed]
  rcases search.step_cases with ⟨pattern, _, _, isStar, _, passed⟩ |
      ⟨_, pattern, _, text, isSymbol, isByte, _, _, passed⟩ | ⟨_, passed⟩
  · cases passed.symm.trans stepped
    left
    simp only [isStar, List.length_cons, Option.elim_some]
    omega
  · cases passed.symm.trans stepped
    simp only [isSymbol, isByte, List.length_cons, true_and]
    omega
  · obtain ⟨pattern, _, text, found, rfl⟩ := eq_some_of_retry (passed.symm.trans stepped)
    simp only [found, List.length_cons, Option.elim_some]
    omega

/-- Runs a search to its end: without text left, the rest of the pattern may only hold `*`. -/
def run (search : Search) : Bool :=
  if search.text.isEmpty then
    search.pattern.all (· == star)
  else
    match _stepped : search.step with
    | none => false
    | some next => next.run
termination_by (search.patternLeft, search.unabsorbed, search.text.length)
decreasing_by exact decreases_of_step ‹_›

end Search

def matchesBytes (pattern text : List UInt8) : Bool :=
  Search.run ⟨pattern, text, none⟩

def isMatch (pattern text : String) : Bool :=
  matchesBytes (Text.bytes pattern) (Text.bytes text)

end FaultTriage.Glob
