import FaultTriage.Proofs.Scan.NamedRegisters

/-!
# Where named operands come from

An operand that argument text names is written there as a register, as a part of a range, or as a
memory expression from a register up to a closing bracket.  The exception is a range whose end does
not stand behind its dash: it stays pending, and a register further on, even outside the list, ends
it and stands for registers that are written nowhere.
-/

set_option autoImplicit false

namespace FaultTriage

/-! ## Ranges -/

namespace Register

theorem mem_of_mem_runThrough {name last : Operand} {names : List Operand}
    (member : name ∈ runThrough last names) : name ∈ names := by
  induction names with
  | nil => exact member
  | cons head tail ih =>
      simp only [runThrough] at member
      split at member
      · exact List.mem_singleton.mp member ▸ List.mem_cons_self
      · rcases List.mem_cons.mp member with rfl | later
        · exact List.mem_cons_self
        · exact List.mem_cons_of_mem _ (ih later)

theorem isRegister_of_mem_rangeAfter {name first last : Operand}
    (member : name ∈ rangeAfter first last) : isRegister .arm name = true := by
  simp only [rangeAfter] at member
  split at member
  · cases member
  · have core : name ∈ coreRegisters :=
      (List.dropWhile_suffix _).subset (List.mem_of_mem_drop (mem_of_mem_runThrough member))
    exact List.contains_iff_mem.mpr (List.mem_append_left _ core)

end Register

namespace Scan

open Register

/-- A text that ends in a list, behind this word, a dash and spaces, if any. -/
def BehindDash (first before : List Char) : Prop :=
  ∃ earlier gap, IsRun (delimiters .arm).contains before earlier first ('-' :: gap) ∧
    (∀ character ∈ gap, character = ' ') ∧ listOpen earlier = true

inductive Written (architecture : Architecture) (text : List Char) : Operand → Prop where
  | register {before word after : List Char}
      (run : IsRun (delimiters architecture).contains text before word after)
      (isRegister : isRegister architecture (String.ofList word) = true) :
      Written architecture text (String.ofList word)
  | range {before first last after : List Char} {name : Operand} (lists : architecture = .arm)
      (run : IsRun (delimiters architecture).contains text before last after)
      (isRegister : isRegister architecture (String.ofList last) = true)
      (behindDash : BehindDash first before)
      (within : name ∈ rangeAfter (String.ofList first) (String.ofList last)) :
      Written architecture text name
  | expression {before word more after : List Char}
      (run : IsRun (delimiters architecture).contains text before word (more ++ ']' :: after))
      (isRegister : isRegister architecture (String.ofList word) = true) :
      Written architecture text (String.ofList (word ++ more))

/-- What a register names that ends a range which it does not stand behind the dash of. -/
def Carried (architecture : Architecture) (row : TableRow) (text : List Char) (name : Operand) :
    Prop :=
  ∃ before first last after, SpellsRegister architecture text before last after ∧
    ¬ EndsCapture architecture row before after ∧
    (pendingAt architecture row before).rangeStart = some first ∧ ¬ BehindDash first before ∧
    name ∈ rangeAfter (String.ofList first) (String.ofList last)

/--
Behind every dash in a list stands a register that ends its range: neither a closing bracket nor
another dash follows it.
-/
def EndsRanges (text : List Char) : Prop :=
  ∀ before first after, IsRun (delimiters .arm).contains text before first ('-' :: after) →
    listOpen before = true →
    ∃ gap last rest, IsRun (delimiters .arm).contains after gap last rest ∧
      (∀ character ∈ gap, character = ' ') ∧ isRegister .arm (String.ofList last) = true ∧
      rest.head? ≠ some ']' ∧ rest.head? ≠ some '-'

theorem IsRun.enclosing {isDelimiter : Char → Bool} {text before word after : List Char}
    (run : IsRun isDelimiter text before word after) {earlier inner behind : List Char}
    {delimiter : Char} (within : IsRun isDelimiter before earlier inner (delimiter :: behind)) :
    IsRun isDelimiter text earlier inner (delimiter :: (behind ++ (word ++ after))) := by
  refine ⟨run.split.trans ?_, within.plain, within.begins, within.ends⟩
  rw [within.split]
  simp only [List.append_assoc, List.cons_append]

section

variable {architecture : Architecture} {row : TableRow} {text : List Char} {name : Operand}

/-! ## Named operands are written or carried -/

theorem written_of_closes {earlier later : List Token} {token : Token} {captured : List Char}
    (read : tokens (delimiters architecture).contains text = earlier ++ token :: later)
    (closes : token.delimiter = some ']')
    (capturing : (pendingAfter architecture row earlier).captured = some captured) :
    Written architecture text (String.ofList (captured ++ token.word)) := by
  obtain ⟨before, start, between, rfl, starts, -, rfl⟩ :=
    exists_start_of_captured architecture row capturing
  rw [List.append_assoc, List.cons_append] at read
  obtain ⟨left, right, run, rfl, follows⟩ := exists_isRun read
  have tail := text_tokens (delimiters architecture).contains right.tail
  rw [run.tokens_tail read, List.flatMap_append, List.flatMap_cons, Token.text, closes] at tail
  let more := start.delimiter.toList ++ (between.flatMap Token.text ++ token.word)
  have parts : right = more ++ ']' :: later.flatMap Token.text := by
    have split : right = right.head?.toList ++ right.tail := by cases right <;> rfl
    rw [split, follows, ← tail]
    simp [more]
  have expression : (start :: between).flatMap Token.text ++ token.word = start.word ++ more := by
    simp only [List.flatMap_cons, Token.text, more, List.append_assoc]
  rw [expression]
  exact .expression (parts ▸ run) (roleOf_eq_register_iff.mp starts.1)

theorem isRegister_of_mem_named {pending : Pending} {word : List Char}
    (lists : pending.rangeStart ≠ none → architecture = .arm)
    (role : roleOf architecture word = .register) (named : name ∈ Arm.named pending.rangeStart word) :
    isRegister architecture name = true := by
  cases range : pending.rangeStart with
  | none =>
      rw [range] at named
      exact List.mem_singleton.mp named ▸ roleOf_eq_register_iff.mp role
  | some first =>
      rw [range] at named
      rw [lists (by simp [range])]
      exact isRegister_of_mem_rangeAfter named

theorem written_or_carried
    (named : name ∈ explicitAfter architecture row (tokens (delimiters architecture).contains text)) :
    Written architecture text name ∨ Carried architecture row text name := by
  by_cases register : isRegister architecture name = true
  · obtain ⟨before, word, after, spells, goesOn, stands⟩ :=
      (mem_explicitAfter_tokens_iff register).mp named
    cases pending : (pendingAt architecture row before).rangeStart with
    | none =>
        rw [pending] at stands
        cases List.mem_singleton.mp stands
        exact .inl (.register spells.run spells.register)
    | some first =>
        rw [pending] at stands
        by_cases behind : BehindDash first before
        · have lists := (exists_dash_of_rangeStart architecture row pending).1
          exact .inl (.range lists spells.run spells.register behind stands)
        · exact .inr ⟨before, first, word, after, spells, goesOn, pending, behind, stands⟩
  · have spelled : name ≠ "" := by
      rintro rfl
      exact OperandSet.empty_name_not_mem _ named
    obtain ⟨earlier, token, later, read, named⟩ :=
      (mem_explicitAfter_iff architecture row spelled _).mp named
    -- Only a captured expression is named without being a register.
    by_cases closes : ∃ captured, token.delimiter = some ']' ∧
        (pendingAfter architecture row earlier).captured = some captured
    · obtain ⟨captured, ended, capturing⟩ := closes
      rw [namedBy_of_closes architecture ended capturing] at named
      cases List.mem_singleton.mp named
      exact .inl (written_of_closes read ended capturing)
    · have goesOn (captured : List Char) (ended : token.delimiter = some ']')
          (capturing : (pendingAfter architecture row earlier).captured = some captured) : False :=
        closes ⟨captured, ended, capturing⟩
      rw [namedBy_of_reads architecture goesOn, List.mem_ite_nil_right] at named
      obtain ⟨⟨role, -⟩, named⟩ := named
      refine absurd (isRegister_of_mem_named ?_ role named) register
      intro pending
      obtain ⟨first, pending⟩ := Option.ne_none_iff_exists'.mp pending
      exact (exists_dash_of_rangeStart architecture row pending).1

/-! ## Carried ranges -/

theorem mem_explicitAfter_of_carried (carried : Carried architecture row text name) :
    name ∈ explicitAfter architecture row (tokens (delimiters architecture).contains text) := by
  obtain ⟨before, first, last, after, spells, goesOn, pending, -, within⟩ := carried
  obtain ⟨rfl, -⟩ := exists_dash_of_rangeStart architecture row pending
  refine (mem_explicitAfter_tokens_iff (isRegister_of_mem_rangeAfter within)).mpr
    ⟨before, last, after, spells, goesOn, ?_⟩
  rw [pending]
  exact within

theorem eq_or_mem_of_append_cons_eq {left right later rest : List Token} {token other : Token}
    (same : left ++ token :: later = right ++ other :: rest) :
    left = right ∨ token ∈ right ∨ other ∈ left := by
  rcases List.append_eq_append_iff.mp same with ⟨more, split, rests⟩ | ⟨more, split, rests⟩
  all_goals
    cases more with
    | nil => simp_all
    | cons first more =>
        obtain ⟨rfl, -⟩ := List.cons.inj rests
        simp [split]

theorem word_eq_nil_of_mem_tokens {isDelimiter : Char → Bool} {gap : List Char}
    (delimits : ∀ character ∈ gap, isDelimiter character = true) {token : Token}
    (member : token ∈ tokens isDelimiter gap) : token.word = [] := by
  induction gap with
  | nil => cases member
  | cons first gap ih =>
      rw [List.forall_mem_cons] at delimits
      rw [tokens_cons_delimiter delimits.1] at member
      rcases List.mem_cons.mp member with rfl | later
      · rfl
      · exact ih delimits.2 later

theorem not_carried_of_endsRanges (ends : architecture = .arm → EndsRanges text) :
    ¬ Carried architecture row text name := by
  rintro ⟨before, first, last, after, spells, -, pending, notBehind, -⟩
  obtain ⟨rfl, earlier, inner, read, inList, unended⟩ :=
    exists_dash_of_rangeStart architecture row pending
  obtain ⟨start, dashed, run, rfl, dash⟩ := exists_isRun read
  obtain ⟨inside, rfl⟩ := List.head?_eq_some_iff.mp dash
  have listed : listOpen start = true := inList_pendingAt row start ▸ inList
  obtain rfl : tokens (delimiters .arm).contains inside = inner := run.tokens_tail read
  have behind : IsRun (delimiters .arm).contains (inside ++ (last ++ after)) inside last after := by
    refine ⟨rfl, spells.run.plain, fun character isLast => spells.run.begins character ?_,
      spells.run.ends⟩
    rw [run.split, List.getLast?_append, List.getLast?_append, List.getLast?_cons, isLast]
    rfl
  obtain ⟨gap, other, rest, otherRun, spaces, isRegister, noBracket, noDash⟩ :=
    ends rfl start first _ (spells.run.enclosing run) listed
  have role := roleOf_eq_register_iff.mpr spells.register
  have otherRole := roleOf_eq_register_iff.mpr isRegister
  have same := behind.tokens_eq (by simp [word_ne_nil role])
  rw [otherRun.tokens_eq (by simp [word_ne_nil otherRole])] at same
  have apart (none : tokens (delimiters .arm).contains inside =
      tokens (delimiters .arm).contains gap) : False := by
    have alike := congrArg (List.flatMap Token.text) none
    rw [text_tokens, text_tokens] at alike
    exact notBehind ⟨start, inside, run, alike ▸ spaces, listed⟩
  rcases eq_or_mem_of_append_cons_eq same with none | ended | blank
  · exact apart none.symm
  · -- The register behind the dash has ended the range already.
    rcases unended _ ended otherRole with bracket | dash
    · exact noBracket bracket
    · exact noDash dash
  · refine word_ne_nil role (word_eq_nil_of_mem_tokens (fun character member => ?_) blank)
    rw [spaces character member]
    rfl

end

end Scan

end FaultTriage
