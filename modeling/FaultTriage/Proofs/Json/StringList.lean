import Mathlib.Tactic.SplitIfs
import FaultTriage.Json.Printer
import FaultTriage.Json.Reader
import FaultTriage.Proofs.Text.Hex

/-!
# Lists of strings read back

A list of strings in the compact layout is read as that list, whatever characters the strings hold.
Both passes of the reader are followed over the text: characters to tokens, tokens to a value.
-/

set_option autoImplicit false

namespace FaultTriage.Json

/-- Items take a pass from one state to another. -/
def Reaches {State Item : Type} (step : State → Item → Option State) (before : State)
    (items : List Item) (after : State) : Prop :=
  items.foldlM step before = some after

section

variable {State Item : Type} {step : State → Item → Option State} {before middle after : State}

theorem Reaches.append {left right : List Item} (first : Reaches step before left middle)
    (second : Reaches step middle right after) : Reaches step before (left ++ right) after := by
  unfold Reaches at first second ⊢
  rw [List.foldlM_append, first]
  exact second

theorem Reaches.cons {item : Item} {rest : List Item} (stepped : step before item = some middle)
    (followed : Reaches step middle rest after) : Reaches step before (item :: rest) after := by
  unfold Reaches at followed ⊢
  rw [List.foldlM_cons, stepped]
  exact followed

end

/-! ## From characters to tokens -/

/-- Characters take the gathering of tokens from one state to another. -/
def Lexes (characters : List Char) (before after : Lexing) : Prop :=
  Reaches lexStep before (characters.map some) after

theorem Lexes.append {left right : List Char} {before middle after : Lexing}
    (first : Lexes left before middle) (second : Lexes right middle after) :
    Lexes (left ++ right) before after := by
  rw [Lexes, List.map_append]
  exact Reaches.append first second

theorem Lexes.cons {character : Char} {rest : List Char} {before middle after : Lexing}
    (stepped : lexStep before (some character) = some middle) (followed : Lexes rest middle after) :
    Lexes (character :: rest) before after :=
  Reaches.cons stepped followed

theorem lexes_digits {digits : List Char} {value code : Nat} (present : digits ≠ [])
    (read : Text.hexNumberFrom? value digits = some code) (tokens : List Token)
    (reversed : List Piece) :
    Lexes digits ⟨tokens, .code reversed value digits.length⟩
      ⟨tokens, .quoted (pieceOf code :: reversed)⟩ := by
  induction digits generalizing value with
  | nil => exact absurd rfl present
  | cons character rest ih =>
      obtain ⟨digit, isDigit, readRest⟩ := Option.bind_eq_some_iff.mp read
      cases rest with
      | nil =>
          cases readRest
          simp [Lexes, Reaches, lexStep, isDigit]
      | cons next others =>
          exact .cons (by simp [lexStep, isDigit]) (ih (List.cons_ne_nil _ _) readRest)

theorem pieceOf_toNat_of_lt {character : Char} (control : character.toNat < 0x20) :
    pieceOf character.toNat = .scalar character := by
  have low : ¬ 0xD800 ≤ character.toNat := by omega
  simp [pieceOf, low]

/-- However a character is written inside a string, it is read as itself. -/
theorem lexes_escaped (character : Char) (tokens : List Token) (reversed : List Piece) :
    Lexes (escaped character) ⟨tokens, .quoted reversed⟩
      ⟨tokens, .quoted (.scalar character :: reversed)⟩ := by
  unfold escaped
  split_ifs with quote backslash backspace formFeed newline carriageReturn tab control
  · subst quote; rfl
  · subst backslash; rfl
  · subst backspace; rfl
  · subst formFeed; rfl
  · subst newline; rfl
  · subst carriageReturn; rfl
  · subst tab; rfl
  · have length : (Text.paddedHexDigits 4 character.toNat).length = 4 :=
      Text.length_paddedHexDigits (by decide) (by omega)
    have read := Text.hexNumberFrom?_paddedHexDigits 4 character.toNat
    have followed := lexes_digits (List.ne_nil_of_length_pos (by omega)) read tokens reversed
    rw [length, pieceOf_toNat_of_lt control] at followed
    exact .cons rfl (.cons rfl followed)
  · simp [Lexes, Reaches, lexStep, quote, backslash, control]

theorem lexes_flatMap_escaped (characters : List Char) (tokens : List Token)
    (reversed : List Piece) :
    Lexes (characters.flatMap escaped) ⟨tokens, .quoted reversed⟩
      ⟨tokens, .quoted ((characters.map .scalar).reverse ++ reversed)⟩ := by
  induction characters generalizing reversed with
  | nil => rfl
  | cons character rest ih =>
      rw [List.flatMap_cons, List.map_cons, List.reverse_cons, List.append_assoc]
      exact (lexes_escaped character tokens reversed).append (ih _)

theorem textOf?_map_scalar (characters : List Char) :
    textOf? (characters.map .scalar) = some characters := by
  induction characters with
  | nil => rfl
  | cons character rest ih => simp [textOf?, ih]

theorem lexes_quoted (text : String) (tokens : List Token) :
    Lexes (quoted text) ⟨tokens, .between⟩ ⟨.text (some text) :: tokens, .between⟩ := by
  have inside := lexes_flatMap_escaped text.toList tokens []
  have closed : Lexes ['"'] ⟨tokens, .quoted ((text.toList.map .scalar).reverse ++ [])⟩
      ⟨.text (some text) :: tokens, .between⟩ := by
    simp [Lexes, Reaches, lexStep, textOf?_map_scalar]
  exact .cons rfl (inside.append closed)

def itemTokens : List String → List Token
  | [] => []
  | [text] => [.text (some text)]
  | text :: rest => .text (some text) :: .comma :: itemTokens rest

theorem lexes_items (texts : List String) (tokens : List Token) :
    Lexes (separated (compactItems (texts.map .string))) ⟨tokens, .between⟩
      ⟨(itemTokens texts).reverse ++ tokens, .between⟩ := by
  induction texts generalizing tokens with
  | nil => rfl
  | cons text rest ih =>
      cases rest with
      | nil => exact lexes_quoted text tokens
      | cons next others =>
          have followed := ih (.comma :: .text (some text) :: tokens)
          simp only [itemTokens, List.reverse_cons, List.append_assoc, List.singleton_append]
            at followed ⊢
          exact (lexes_quoted text tokens).append (.cons rfl followed)

theorem tokens?_strings (texts : List String) :
    tokens? ((strings texts).compact.map some) =
      some (.openArray :: itemTokens texts ++ [.closeArray]) := by
  have closed : Lexes [']'] ⟨(itemTokens texts).reverse ++ [.openArray], .between⟩
      ⟨.closeArray :: ((itemTokens texts).reverse ++ [.openArray]), .between⟩ := rfl
  have whole : Lexes (strings texts).compact ⟨[], .between⟩
      ⟨.closeArray :: ((itemTokens texts).reverse ++ [.openArray]), .between⟩ :=
    .cons rfl ((lexes_items texts [.openArray]).append closed)
  unfold Lexes Reaches at whole
  simp [tokens?, whole]

/-! ## From tokens to a value -/

theorem reaches_items {texts : List String} (present : texts ≠ []) {expected : Expected}
    (ready : expected = .value ∨ expected = .firstItem) (reversed : List Json) :
    Reaches parseStep ⟨[.items reversed], expected, .null⟩ (itemTokens texts)
      ⟨[.items ((texts.map .string).reverse ++ reversed)], .separator, .null⟩ := by
  induction texts generalizing expected reversed with
  | nil => exact absurd rfl present
  | cons text rest ih =>
      have taken : parseStep ⟨[.items reversed], expected, .null⟩ (.text (some text)) =
          some ⟨[.items (.string text :: reversed)], .separator, .null⟩ := by
        rcases ready with rfl | rfl <;> rfl
      cases rest with
      | nil => exact .cons taken rfl
      | cons next others =>
          have followed := ih (List.cons_ne_nil _ _) (.inl rfl) (.string text :: reversed)
          rw [List.map_cons, List.reverse_cons, List.append_assoc]
          exact .cons taken (.cons rfl followed)

theorem reaches_strings (texts : List String) :
    Reaches parseStep ⟨[], .value, .null⟩ (.openArray :: itemTokens texts ++ [.closeArray])
      ⟨[], .nothing, strings texts⟩ := by
  cases texts with
  | nil => rfl
  | cons text rest =>
      have items := reaches_items (List.cons_ne_nil text rest) (.inr rfl) []
      have closed : Reaches parseStep
          ⟨[.items (((text :: rest).map .string).reverse ++ [])], .separator, .null⟩ [.closeArray]
          ⟨[], .nothing, strings (text :: rest)⟩ := by
        simp [Reaches, parseStep, close?, deliver, strings]
      exact .cons rfl (items.append closed)

theorem parse?_render_strings (texts : List String) :
    parse? (strings texts).render = some (strings texts) := by
  have parsed := reaches_strings texts
  unfold Reaches at parsed
  rw [parse?, render, String.toList_ofList, read?, tokens?_strings, Option.bind_eq_bind,
    Option.bind_some, parsed]
  rfl

end FaultTriage.Json
