import FaultTriage.Text.Hex
import Mathlib.Algebra.Group.Nat.Defs

/-!
# Hexadecimal digits read back

The digits of a number denote that number, with or without zeros in front of them.
-/

set_option autoImplicit false

namespace FaultTriage.Text

theorem hexValue?_digitChar {digit : Nat} (bounded : digit < 16) :
    hexValue? (Nat.digitChar digit) = some digit := by
  have all : ∀ digit < 16, hexValue? (Nat.digitChar digit) = some digit := by decide
  exact all digit bounded

theorem hexNumberFrom?_append (value : Nat) (left right : List Char) :
    hexNumberFrom? value (left ++ right) =
      (hexNumberFrom? value left).bind fun reached => hexNumberFrom? reached right := by
  induction left generalizing value with
  | nil => rfl
  | cons character rest ih =>
      cases read : hexValue? character with
      | none => simp [hexNumberFrom?, read]
      | some digit => simp [hexNumberFrom?, read, ih]

theorem hexNumberFrom?_hexDigits (value : Nat) :
    hexNumberFrom? 0 (hexDigits value) = some value := by
  unfold hexDigits
  induction value using Nat.strongRecOn with
  | ind value ih =>
      by_cases single : value < 16
      · rw [Nat.toDigits_of_lt_base single]
        simp [hexNumberFrom?, hexValue?_digitChar single]
      · rw [Nat.toDigits_of_base_le (by decide) (by omega), hexNumberFrom?_append,
          ih (value / 16) (by omega)]
        have last := hexValue?_digitChar (Nat.mod_lt value (by decide : 0 < 16))
        simp only [Option.bind_some, hexNumberFrom?, last, Nat.div_add_mod]

theorem hexNumberFrom?_zeros (count : Nat) :
    hexNumberFrom? 0 (List.replicate count '0') = some 0 := by
  induction count with
  | zero => rfl
  | succ count ih => exact ih

theorem hexNumberFrom?_paddedHexDigits (width value : Nat) :
    hexNumberFrom? 0 (paddedHexDigits width value) = some value := by
  simp only [paddedHexDigits, hexNumberFrom?_append, hexNumberFrom?_zeros, Option.bind_some,
    hexNumberFrom?_hexDigits]

theorem length_paddedHexDigits {width value : Nat} (positive : 0 < width)
    (fits : value < 16 ^ width) : (paddedHexDigits width value).length = width := by
  have bounded := (Nat.length_toDigits_le_iff (by decide : 1 < 16) positive).mpr fits
  simp only [paddedHexDigits, hexDigits, List.length_append, List.length_replicate]
  omega

/-! ## The digits that are written -/

def hexAlphabet : List Char := "0123456789abcdef".toList

theorem digitChar_mem_hexAlphabet {digit : Nat} (bounded : digit < 16) :
    Nat.digitChar digit ∈ hexAlphabet := by
  have all : ∀ digit < 16, Nat.digitChar digit ∈ hexAlphabet := by decide
  exact all digit bounded

theorem mem_hexAlphabet_of_mem_hexDigits {value : Nat} {character : Char}
    (member : character ∈ hexDigits value) : character ∈ hexAlphabet := by
  unfold hexDigits at member
  induction value using Nat.strongRecOn with
  | ind value ih =>
      by_cases single : value < 16
      · rw [Nat.toDigits_of_lt_base single, List.mem_singleton] at member
        exact member ▸ digitChar_mem_hexAlphabet single
      · rw [Nat.toDigits_of_base_le (by decide) (by omega), List.mem_append,
          List.mem_singleton] at member
        rcases member with leading | rfl
        · exact ih (value / 16) (by omega) leading
        · exact digitChar_mem_hexAlphabet (Nat.mod_lt value (by decide))

theorem mem_hexAlphabet_of_mem_paddedHexDigits {width value : Nat} {character : Char}
    (member : character ∈ paddedHexDigits width value) : character ∈ hexAlphabet := by
  rcases List.mem_append.mp member with padding | digit
  · rw [List.eq_of_mem_replicate padding]
    decide
  · exact mem_hexAlphabet_of_mem_hexDigits digit

end FaultTriage.Text
