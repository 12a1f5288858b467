/-!
# Text measured in bytes

Offsets, lengths and orders of the analysis count the bytes of the UTF-8 form of a text.  The
scanners themselves walk lists of characters, so this module relates the two: the byte sequence of
a text, the byte length of a list of characters, and cuts at a byte offset that only succeed on a
character boundary.
-/

set_option autoImplicit false

namespace FaultTriage.Text

def bytes (text : String) : List UInt8 :=
  text.toByteArray.data.toList

def byteLength : List Char → Nat
  | [] => 0
  | character :: rest => character.utf8Size + byteLength rest

/--
The characters after the first `count` bytes.  There are none when the offset lies inside a
character or past the end.
-/
def dropBytes? (count : Nat) : List Char → Option (List Char)
  | [] => if count = 0 then some [] else none
  | character :: rest =>
      if count = 0 then
        some (character :: rest)
      else if character.utf8Size ≤ count then
        dropBytes? (count - character.utf8Size) rest
      else
        none

def takeBytes? (count : Nat) : List Char → Option (List Char)
  | [] => if count = 0 then some [] else none
  | character :: rest =>
      if count = 0 then
        some []
      else if character.utf8Size ≤ count then
        (takeBytes? (count - character.utf8Size) rest).map (character :: ·)
      else
        none

/--
What follows the first `count` bytes, wherever they end: the number of bytes that remain of a
character cut in two, and the whole characters after it.
-/
def resume (count : Nat) : List Char → Nat × List Char
  | [] => (0, [])
  | character :: rest =>
      if count = 0 then
        (0, character :: rest)
      else if character.utf8Size ≤ count then
        resume (count - character.utf8Size) rest
      else
        (character.utf8Size - count, rest)

def slice? (start stop : Nat) (characters : List Char) : Option (List Char) :=
  if start ≤ stop then
    (dropBytes? start characters).bind (takeBytes? (stop - start))
  else
    none

@[simp] theorem byteLength_nil : byteLength [] = 0 := rfl

@[simp] theorem byteLength_cons (character : Char) (rest : List Char) :
    byteLength (character :: rest) = character.utf8Size + byteLength rest := rfl

@[simp] theorem byteLength_append (left right : List Char) :
    byteLength (left ++ right) = byteLength left + byteLength right := by
  induction left with
  | nil => simp
  | cons character rest ih => simp [ih, Nat.add_assoc]

@[simp] theorem dropBytes?_append (left right : List Char) :
    dropBytes? (byteLength left) (left ++ right) = some right := by
  induction left with
  | nil => cases right <;> simp [dropBytes?]
  | cons character rest ih =>
      have positive := character.utf8Size_pos
      rw [List.cons_append, dropBytes?, if_neg (by simp; omega), if_pos (by simp),
        byteLength_cons, Nat.add_sub_cancel_left]
      exact ih

@[simp] theorem takeBytes?_append (left right : List Char) :
    takeBytes? (byteLength left) (left ++ right) = some left := by
  induction left with
  | nil => cases right <;> simp [takeBytes?]
  | cons character rest ih =>
      have positive := character.utf8Size_pos
      rw [List.cons_append, takeBytes?, if_neg (by simp; omega), if_pos (by simp),
        byteLength_cons, Nat.add_sub_cancel_left]
      simp [ih]

theorem prefix_of_takeBytes? {count : Nat} {characters taken : List Char}
    (found : takeBytes? count characters = some taken) : taken <+: characters := by
  induction characters generalizing count taken with
  | nil =>
      simp only [takeBytes?, Option.ite_none_right_eq_some, Option.some.injEq] at found
      simp [← found.2]
  | cons character tail ih =>
      simp only [takeBytes?] at found
      split at found
      · simp [← Option.some.inj found]
      · split at found
        · obtain ⟨rest, takenRest, rfl⟩ := Option.map_eq_some_iff.mp found
          exact (List.cons_prefix_cons).mpr ⟨rfl, ih takenRest⟩
        · cases found

theorem slice?_append (before middle after : List Char) :
    slice? (byteLength before) (byteLength before + byteLength middle) (before ++ (middle ++ after))
      = some middle := by
  simp [slice?, show byteLength before + byteLength middle - byteLength before = byteLength middle
    by omega]

end FaultTriage.Text
