import Mathlib.Data.List.Forall2
import Mathlib.Data.List.Induction
import FaultTriage.Triage.Listing

/-!
# Symbols of a listing

A label waits for the next instruction line, later labels take its place, and blank lines do not
matter: what an instruction line records is decided by the line right above it, blank lines aside.
An address is shown with the nearest symbol at or below it, and with the last name that was recorded
there.
-/

set_option autoImplicit false

namespace FaultTriage

namespace Listing

/-! ## Recorded symbols -/

def LineRole.isBlank : LineRole → Bool
  | .blank => true
  | _ => false

def rolesOf (text : String) : List LineRole :=
  (Text.lines text.toList).map fun raw => roleOf (Text.trim raw)

/-- The label on the line right above, blank lines aside. -/
def labelAbove? (above : List LineRole) : Option Frame :=
  match (above.filter (!·.isBlank)).getLast? with
  | some (.label frame) => some frame
  | _ => none

def recordedBelow (above : List LineRole) : LineRole → Option (Address × String)
  | .instruction address =>
      match labelAbove? above with
      | some ⟨some name, displacement⟩ => some (address - displacement, name)
      | _ => none
  | _ => none

def recorded (roles : List LineRole) : List (Address × String) :=
  roles.zipIdx.filterMap fun line => recordedBelow (roles.take line.2) line.1

theorem labelAbove?_blank (above : List LineRole) :
    labelAbove? (above ++ [.blank]) = labelAbove? above := by
  simp [labelAbove?, LineRole.isBlank]

theorem labelAbove?_label (above : List LineRole) (frame : Frame) :
    labelAbove? (above ++ [.label frame]) = some frame := by
  simp [labelAbove?, LineRole.isBlank]

theorem labelAbove?_instruction (above : List LineRole) (address : Address) :
    labelAbove? (above ++ [.instruction address]) = none := by
  simp [labelAbove?, LineRole.isBlank]

theorem recordedBelow_instruction (above : List LineRole) (address : Address) :
    (recordedBelow above (.instruction address)).toList =
      symbolAt (labelAbove? above) address := by
  rw [recordedBelow]
  cases labelAbove? above with
  | none => rfl
  | some frame =>
      obtain ⟨symbol, displacement⟩ := frame
      cases symbol with
      | none => rfl
      | some name => rfl

def recordedAfter (above roles : List LineRole) : List (Address × String) :=
  (roles.zipIdx above.length).filterMap fun line =>
    recordedBelow ((above ++ roles).take line.2) line.1

theorem recordedAfter_cons (above : List LineRole) (role : LineRole) (rest : List LineRole) :
    recordedAfter above (role :: rest) =
      (recordedBelow above role).toList ++ recordedAfter (above ++ [role]) rest := by
  have whole : above ++ [role] ++ rest = above ++ role :: rest := by simp
  have length : (above ++ [role]).length = above.length + 1 := by simp
  rw [recordedAfter, recordedAfter, whole, length, List.zipIdx_cons, List.filterMap_cons,
    List.take_left]
  cases recordedBelow above role with
  | none => rfl
  | some symbol => rfl

/-- The waiting label is the one right above, so what is read on is what the lines record. -/
theorem symbols_of_readLines {number : Nat} {above : List LineRole} {raws : List (List Char)}
    {listing : Listing} (parsed : readLines number (labelAbove? above) raws = .ok listing) :
    listing.symbols = recordedAfter above (raws.map fun raw => roleOf (Text.trim raw)) := by
  induction raws generalizing number above listing with
  | nil =>
      cases parsed
      rfl
  | cons raw rest ih =>
      rw [List.map_cons, recordedAfter_cons]
      simp only [readLines] at parsed
      cases role : roleOf (Text.trim raw) with
      | blank =>
          rw [role] at parsed
          exact ih (by rwa [labelAbove?_blank])
      | label frame =>
          rw [role] at parsed
          exact ih (by rwa [labelAbove?_label])
      | invalid =>
          rw [role] at parsed
          cases parsed
      | instruction address =>
          rw [role] at parsed
          cases later : readLines (number + 1) none rest with
          | error error =>
              rw [later] at parsed
              cases parsed
          | ok lines =>
              rw [later] at parsed
              cases parsed
              rw [← labelAbove?_instruction above address] at later
              rw [recordedBelow_instruction, ← ih later]
              rfl

theorem symbols_of_parse {text : String} {listing : Listing} (parsed : parse text = .ok listing) :
    listing.symbols = recorded (rolesOf text) := by
  have read : listing.symbols = recordedAfter [] (rolesOf text) := symbols_of_readLines parsed
  exact read

def withSymbols (listing : Listing) (added : List (Address × String)) : Listing :=
  added.foldl (fun listing symbol => listing.withSymbol symbol.1 symbol.2) listing

theorem symbols_withSymbols (listing : Listing) (added : List (Address × String)) :
    (listing.withSymbols added).symbols = listing.symbols ++ added := by
  induction added generalizing listing with
  | nil => simp [withSymbols]
  | cons symbol rest ih =>
      have step : listing.withSymbols (symbol :: rest) =
          (listing.withSymbol symbol.1 symbol.2).withSymbols rest := rfl
      rw [step, ih, withSymbol, List.append_assoc]
      rfl

/-! ## The nearest symbol -/

/-- The last symbol at the greatest recorded address that an address reaches. -/
structure IsNearest (symbols : List (Address × String)) (address : Address)
    (symbol : Address × String) : Prop where
  last : (symbols.filter (·.1 = symbol.1)).getLast? = some symbol
  reached : symbol.1 ≤ address
  greatest : ∀ other ∈ symbols, other.1 ≤ address → other.1 ≤ symbol.1

section

variable {symbols : List (Address × String)} {address : Address} {symbol other : Address × String}

theorem IsNearest.mem (nearest : IsNearest symbols address symbol) : symbol ∈ symbols :=
  List.mem_of_mem_filter (List.mem_of_getLast? nearest.last)

theorem IsNearest.eq (nearest : IsNearest symbols address symbol)
    (otherNearest : IsNearest symbols address other) : symbol = other := by
  have start : symbol.1 = other.1 :=
    UInt64.le_antisymm (otherNearest.greatest symbol nearest.mem nearest.reached)
      (nearest.greatest other otherNearest.mem otherNearest.reached)
  have last := nearest.last
  rw [start, otherNearest.last] at last
  exact (Option.some.inj last).symm

theorem IsNearest.concat_of_ne (nearest : IsNearest symbols address symbol)
    (elsewhere : other.1 ≠ symbol.1) (farther : other.1 ≤ address → other.1 ≤ symbol.1) :
    IsNearest (symbols ++ [other]) address symbol := by
  refine ⟨?_, nearest.reached, ?_⟩
  · rw [List.filter_append, List.filter_singleton]
    simpa [elsewhere] using nearest.last
  · rw [List.forall_mem_append, List.forall_mem_singleton]
    exact ⟨nearest.greatest, farther⟩

theorem isNearest_concat_self (reached : other.1 ≤ address)
    (greatest : ∀ symbol ∈ symbols, symbol.1 ≤ address → symbol.1 ≤ other.1) :
    IsNearest (symbols ++ [other]) address other := by
  refine ⟨?_, reached, ?_⟩
  · rw [List.filter_append, List.filter_singleton]
    simp
  · rw [List.forall_mem_append, List.forall_mem_singleton]
    exact ⟨greatest, fun _ => UInt64.le_refl _⟩

end

inductive Best (symbols : List (Address × String)) (address : Address) :
    Option (Address × String) → Prop where
  | missing : (∀ symbol ∈ symbols, address < symbol.1) → Best symbols address none
  | found {symbol : Address × String} :
      IsNearest symbols address symbol → Best symbols address (some symbol)

theorem Best.nearer {symbols : List (Address × String)} {address : Address}
    {best : Option (Address × String)} (isBest : Best symbols address best)
    (symbol : Address × String) :
    Best (symbols ++ [symbol]) address (nearer address best symbol) := by
  unfold Listing.nearer
  by_cases beyond : address < symbol.1
  · rw [if_pos beyond]
    cases isBest with
    | missing beyondAll =>
        refine .missing ?_
        rw [List.forall_mem_append, List.forall_mem_singleton]
        exact ⟨beyondAll, beyond⟩
    | @found found nearest =>
        refine .found (nearest.concat_of_ne ?_ fun reached => ?_)
        · intro same
          exact UInt64.not_le.mpr beyond (same ▸ nearest.reached)
        · exact absurd reached (UInt64.not_le.mpr beyond)
  · rw [if_neg beyond]
    have reached := UInt64.not_lt.mp beyond
    cases isBest with
    | missing beyondAll =>
        refine .found (isNearest_concat_self reached fun other member otherReached => ?_)
        exact absurd otherReached (UInt64.not_le.mpr (beyondAll other member))
    | @found found nearest =>
        -- Of two symbols at one address the one recorded later is the better.
        by_cases lower : symbol.1 < found.1
        · simp only [if_pos lower]
          exact .found (nearest.concat_of_ne (UInt64.ne_of_lt lower)
            fun _ => UInt64.le_of_lt lower)
        · simp only [if_neg lower]
          refine .found (isNearest_concat_self reached fun other member otherReached => ?_)
          exact UInt64.le_trans (nearest.greatest other member otherReached)
            (UInt64.not_lt.mp lower)

theorem best_foldl_nearer (symbols : List (Address × String)) (address : Address) :
    Best symbols address (symbols.foldl (nearer address) none) := by
  induction symbols using List.reverseRecOn with
  | nil => exact .missing (by simp)
  | append_singleton symbols symbol ih =>
      rw [List.foldl_append]
      exact ih.nearer symbol

/-! ## Addresses and frames -/

inductive ShownAs (symbols : List (Address × String)) (address : Address) : Frame → Prop where
  | symbol {start : Address} {name : String} {displacement : UInt64} :
      IsNearest symbols address (start, name) →
      start.toNat + displacement.toNat = address.toNat →
      ShownAs symbols address (.resolved name displacement)
  | nothing : (∀ symbol ∈ symbols, address < symbol.1) → ShownAs symbols address .unknown

theorem ShownAs.eq {symbols : List (Address × String)} {address : Address} {frame other : Frame}
    (shown : ShownAs symbols address frame) (otherShown : ShownAs symbols address other) :
    frame = other := by
  cases shown with
  | symbol nearest total =>
      cases otherShown with
      | symbol otherNearest otherTotal =>
          cases nearest.eq otherNearest
          rw [UInt64.toNat_inj.mp (Nat.add_left_cancel (total.trans otherTotal.symm))]
      | nothing beyondAll =>
          exact absurd nearest.reached (UInt64.not_le.mpr (beyondAll _ nearest.mem))
  | nothing beyondAll =>
      cases otherShown with
      | symbol otherNearest otherTotal =>
          exact absurd otherNearest.reached (UInt64.not_le.mpr (beyondAll _ otherNearest.mem))
      | nothing _ => rfl

def frameOf : Option (String × UInt64) → Frame
  | some (name, displacement) => .resolved name displacement
  | none => .unknown

theorem shownAs_resolve (listing : Listing) (address : Address) :
    ShownAs listing.symbols address (frameOf (listing.resolve address)) := by
  have isBest := best_foldl_nearer listing.symbols address
  rw [resolve]
  cases best : listing.symbols.foldl (nearer address) none with
  | none =>
      rw [best] at isBest
      cases isBest with
      | missing beyondAll => exact .nothing beyondAll
  | some symbol =>
      rw [best] at isBest
      cases isBest with
      | found nearest =>
          refine .symbol nearest ?_
          rw [UInt64.toNat_sub_of_le _ _ nearest.reached]
          exact Nat.add_sub_cancel' nearest.reached

theorem resolve_eq_iff {listing : Listing} {address : Address}
    {answer : Option (String × UInt64)} :
    listing.resolve address = answer ↔ ShownAs listing.symbols address (frameOf answer) := by
  constructor
  · intro resolved
    rw [← resolved]
    exact shownAs_resolve listing address
  · intro shown
    have same := (shownAs_resolve listing address).eq shown
    cases resolved : listing.resolve address with
    | none =>
        rw [resolved] at same
        cases answer with
        | none => rfl
        | some symbol => cases same
    | some symbol =>
        rw [resolved] at same
        cases answer with
        | none => cases same
        | some other =>
            obtain ⟨name, displacement⟩ := symbol
            obtain ⟨otherName, otherDisplacement⟩ := other
            cases same
            rfl

/--
After a listing has been read and further symbols have been added, an address is shown with the last
name at the greatest recorded address that it reaches and the distance from there, and with nothing
when it reaches none.  The frames of a stack are what its addresses are shown as, in order.
-/
theorem symbols_shown_nearest {text : String} {listing : Listing}
    (parsed : parse text = .ok listing) (added : List (Address × String)) :
    (∀ address name displacement,
      (listing.withSymbols added).resolve address = some (name, displacement) ↔
        ShownAs (recorded (rolesOf text) ++ added) address (.resolved name displacement)) ∧
    (∀ address, (listing.withSymbols added).resolve address = none ↔
      ShownAs (recorded (rolesOf text) ++ added) address .unknown) ∧
    ∀ architecture flags stack,
      List.Forall₂ (ShownAs (recorded (rolesOf text) ++ added)) stack
        (((listing.withSymbols added).toHost architecture flags).frames stack) := by
  have symbols : (listing.withSymbols added).symbols = recorded (rolesOf text) ++ added := by
    rw [symbols_withSymbols, symbols_of_parse parsed]
  rw [← symbols]
  refine ⟨?found, ?missing, ?frames⟩
  case found => exact fun address name displacement => resolve_eq_iff
  case missing => exact fun address => resolve_eq_iff
  case frames =>
    intro architecture flags stack
    rw [Host.frames, List.forall₂_map_right_iff, List.forall₂_same]
    intro address _
    exact shownAs_resolve (listing.withSymbols added) address

def labelledText : String :=
  "main+0x10:\n\n00401010 90 nop\nold:\napp!f:\n00401020 90 nop\n?:\n00401030 c3 ret\n"

def labelledListing : Listing :=
  ⟨[(0x401010, "00401010 90 nop"), (0x401020, "00401020 90 nop"), (0x401030, "00401030 c3 ret")],
    [(0x401000, "main"), (0x401020, "app!f")]⟩

theorem labelledText_shown :
    parse labelledText = .ok labelledListing ∧
      recorded (rolesOf labelledText) = [(0x401000, "main"), (0x401020, "app!f")] ∧
      List.Forall₂ (ShownAs [(0x401000, "main"), (0x401020, "app!f"), (0x401020, "app!g")])
        [0x401034, 0x401008, 0x400FFF]
        [.resolved "app!g" 0x14, .resolved "main" 8, .unknown] := by
  have parsed : parse labelledText = .ok labelledListing := rfl
  have labelled : recorded (rolesOf labelledText) = [(0x401000, "main"), (0x401020, "app!f")] :=
    (symbols_of_parse parsed).symm
  have frames := (symbols_shown_nearest parsed [(0x401020, "app!g")]).2.2 .x86 .unknown
    [0x401034, 0x401008, 0x400FFF]
  rw [labelled] at frames
  exact ⟨parsed, labelled, frames⟩

end Listing

end FaultTriage
