import Ferrometer.Config.Units
import Ferrometer.Log.CursorFile

/-!
Contract: the text of a byte count.

Owns: `parseByteSize`, the counts as they can be written, and that the one accepts exactly
the other.

Does not own: how a value is taken out of a file.

A `usize` has `usizeBits` bits. Every slice starts and ends between two characters, so
that none of them panics.
-/

set_option autoImplicit false

namespace Ferrometer.Config

open Ferrometer.Foundation Ferrometer.Log

/-- The multiplier of a unit in lowercase. -/
def unitMultiplier : String → Option Nat
  | "" | "b" => some 1
  | "k" | "kb" => some 1000
  | "m" | "mb" => some 1000000
  | "g" | "gb" => some 1000000000
  | "kib" => some 1024
  | "mib" => some 1048576
  | "gib" => some 1073741824
  | _ => none

/-- `u64::checked_mul`. -/
def checkedMul (left right : Nat) : Option Nat :=
  if left * right < 2 ^ 64 then some (left * right) else none

/-- `usize::try_from`. -/
def usizeTryFrom (usizeBits value : Nat) : Option Nat :=
  if value < 2 ^ usizeBits then some value else none

def parseByteSize (usizeBits : Nat) (text : String) : Except String Nat :=
  let s := Text.trim isWhitespace text.toList
  let num := s.takeWhile Char.isDigit
  let unit := s.dropWhile Char.isDigit
  let invalid := "invalid byte size '" ++ String.ofList s ++ "': "
  match parseU64 num with
  | .error _ => .error (invalid ++ "expected <integer>[K|M|G]")
  | .ok n =>
      let unit := String.ofList ((Text.trim isWhitespace unit).map Char.toLower)
      match unitMultiplier unit with
      | none => .error (invalid ++ "unknown unit '" ++ unit ++ "' (expected K, M, or G)")
      | some mult =>
          match (checkedMul n mult).bind (usizeTryFrom usizeBits) with
          | none => .error (invalid ++ "out of range")
          | some size => .ok size

/-! ## The counts as they can be written -/

/-- The units with their multipliers. -/
def byteUnits : List (String × Nat) :=
  [("", 1), ("B", 1), ("K", 1000), ("KB", 1000), ("M", 1000 ^ 2), ("MB", 1000 ^ 2),
    ("G", 1000 ^ 3), ("GB", 1000 ^ 3), ("KiB", 1024), ("MiB", 1024 ^ 2), ("GiB", 1024 ^ 3)]

/-- The letters are those of a unit, in any case. -/
def IsUnit (unit : List Char) (multiplier : Nat) : Prop :=
  ∃ name, (name, multiplier) ∈ byteUnits ∧ unit.map Char.toLower = name.toList.map Char.toLower

/-- A run of digits, a unit, and blanks between and around them. -/
def WritesByteSize (text : String) (count multiplier : Nat) : Prop :=
  ∃ digits blanks unit, Text.trim isWhitespace text.toList = digits ++ blanks ++ unit ∧
    digits ≠ [] ∧ (∀ symbol ∈ digits, symbol.isDigit = true) ∧
    Nat.ofDigitChars 10 digits 0 = count ∧
    (∀ symbol ∈ blanks, isWhitespace symbol = true) ∧ IsUnit unit multiplier

private theorem listed_of_unitMultiplier {lower : String} {multiplier : Nat}
    (found : unitMultiplier lower = some multiplier) :
    ∃ name, (name, multiplier) ∈ byteUnits ∧ lower.toList = name.toList.map Char.toLower := by
  unfold unitMultiplier at found
  split at found
  · cases found
    exact ⟨"", by decide, rfl⟩
  · cases found
    exact ⟨"B", by decide, rfl⟩
  · cases found
    exact ⟨"K", by decide, rfl⟩
  · cases found
    exact ⟨"KB", by decide, rfl⟩
  · cases found
    exact ⟨"M", by decide, rfl⟩
  · cases found
    exact ⟨"MB", by decide, rfl⟩
  · cases found
    exact ⟨"G", by decide, rfl⟩
  · cases found
    exact ⟨"GB", by decide, rfl⟩
  · cases found
    exact ⟨"KiB", by decide, rfl⟩
  · cases found
    exact ⟨"MiB", by decide, rfl⟩
  · cases found
    exact ⟨"GiB", by decide, rfl⟩
  · cases found

private theorem unitMultiplier_eq_some {unit : List Char} {multiplier : Nat} :
    unitMultiplier (String.ofList (unit.map Char.toLower)) = some multiplier ↔
      IsUnit unit multiplier := by
  constructor
  · intro found
    rcases listed_of_unitMultiplier found with ⟨name, listed, same⟩
    rw [String.toList_ofList] at same
    exact ⟨name, listed, same⟩
  · rintro ⟨name, listed, same⟩
    rw [same]
    have table : ∀ entry ∈ byteUnits,
        unitMultiplier (String.ofList (entry.1.toList.map Char.toLower)) = some entry.2 := by
      decide +kernel
    exact table (name, multiplier) listed

/-! ## Where the digits end -/

/-- Only the capital letters are changed. -/
private theorem toLower_of_not_capital {symbol : Char}
    (other : symbol.toNat < 65 ∨ 90 < symbol.toNat) : symbol.toLower = symbol := by
  have notCapital : ¬ (symbol.val ≥ 'A'.val ∧ symbol.val ≤ 'Z'.val) := by
    show ¬ (65 ≤ symbol.toNat ∧ symbol.toNat ≤ 90)
    omega
  exact dif_neg notCapital

private theorem toLower_of_isDigit {symbol : Char} (isDigit : symbol.isDigit = true) :
    symbol.toLower = symbol := by
  have range : 48 ≤ symbol.toNat ∧ symbol.toNat ≤ 57 := Char.isDigit_iff_toNat.mp isDigit
  exact toLower_of_not_capital (Or.inl (by omega))

private theorem toLower_of_isWhitespace {symbol : Char} (blank : isWhitespace symbol = true) :
    symbol.toLower = symbol := by
  simp only [isWhitespace, Bool.or_eq_true, Bool.and_eq_true, decide_eq_true_eq,
    beq_iff_eq] at blank
  exact toLower_of_not_capital (by omega)

private theorem not_isDigit_of_isWhitespace {symbol : Char} (blank : isWhitespace symbol = true) :
    symbol.isDigit = false := by
  refine Bool.eq_false_iff.mpr fun isDigit => ?_
  have range : 48 ≤ symbol.toNat ∧ symbol.toNat ≤ 57 := Char.isDigit_iff_toNat.mp isDigit
  simp only [isWhitespace, Bool.or_eq_true, Bool.and_eq_true, decide_eq_true_eq,
    beq_iff_eq] at blank
  omega

/-- The letters of a unit are neither digits nor blanks. -/
private theorem letter_of_isUnit {unit : List Char} {multiplier : Nat}
    (isUnit : IsUnit unit multiplier) :
    ∀ symbol ∈ unit, symbol.isDigit = false ∧ isWhitespace symbol = false := by
  rcases isUnit with ⟨name, listed, same⟩
  have letters : ∀ entry ∈ byteUnits, (entry.1.toList.map Char.toLower).all
      (fun letter => !letter.isDigit && !isWhitespace letter) = true := by decide +kernel
  intro symbol member
  have isLetter := List.all_eq_true.mp (letters _ listed) symbol.toLower
    (same ▸ List.mem_map_of_mem member)
  constructor
  · refine Bool.eq_false_iff.mpr fun isDigit => ?_
    rw [toLower_of_isDigit isDigit, isDigit] at isLetter
    cases isLetter
  · refine Bool.eq_false_iff.mpr fun blank => ?_
    rw [toLower_of_isWhitespace blank, blank, Bool.not_true, Bool.and_false] at isLetter
    cases isLetter

/-- The first symbol that is no digit ends the number. -/
private theorem cut_of_writes {s digits blanks unit : List Char} {multiplier : Nat}
    (equal : s = digits ++ blanks ++ unit) (all : ∀ symbol ∈ digits, symbol.isDigit = true)
    (blank : ∀ symbol ∈ blanks, isWhitespace symbol = true) (isUnit : IsUnit unit multiplier) :
    s.takeWhile Char.isDigit = digits ∧
      Text.trim isWhitespace (s.dropWhile Char.isDigit) = unit := by
  have letters := letter_of_isUnit isUnit
  have noDigit : ∀ symbol ∈ blanks ++ unit, ¬ symbol.isDigit = true := by
    intro symbol member
    rcases List.mem_append.mp member with inBlanks | inUnit
    · simp [not_isDigit_of_isWhitespace (blank symbol inBlanks)]
    · simp [(letters symbol inUnit).1]
  have ends : (blanks ++ unit).takeWhile Char.isDigit = [] ∧
      (blanks ++ unit).dropWhile Char.isDigit = blanks ++ unit := by
    cases behind : blanks ++ unit with
    | nil => exact ⟨rfl, rfl⟩
    | cons symbol rest =>
        have first := noDigit symbol (behind ▸ List.mem_cons_self)
        exact ⟨List.takeWhile_cons_of_neg first, List.dropWhile_cons_of_neg first⟩
  rw [equal, List.append_assoc, List.takeWhile_append_of_pos all,
    List.dropWhile_append_of_pos all, ends.1, ends.2, List.append_nil,
    Text.trim_append_of_blank isWhitespace blank]
  refine ⟨rfl, Text.trim_of_solid isWhitespace ?_ ?_⟩
  · exact fun symbol first => (letters symbol (List.mem_of_mem_head? first)).2
  · exact fun symbol last => (letters symbol (List.mem_of_mem_getLast? last)).2

/-- Blanks alone stand between the digits of a trimmed text and what is left of it. -/
private theorem cut_eq (text : List Char) :
    ∃ blanks, (∀ symbol ∈ blanks, isWhitespace symbol = true) ∧
      Text.trim isWhitespace text =
        (Text.trim isWhitespace text).takeWhile Char.isDigit ++ blanks ++
          Text.trim isWhitespace ((Text.trim isWhitespace text).dropWhile Char.isDigit) := by
  have last := Text.getLast?_trim isWhitespace text
  generalize Text.trim isWhitespace text = s at last ⊢
  have split : s = s.takeWhile Char.isDigit ++ s.dropWhile Char.isDigit :=
    List.takeWhile_append_dropWhile.symm
  have lastBehind : ∀ symbol ∈ (s.dropWhile Char.isDigit).getLast?,
      isWhitespace symbol = false := by
    intro symbol isLast
    apply last
    rw [split, List.getLast?_append, Option.mem_def.mp isLast]
    rfl
  rcases Text.eq_append_trim isWhitespace lastBehind with ⟨blanks, blank, behind⟩
  refine ⟨blanks, blank, ?_⟩
  rw [List.append_assoc, ← behind]
  exact split

/-! ## What is accepted -/

private theorem product_eq_some {usizeBits count multiplier size : Nat} :
    (checkedMul count multiplier).bind (usizeTryFrom usizeBits) = some size ↔
      count * multiplier < 2 ^ 64 ∧ count * multiplier < 2 ^ usizeBits ∧
        size = count * multiplier := by
  rw [Option.bind_eq_some_iff]
  unfold checkedMul usizeTryFrom
  simp only [Option.ite_none_right_eq_some, Option.some.injEq]
  constructor
  · rintro ⟨_, ⟨small, rfl⟩, fits, rfl⟩
    exact ⟨small, fits, rfl⟩
  · rintro ⟨small, fits, rfl⟩
    exact ⟨_, ⟨small, rfl⟩, fits, rfl⟩

/-- The three steps of the function, each of which can fail. -/
private theorem parseByteSize_steps {usizeBits size : Nat} {text : String} :
    parseByteSize usizeBits text = .ok size ↔
      ∃ count multiplier,
        parseU64 ((Text.trim isWhitespace text.toList).takeWhile Char.isDigit) = .ok count ∧
        IsUnit (Text.trim isWhitespace
          ((Text.trim isWhitespace text.toList).dropWhile Char.isDigit)) multiplier ∧
        (checkedMul count multiplier).bind (usizeTryFrom usizeBits) = some size := by
  simp only [parseByteSize, ← unitMultiplier_eq_some]
  generalize Text.trim isWhitespace text.toList = s
  cases number : parseU64 (s.takeWhile Char.isDigit) with
  | error failure => simp
  | ok count =>
      generalize String.ofList ((Text.trim isWhitespace (s.dropWhile Char.isDigit)).map
        Char.toLower) = unit
      cases listed : unitMultiplier unit with
      | none => simp
      | some multiplier =>
          cases product : (checkedMul count multiplier).bind (usizeTryFrom usizeBits) with
          | none => simp [product]
          | some result => simp [product]

theorem parseByteSize_eq_ok_iff (usizeBits : Nat) (text : String) (size : Nat) :
    parseByteSize usizeBits text = .ok size ↔
      ∃ count multiplier, WritesByteSize text count multiplier ∧ count < 2 ^ 64 ∧
        count * multiplier < 2 ^ 64 ∧ count * multiplier < 2 ^ usizeBits ∧
        size = count * multiplier := by
  rw [parseByteSize_steps]
  constructor
  · rintro ⟨count, multiplier, number, isUnit, product⟩
    have all : ∀ symbol ∈ (Text.trim isWhitespace text.toList).takeWhile Char.isDigit,
        symbol.isDigit = true := fun symbol member => List.mem_takeWhile_imp member
    rcases (parseU64_digits all).mp number with ⟨⟨nonempty, isCount⟩, small⟩
    rcases cut_eq text.toList with ⟨blanks, blank, equal⟩
    exact ⟨count, multiplier, ⟨_, blanks, _, equal, nonempty, all, isCount, blank, isUnit⟩,
      small, product_eq_some.mp product⟩
  · rintro ⟨count, multiplier, written, small, fits⟩
    rcases written with ⟨digits, blanks, unit, equal, nonempty, all, isCount, blank, isUnit⟩
    rcases cut_of_writes equal all blank isUnit with ⟨number, rest⟩
    refine ⟨count, multiplier, ?_, ?_, product_eq_some.mpr fits⟩
    · rw [number]
      exact (parseU64_digits all).mpr ⟨⟨nonempty, isCount⟩, small⟩
    · rwa [rest]

end Ferrometer.Config
