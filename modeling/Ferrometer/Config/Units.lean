import Ferrometer.Config.Model

/-!
Contract: the text of a duration.

Owns: `u64::from_str` with its errors and what it accepts, `parseDuration`, and which
durations it reads exactly.

Does not own: how a text is taken out of a file.

`none` is the panic of a build with overflow checks. The release profile has none,
so there a product that is too large is cut to 64 bits.
-/

set_option autoImplicit false

namespace Ferrometer.Config

/-! ## Integers -/

inductive ParseIntError where
  | empty
  | invalidDigit
  | posOverflow
deriving DecidableEq

def ParseIntError.display : ParseIntError → String
  | empty => "cannot parse integer from empty string"
  | invalidDigit => "invalid digit found in string"
  | posOverflow => "number too large to fit in target type"

def digitValue (symbol : Char) : Option Nat :=
  if symbol.isDigit then some (symbol.toNat - '0'.toNat) else none

/-- The digits from the left, on top of the value of those before them. -/
def parseDigits : Nat → List Char → Except ParseIntError Nat
  | value, [] => .ok value
  | value, symbol :: rest =>
      match digitValue symbol with
      | none => .error .invalidDigit
      | some digit =>
          if value * 10 + digit < 2 ^ 64 then parseDigits (value * 10 + digit) rest
          else .error .posOverflow

/-- `u64::from_str`. -/
def parseU64 (text : List Char) : Except ParseIntError Nat :=
  match text with
  | [] => .error .empty
  | ['+'] | ['-'] => .error .invalidDigit
  | '+' :: digits => parseDigits 0 digits
  | digits => parseDigits 0 digits

/-- The decimal text of a number, with or without a plus sign. -/
def WritesNumber (text : List Char) (number : Nat) : Prop :=
  ∃ digits, (text = digits ∨ text = '+' :: digits) ∧ digits ≠ [] ∧
    (∀ symbol ∈ digits, symbol.isDigit = true) ∧ Nat.ofDigitChars 10 digits 0 = number

private theorem le_ofDigitChars (digits : List Char) (value : Nat) :
    value ≤ Nat.ofDigitChars 10 digits value := by
  rw [Nat.ofDigitChars_eq_ofDigitChars_zero]
  have positive : 1 ≤ 10 ^ digits.length := Nat.one_le_pow _ _ (by decide)
  calc value = 1 * value := (Nat.one_mul value).symm
    _ ≤ 10 ^ digits.length * value := Nat.mul_le_mul_right value positive
    _ ≤ _ := Nat.le_add_right _ _

/-- The digits are read to the end exactly when their value fits. What is read on the way
is never more than that. -/
theorem parseDigits_eq_ok {value number : Nat} {digits : List Char} (small : value < 2 ^ 64) :
    parseDigits value digits = .ok number ↔
      (∀ symbol ∈ digits, symbol.isDigit = true) ∧ Nat.ofDigitChars 10 digits value = number ∧
        number < 2 ^ 64 := by
  induction digits generalizing value with
  | nil =>
      rw [parseDigits, Except.ok.injEq, Nat.ofDigitChars_nil]
      constructor
      · rintro rfl
        exact ⟨nofun, rfl, small⟩
      · exact fun read => read.2.1
  | cons symbol rest inductionHypothesis =>
      rw [parseDigits, digitValue, Nat.ofDigitChars_cons, List.forall_mem_cons]
      by_cases isDigit : symbol.isDigit = true
      · rw [if_pos isDigit, Nat.mul_comm 10 value]
        by_cases fits : value * 10 + (symbol.toNat - '0'.toNat) < 2 ^ 64
        · simp only [if_pos fits, inductionHypothesis fits, isDigit, true_and]
        · simp only [if_neg fits]
          apply iff_of_false nofun
          rintro ⟨-, isNumber, below⟩
          have above := le_ofDigitChars rest (value * 10 + (symbol.toNat - '0'.toNat))
          omega
      · rw [if_neg isDigit]
        exact iff_of_false nofun fun read => isDigit read.1.1

/-- A run of digits with this value. -/
private def Digits (digits : List Char) (number : Nat) : Prop :=
  digits ≠ [] ∧ (∀ symbol ∈ digits, symbol.isDigit = true) ∧
    Nat.ofDigitChars 10 digits 0 = number

private theorem parseDigits_zero {digits : List Char} {number : Nat} (nonempty : digits ≠ []) :
    parseDigits 0 digits = .ok number ↔ Digits digits number ∧ number < 2 ^ 64 := by
  rw [parseDigits_eq_ok (by decide), Digits, and_assoc, and_assoc]
  exact (and_iff_right nonempty).symm

/-- A sign is no digit. -/
private theorem not_digits_sign {sign : Char} {digits : List Char} {number : Nat}
    (isSign : sign.isDigit = false) : ¬ Digits (sign :: digits) number := by
  rintro ⟨-, all, -⟩
  have isDigit := all sign List.mem_cons_self
  rw [isSign] at isDigit
  exact Bool.false_ne_true isDigit

private theorem writesNumber_iff {text : List Char} {number : Nat} :
    WritesNumber text number ↔
      Digits text number ∨ ∃ digits, text = '+' :: digits ∧ Digits digits number := by
  constructor
  · rintro ⟨digits, rfl | signed, isNumber⟩
    · exact Or.inl isNumber
    · exact Or.inr ⟨digits, signed, isNumber⟩
  · rintro (isNumber | ⟨digits, signed, isNumber⟩)
    · exact ⟨text, Or.inl rfl, isNumber⟩
    · exact ⟨digits, Or.inr signed, isNumber⟩

private theorem writesNumber_plus {digits : List Char} {number : Nat} :
    WritesNumber ('+' :: digits) number ↔ Digits digits number := by
  rw [writesNumber_iff]
  constructor
  · rintro (isNumber | ⟨others, same, isNumber⟩)
    · exact absurd isNumber (not_digits_sign (by decide))
    · rwa [(List.cons.inj same).2]
  · exact fun isNumber => Or.inr ⟨digits, rfl, isNumber⟩

theorem parseU64_eq_ok {text : List Char} {number : Nat} :
    parseU64 text = .ok number ↔ WritesNumber text number ∧ number < 2 ^ 64 := by
  unfold parseU64
  split
  · refine iff_of_false nofun fun written => ?_
    rcases writesNumber_iff.mp written.1 with isNumber | ⟨digits, signed, -⟩
    · exact isNumber.1 rfl
    · cases signed
  · exact iff_of_false nofun fun written => (writesNumber_plus.mp written.1).1 rfl
  · refine iff_of_false nofun fun written => ?_
    rcases writesNumber_iff.mp written.1 with isNumber | ⟨digits, signed, -⟩
    · exact not_digits_sign (by decide) isNumber
    · exact absurd signed (by simp)
  · rename_i digits notAlone
    rw [parseDigits_zero notAlone, writesNumber_plus]
  · rename_i nonempty _ _ notSigned
    rw [parseDigits_zero nonempty, writesNumber_iff]
    have unsigned : ¬ ∃ digits, text = '+' :: digits ∧ Digits digits number :=
      fun ⟨digits, signed, _⟩ => notSigned digits signed
    rw [or_iff_left unsigned]

/-- On digits alone there is no sign to be read. -/
theorem parseU64_digits {digits : List Char} {number : Nat}
    (all : ∀ symbol ∈ digits, symbol.isDigit = true) :
    parseU64 digits = .ok number ↔
      (digits ≠ [] ∧ Nat.ofDigitChars 10 digits 0 = number) ∧ number < 2 ^ 64 := by
  rw [parseU64_eq_ok, writesNumber_iff]
  apply and_congr_left'
  constructor
  · rintro (isNumber | ⟨others, rfl, -⟩)
    · exact ⟨isNumber.1, isNumber.2.2⟩
    · exact absurd (all '+' List.mem_cons_self) (by decide)
  · exact fun isNumber => Or.inl ⟨isNumber.1, all, isNumber.2⟩

/-! ## Durations -/

/-- `none` is a text that does not end in `suffix`. -/
def stripSuffix (suffix : Char) (text : List Char) : Option (List Char) :=
  if text.getLast? = some suffix then some text.dropLast else none

def multiplyU64 (overflowChecks : Bool) (left right : Nat) : Option Nat :=
  if left * right < 2 ^ 64 then some (left * right)
  else if overflowChecks then none
  else some (left * right % 2 ^ 64)

/-- `n.parse::<u64>()? * unit` seconds. -/
def parseSeconds (overflowChecks : Bool) (text : List Char) (unit : Nat) :
    Option (Except String Duration) :=
  match parseU64 text with
  | .error failure => some (.error failure.display)
  | .ok count => (multiplyU64 overflowChecks count unit).map fun seconds =>
      .ok (Duration.fromSecs seconds)

def parseDuration (overflowChecks : Bool) (text : String) : Option (Except String Duration) :=
  match stripSuffix 's' text.toList with
  | some count => parseSeconds overflowChecks count 1
  | none =>
      match stripSuffix 'm' text.toList with
      | some count => parseSeconds overflowChecks count 60
      | none =>
          match stripSuffix 'h' text.toList with
          | some count => parseSeconds overflowChecks count 3600
          | none => some (.error ("invalid duration '" ++ text ++ "': expected suffix s, m, or h"))

/-! ## Which durations are exact -/

def unitSeconds : Char → Option Nat
  | 's' => some 1
  | 'm' => some 60
  | 'h' => some 3600
  | _ => none

/-- A number with the suffix of a unit. -/
def WritesDuration (text : String) (count unit : Nat) : Prop :=
  ∃ number suffix, text.toList = number ++ [suffix] ∧ unitSeconds suffix = some unit ∧
    WritesNumber number count

/-- A text is read exactly: `parseDuration` returns, it returns no other duration than the
one written, and it returns an error if that one does not fit. -/
structure ParsesExactly (overflowChecks : Bool) (text : String) : Prop where
  returns : parseDuration overflowChecks text ≠ none
  exact : ∀ duration, parseDuration overflowChecks text = some (.ok duration) →
    ∃ count unit, WritesDuration text count unit ∧ duration = .fromSecs (count * unit)
  refuses : ∀ count unit, WritesDuration text count unit → 2 ^ 64 ≤ count * unit →
    ∃ message, parseDuration overflowChecks text = some (.error message)

private theorem stripSuffix_concat (suffix last : Char) (front : List Char) :
    stripSuffix suffix (front ++ [last]) = if last = suffix then some front else none := by
  rw [stripSuffix, List.getLast?_concat, List.dropLast_concat]
  exact if_congr Option.some_inj rfl rfl

private theorem parseDuration_concat (overflowChecks : Bool) {text : String} {number : List Char}
    {suffix : Char} {unit : Nat} (ends : text.toList = number ++ [suffix])
    (isUnit : unitSeconds suffix = some unit) :
    parseDuration overflowChecks text = parseSeconds overflowChecks number unit := by
  unfold parseDuration
  rw [ends, stripSuffix_concat, stripSuffix_concat, stripSuffix_concat]
  unfold unitSeconds at isUnit
  split at isUnit
  · cases isUnit
    rfl
  · cases isUnit
    rfl
  · cases isUnit
    rfl
  · cases isUnit

private theorem stripSuffix_eq_none {suffix : Char} {unit : Nat} {text : List Char}
    (isUnit : unitSeconds suffix = some unit)
    (other : ∀ number suffix unit, text = number ++ [suffix] → unitSeconds suffix ≠ some unit) :
    stripSuffix suffix text = none := by
  refine if_neg fun isLast => ?_
  rcases List.getLast?_eq_some_iff.mp isLast with ⟨number, ends⟩
  exact other number suffix unit ends isUnit

private theorem parseDuration_other (overflowChecks : Bool) {text : String}
    (other : ∀ number suffix unit, text.toList = number ++ [suffix] →
      unitSeconds suffix ≠ some unit) :
    ∃ message, parseDuration overflowChecks text = some (.error message) := by
  unfold parseDuration
  have seconds : unitSeconds 's' = some 1 := rfl
  have minutes : unitSeconds 'm' = some 60 := rfl
  have hours : unitSeconds 'h' = some 3600 := rfl
  rw [stripSuffix_eq_none seconds other, stripSuffix_eq_none minutes other,
    stripSuffix_eq_none hours other]
  exact ⟨_, rfl⟩

/-- What is read of a number below `2 ^ 64`, and of anything else. -/
theorem parseDuration_eq (overflowChecks : Bool) (text : String) :
    (∃ count unit, WritesDuration text count unit ∧ count < 2 ^ 64 ∧
      parseDuration overflowChecks text =
        (multiplyU64 overflowChecks count unit).map fun seconds => .ok (.fromSecs seconds)) ∨
    (∀ count unit, WritesDuration text count unit → 2 ^ 64 ≤ count) ∧
      ∃ message, parseDuration overflowChecks text = some (.error message) := by
  by_cases suffixed : ∃ number suffix unit, text.toList = number ++ [suffix] ∧
      unitSeconds suffix = some unit
  · rcases suffixed with ⟨number, suffix, unit, ends, isUnit⟩
    rw [parseDuration_concat overflowChecks ends isUnit]
    cases read : parseU64 number with
    | ok count =>
        rcases parseU64_eq_ok.mp read with ⟨written, small⟩
        refine Or.inl ⟨count, unit, ⟨number, suffix, ends, isUnit, written⟩, small, ?_⟩
        rw [parseSeconds, read]
    | error failure =>
        refine Or.inr ⟨?_, failure.display, by rw [parseSeconds, read]⟩
        rintro count other ⟨others, last, endsToo, -, written⟩
        obtain ⟨rfl, -⟩ := List.append_inj' (ends.symm.trans endsToo) rfl
        refine Nat.le_of_not_lt fun small => ?_
        rw [parseU64_eq_ok.mpr ⟨written, small⟩] at read
        cases read
  · refine Or.inr ⟨?_, parseDuration_other overflowChecks ?_⟩
    · rintro count unit ⟨number, suffix, ends, isUnit, -⟩
      exact absurd ⟨number, suffix, unit, ends, isUnit⟩ suffixed
    · intro number suffix unit ends isUnit
      exact suffixed ⟨number, suffix, unit, ends, isUnit⟩

private theorem writesNumber_unique {text : List Char} {first second : Nat}
    (isFirst : WritesNumber text first) (isSecond : WritesNumber text second) :
    first = second := by
  rcases writesNumber_iff.mp isFirst with isNumber | ⟨digits, rfl, isNumber⟩
  · rcases writesNumber_iff.mp isSecond with isOther | ⟨digits, rfl, -⟩
    · exact isNumber.2.2.symm.trans isOther.2.2
    · exact absurd isNumber (not_digits_sign (by decide))
  · have isOther := writesNumber_plus.mp isSecond
    exact isNumber.2.2.symm.trans isOther.2.2

/-- A text writes one duration at most. -/
private theorem writesDuration_unique {text : String} {count unit otherCount otherUnit : Nat}
    (first : WritesDuration text count unit) (second : WritesDuration text otherCount otherUnit) :
    count = otherCount ∧ unit = otherUnit := by
  rcases first with ⟨number, suffix, ends, isUnit, written⟩
  rcases second with ⟨others, last, endsToo, isUnitToo, writtenToo⟩
  obtain ⟨rfl, sameLast⟩ := List.append_inj' (ends.symm.trans endsToo) rfl
  obtain rfl := List.singleton_inj.mp sameLast
  refine ⟨writesNumber_unique written writtenToo, ?_⟩
  rw [isUnit] at isUnitToo
  exact Option.some.inj isUnitToo

theorem parseDuration_exact_iff (overflowChecks : Bool) (text : String) :
    ParsesExactly overflowChecks text ↔
      ∀ count unit, WritesDuration text count unit → count < 2 ^ 64 → count * unit < 2 ^ 64 := by
  rcases parseDuration_eq overflowChecks text with
    ⟨count, unit, written, small, read⟩ | ⟨large, message, failed⟩
  · constructor
    · intro exactly otherCount otherUnit writtenToo _
      obtain ⟨rfl, rfl⟩ := writesDuration_unique written writtenToo
      refine Nat.lt_of_not_le fun overflows => ?_
      rcases exactly.refuses _ _ written overflows with ⟨message, refused⟩
      rw [read] at refused
      rcases Option.map_eq_some_iff.mp refused with ⟨seconds, -, other⟩
      cases other
    · intro fits
      have product : multiplyU64 overflowChecks count unit = some (count * unit) :=
        if_pos (fits count unit written small)
      rw [product, Option.map_some] at read
      constructor
      · rw [read]
        exact Option.some_ne_none _
      · intro duration isDuration
        rw [read] at isDuration
        cases isDuration
        exact ⟨count, unit, written, rfl⟩
      · intro otherCount otherUnit writtenToo overflows
        obtain ⟨rfl, rfl⟩ := writesDuration_unique written writtenToo
        exact absurd (fits _ _ written small) (Nat.not_lt.mpr overflows)
  · refine iff_of_true ?_ fun count unit written small =>
      absurd (large count unit written) (Nat.not_le.mpr small)
    constructor
    · rw [failed]
      exact Option.some_ne_none _
    · intro duration isDuration
      rw [failed] at isDuration
      cases isDuration
    · exact fun _ _ _ _ => ⟨message, failed⟩

/-- More than `2 ^ 64` seconds, read as 44 by a build of the release profile. -/
def longMinutes : String := "307445734561825861m"

theorem parseDuration_longMinutes :
    parseDuration false longMinutes = some (.ok (.fromSecs 44)) ∧
      parseDuration true longMinutes = none ∧
      ∀ overflowChecks, ¬ ParsesExactly overflowChecks longMinutes := by
  have wrapped : parseDuration false longMinutes = some (.ok (.fromSecs 44)) := by decide +kernel
  have panicked : parseDuration true longMinutes = none := by decide +kernel
  have digits : "307445734561825861".toList.all Char.isDigit = true := by decide +kernel
  have written : WritesDuration longMinutes 307445734561825861 60 :=
    ⟨"307445734561825861".toList, 'm', rfl, rfl, _, Or.inl rfl, by decide,
      List.all_eq_true.mp digits, rfl⟩
  refine ⟨wrapped, panicked, fun overflowChecks exactly => ?_⟩
  cases overflowChecks with
  | false =>
      rcases exactly.refuses _ _ written (by decide) with ⟨message, refused⟩
      rw [wrapped] at refused
      cases refused
  | true => exact exactly.returns panicked

end Ferrometer.Config
