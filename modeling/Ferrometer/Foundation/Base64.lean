import Mathlib.Data.List.Basic

/-!
Contract: Base64 with padding.

Owns: the encoding of bytes with an alphabet of 64 symbols, a strict decoder, the round
trip, and which symbols an encoding is made of.

Does not own: what the bytes stand for. The alphabet is a parameter, and the standard one
is an instance.
-/

set_option autoImplicit false

namespace Ferrometer.Foundation.Base64

universe u

/-- 64 symbols that can be told apart, and another one for the padding. -/
structure Alphabet (Symbol : Type u) where
  symbol : Fin 64 → Symbol
  value : Symbol → Option (Fin 64)
  pad : Symbol
  value_symbol : ∀ digit, value (symbol digit) = some digit
  value_pad : value pad = none

/-- The lowest eight bits. -/
def byte (bits : Nat) : UInt8 :=
  UInt8.ofNat bits

theorem byte_eq {value : UInt8} {bits : Nat} (same : bits % 256 = value.toNat) :
    byte bits = value := by
  apply UInt8.toNat_inj.mp
  rw [byte, UInt8.toNat_ofNat']
  exact same

namespace Alphabet

variable {Symbol : Type u} (alphabet : Alphabet Symbol)

/-- The symbol for the lowest six bits. -/
def low (bits : Nat) : Symbol :=
  alphabet.symbol (Fin.ofNat 64 bits)

@[simp] theorem value_low (bits : Nat) : alphabet.value (alphabet.low bits) =
    some (Fin.ofNat 64 bits) :=
  alphabet.value_symbol _

/-- Three bytes to four symbols, the last ones padded with zero bits. -/
def encode : List UInt8 → List Symbol
  | [] => []
  | [first] =>
      let bits := first.toNat * 16
      [alphabet.low (bits / 64), alphabet.low bits, alphabet.pad, alphabet.pad]
  | [first, second] =>
      let bits := first.toNat * 1024 + second.toNat * 4
      [alphabet.low (bits / 4096), alphabet.low (bits / 64), alphabet.low bits, alphabet.pad]
  | first :: second :: third :: rest =>
      let bits := first.toNat * 65536 + second.toNat * 256 + third.toNat
      alphabet.low (bits / 262144) :: alphabet.low (bits / 4096) :: alphabet.low (bits / 64) ::
        alphabet.low bits :: encode rest

variable [DecidableEq Symbol]

/-- What four symbols stand for. Padding is only found at the end, and the bits that it
leaves over are zero. -/
def decodeQuad (first second third fourth : Symbol) (atEnd : Bool) : Option (List UInt8) := do
  let high ← alphabet.value first
  let next ← alphabet.value second
  match alphabet.value third, alphabet.value fourth with
  | some upper, some lower =>
      let bits := high.val * 262144 + next.val * 4096 + upper.val * 64 + lower.val
      some [byte (bits / 65536), byte (bits / 256), byte bits]
  | some upper, none =>
      let bits := high.val * 4096 + next.val * 64 + upper.val
      if atEnd && fourth = alphabet.pad && bits % 4 = 0 then
        some [byte (bits / 1024), byte (bits / 4)]
      else none
  | none, _ =>
      let bits := high.val * 64 + next.val
      if atEnd && third = alphabet.pad && fourth = alphabet.pad && bits % 16 = 0 then
        some [byte (bits / 16)]
      else none

def decode : List Symbol → Option (List UInt8)
  | [] => some []
  | first :: second :: third :: fourth :: rest => do
      let bytes ← alphabet.decodeQuad first second third fourth rest.isEmpty
      let others ← decode rest
      some (bytes ++ others)
  | _ => none

@[simp] theorem decode_encode (bytes : List UInt8) :
    alphabet.decode (alphabet.encode bytes) = some bytes := by
  fun_induction encode with
  | case1 => rfl
  | case2 first bits =>
      have below := first.toNat_lt
      have whole : bits / 64 % 64 * 64 + bits % 64 = bits := by omega
      have byte : byte (bits / 16) = first := byte_eq (by omega)
      have unused : bits % 16 = 0 := by omega
      simp [decode, decodeQuad, alphabet.value_pad, whole, byte, unused]
  | case3 first second bits =>
      have firstBelow := first.toNat_lt
      have secondBelow := second.toNat_lt
      have whole : bits / 4096 % 64 * 4096 + bits / 64 % 64 * 64 + bits % 64 = bits := by omega
      have firstByte : byte (bits / 1024) = first := byte_eq (by omega)
      have secondByte : byte (bits / 4) = second := byte_eq (by omega)
      have unused : bits % 4 = 0 := by omega
      simp [decode, decodeQuad, alphabet.value_pad, whole, firstByte, secondByte, unused]
  | case4 first second third rest bits inductionHypothesis =>
      have firstBelow := first.toNat_lt
      have secondBelow := second.toNat_lt
      have thirdBelow := third.toNat_lt
      have whole : bits / 262144 % 64 * 262144 + bits / 4096 % 64 * 4096 + bits / 64 % 64 * 64 +
          bits % 64 = bits := by omega
      have firstByte : byte (bits / 65536) = first := byte_eq (by omega)
      have secondByte : byte (bits / 256) = second := byte_eq (by omega)
      have thirdByte : byte bits = third := byte_eq (by omega)
      simp [decode, decodeQuad, whole, firstByte, secondByte, thirdByte, inductionHypothesis]

omit [DecidableEq Symbol] in
theorem mem_encode {bytes : List UInt8} {symbol : Symbol}
    (member : symbol ∈ alphabet.encode bytes) :
    symbol = alphabet.pad ∨ ∃ digit, symbol = alphabet.symbol digit := by
  have isLow : ∀ bits, symbol = alphabet.low bits →
      symbol = alphabet.pad ∨ ∃ digit, symbol = alphabet.symbol digit :=
    fun bits same => Or.inr ⟨_, same⟩
  fun_induction encode <;> grind

end Alphabet

/-! ## The standard alphabet -/

def standardSymbols : List Char :=
  "ABCDEFGHIJKLMNOPQRSTUVWXYZabcdefghijklmnopqrstuvwxyz0123456789+/".toList

theorem length_standardSymbols : standardSymbols.length = 64 := by decide +kernel

def standardSymbol (digit : Fin 64) : Char :=
  standardSymbols.get (digit.cast length_standardSymbols.symm)

def standardValue (symbol : Char) : Option (Fin 64) :=
  (standardSymbols.findFinIdx? (· = symbol)).map (Fin.cast length_standardSymbols)

theorem standardValue_symbol : ∀ digit, standardValue (standardSymbol digit) = some digit := by
  decide +kernel

theorem standardValue_pad : standardValue '=' = none := by decide +kernel

/-- The alphabet of letters, digits, `+` and `/`. -/
def standard : Alphabet Char where
  symbol := standardSymbol
  value := standardValue
  pad := '='
  value_symbol := standardValue_symbol
  value_pad := standardValue_pad

/-- A symbol of an encoding can stand in a header: it is a visible ASCII character. -/
theorem standard_visible {bytes : List UInt8} {symbol : Char}
    (member : symbol ∈ standard.encode bytes) : 33 ≤ symbol.toNat ∧ symbol.toNat ≤ 126 := by
  have visible : ∀ digit,
      33 ≤ (standardSymbol digit).toNat ∧ (standardSymbol digit).toNat ≤ 126 := by
    decide +kernel
  rcases standard.mem_encode member with rfl | ⟨digit, rfl⟩
  · decide +kernel
  · exact visible digit

end Ferrometer.Foundation.Base64
