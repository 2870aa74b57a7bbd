import Ferrometer.Foundation.Text
import Mathlib.Algebra.GroupWithZero.Nat
import Mathlib.Tactic.Common

/-!
Contract: the protobuf wire format.

Owns: varints, fixed-width values and length-delimited fields; the field list
of a byte string; messages as a fold of fields, the way a decoder merges them
one at a time; the law that concatenated encodings decode as one message; and bounds on
the length of an encoding.

Does not own: any message type, or the ten-byte limit on a varint. A length or
a key is read here at whatever size it is written.
-/

set_option autoImplicit false

namespace Ferrometer.Foundation.ProtoWire

/-! ## Varints -/

/-- Seven bits a byte, least significant first, the top bit set on all but the
last byte. -/
def encodeVarint (value : Nat) : List UInt8 :=
  if value < 128 then [UInt8.ofNat value]
  else UInt8.ofNat (value % 128 + 128) :: encodeVarint (value / 128)
termination_by value
decreasing_by omega

def parseVarint : List UInt8 → Option (Nat × List UInt8)
  | [] => none
  | byte :: rest =>
      if byte.toNat < 128 then some (byte.toNat, rest)
      else (parseVarint rest).map fun (high, tail) => (byte.toNat - 128 + 128 * high, tail)

theorem encodeVarint_ne_nil (value : Nat) : encodeVarint value ≠ [] := by
  rw [encodeVarint]
  split <;> simp

theorem parseVarint_encodeVarint (value : Nat) (tail : List UInt8) :
    parseVarint (encodeVarint value ++ tail) = some (value, tail) := by
  induction value using Nat.strongRecOn with
  | ind value inductionHypothesis =>
      rw [encodeVarint]
      split
      · rename_i small
        have byte : (UInt8.ofNat value).toNat = value := by
          rw [UInt8.toNat_ofNat']
          omega
        rw [List.cons_append, List.nil_append, parseVarint, byte, if_pos small]
      · rename_i large
        have byte : (UInt8.ofNat (value % 128 + 128)).toNat = value % 128 + 128 := by
          rw [UInt8.toNat_ofNat']
          omega
        rw [List.cons_append, parseVarint, byte, if_neg (by omega),
          inductionHypothesis (value / 128) (by omega)]
        simp only [Option.map_some, Option.some.injEq, Prod.mk.injEq, and_true]
        omega

/-- Bytes behind a varint do not change how it reads. -/
theorem parseVarint_append {bytes tail : List UInt8} {value : Nat}
    (parsed : parseVarint bytes = some (value, tail)) (more : List UInt8) :
    parseVarint (bytes ++ more) = some (value, tail ++ more) := by
  induction bytes generalizing value with
  | nil => simp [parseVarint] at parsed
  | cons byte rest inductionHypothesis =>
      rw [parseVarint] at parsed
      rw [List.cons_append, parseVarint]
      split
      · rename_i last
        rw [if_pos last] at parsed
        simp only [Option.some.injEq, Prod.mk.injEq] at parsed ⊢
        exact ⟨parsed.1, by rw [parsed.2]⟩
      · rename_i continues
        rw [if_neg continues] at parsed
        obtain ⟨⟨high, rest⟩, parsedRest, equal⟩ := Option.map_eq_some_iff.mp parsed
        simp only [Prod.mk.injEq] at equal
        obtain ⟨rfl, rfl⟩ := equal
        rw [inductionHypothesis parsedRest]
        rfl

/-! ## Fields -/

inductive WireValue where
  | varint (value : Nat)
  | fixed64 (bits : UInt64)
  | lengthDelimited (bytes : List UInt8)
  | fixed32 (bits : UInt32)
deriving DecidableEq

structure WireField where
  number : Nat
  value : WireValue
  positive : 0 < number
deriving DecidableEq

def WireValue.wireType : WireValue → Nat
  | .varint _ => 0
  | .fixed64 _ => 1
  | .lengthDelimited _ => 2
  | .fixed32 _ => 5

/-- The `count` low bytes of a number, least significant first. -/
def littleEndian : Nat → Nat → List UInt8
  | 0, _ => []
  | count + 1, value => UInt8.ofNat (value % 256) :: littleEndian count (value / 256)

def ofLittleEndian : List UInt8 → Nat
  | [] => 0
  | byte :: rest => byte.toNat + 256 * ofLittleEndian rest

@[simp] theorem littleEndian_length (count value : Nat) :
    (littleEndian count value).length = count := by
  induction count generalizing value with
  | zero => rfl
  | succ count inductionHypothesis => rw [littleEndian, List.length_cons, inductionHypothesis]

theorem ofLittleEndian_littleEndian (count value : Nat) :
    ofLittleEndian (littleEndian count value) = value % 256 ^ count := by
  induction count generalizing value with
  | zero => simp [littleEndian, ofLittleEndian, Nat.mod_one]
  | succ count inductionHypothesis =>
      have low : (UInt8.ofNat (value % 256)).toNat = value % 256 := by
        rw [UInt8.toNat_ofNat']
        omega
      rw [littleEndian, ofLittleEndian, inductionHypothesis, low, Nat.pow_succ', Nat.mod_mul]

def WireValue.encode : WireValue → List UInt8
  | .varint value => encodeVarint value
  | .fixed64 bits => littleEndian 8 bits.toNat
  | .lengthDelimited bytes => encodeVarint bytes.length ++ bytes
  | .fixed32 bits => littleEndian 4 bits.toNat

def encodeField (field : WireField) : List UInt8 :=
  encodeVarint (8 * field.number + field.value.wireType) ++ field.value.encode

def encodeFields (fields : List WireField) : List UInt8 :=
  fields.flatMap encodeField

/-- The first `count` bytes, if there are that many, and the rest. -/
def takeBytes (count : Nat) (bytes : List UInt8) : Option (List UInt8 × List UInt8) :=
  if count ≤ bytes.length then some (bytes.take count, bytes.drop count) else none

def parseValue (wireType : Nat) (bytes : List UInt8) : Option (WireValue × List UInt8) :=
  match wireType with
  | 0 => (parseVarint bytes).map fun (value, tail) => (.varint value, tail)
  | 1 => (takeBytes 8 bytes).map fun (payload, tail) =>
      (.fixed64 (UInt64.ofNat (ofLittleEndian payload)), tail)
  | 2 => (parseVarint bytes).bind fun (count, tail) =>
      (takeBytes count tail).map fun (payload, tail) => (.lengthDelimited payload, tail)
  | 5 => (takeBytes 4 bytes).map fun (payload, tail) =>
      (.fixed32 (UInt32.ofNat (ofLittleEndian payload)), tail)
  | _ => none

def parseField (bytes : List UInt8) : Option (WireField × List UInt8) :=
  (parseVarint bytes).bind fun (key, tail) =>
    if positive : 0 < key / 8 then
      (parseValue (key % 8) tail).map fun (value, tail) => (⟨key / 8, value, positive⟩, tail)
    else none

/-- `fuel` bounds the number of fields; a byte string has no more fields than
bytes. -/
def parseFieldsWith : Nat → List UInt8 → Option (List WireField)
  | _, [] => some []
  | 0, _ :: _ => none
  | fuel + 1, byte :: rest =>
      (parseField (byte :: rest)).bind fun (field, tail) =>
        (parseFieldsWith fuel tail).map fun fields => field :: fields

def parseFields (bytes : List UInt8) : Option (List WireField) :=
  parseFieldsWith bytes.length bytes

/-! ## Reading back what was written -/

private theorem takeBytes_append (payload tail : List UInt8) :
    takeBytes payload.length (payload ++ tail) = some (payload, tail) := by
  simp [takeBytes]

private theorem takeBytes_littleEndian (count value : Nat) (tail : List UInt8) :
    takeBytes count (littleEndian count value ++ tail) =
      some (littleEndian count value, tail) := by
  have taken := takeBytes_append (littleEndian count value) tail
  rwa [littleEndian_length] at taken

private theorem parseValue_encode (value : WireValue) (tail : List UInt8) :
    parseValue value.wireType (value.encode ++ tail) = some (value, tail) := by
  cases value with
  | varint value =>
      simp [WireValue.wireType, WireValue.encode, parseValue, parseVarint_encodeVarint]
  | fixed64 bits =>
      have whole : bits.toNat % 256 ^ 8 = bits.toNat := Nat.mod_eq_of_lt bits.toNat_lt
      simp only [WireValue.wireType, WireValue.encode, parseValue, takeBytes_littleEndian,
        ofLittleEndian_littleEndian, Option.map_some, whole, UInt64.ofNat_toNat]
  | lengthDelimited bytes =>
      simp only [WireValue.wireType, WireValue.encode, parseValue, List.append_assoc,
        parseVarint_encodeVarint, Option.bind_some, takeBytes_append, Option.map_some]
  | fixed32 bits =>
      have whole : bits.toNat % 256 ^ 4 = bits.toNat := Nat.mod_eq_of_lt bits.toNat_lt
      simp only [WireValue.wireType, WireValue.encode, parseValue, takeBytes_littleEndian,
        ofLittleEndian_littleEndian, Option.map_some, whole, UInt32.ofNat_toNat]

theorem parseField_encodeField (field : WireField) (tail : List UInt8) :
    parseField (encodeField field ++ tail) = some (field, tail) := by
  obtain ⟨fieldNumber, value, positive⟩ := field
  have typeBound : value.wireType < 8 := by
    cases value <;> simp [WireValue.wireType]
  have number : (8 * fieldNumber + value.wireType) / 8 = fieldNumber := by omega
  have wireType : (8 * fieldNumber + value.wireType) % 8 = value.wireType := by omega
  have readKey := parseVarint_encodeVarint (8 * fieldNumber + value.wireType)
    (value.encode ++ tail)
  rw [encodeField, List.append_assoc, parseField, readKey]
  simp only [Option.bind_some, number, wireType, positive, dif_pos, parseValue_encode,
    Option.map_some]

theorem encodeField_ne_nil (field : WireField) : encodeField field ≠ [] := by
  rw [encodeField]
  exact List.append_ne_nil_of_left_ne_nil (encodeVarint_ne_nil _) _

private theorem parseFieldsWith_step {fuel : Nat} {bytes tail : List UInt8} {field : WireField}
    (parsed : parseField bytes = some (field, tail)) :
    parseFieldsWith (fuel + 1) bytes =
      (parseFieldsWith fuel tail).map fun fields => field :: fields := by
  cases bytes with
  | nil => simp [parseField, parseVarint] at parsed
  | cons byte rest => rw [parseFieldsWith, parsed, Option.bind_some]

theorem parseFields_encodeFields (fields : List WireField) :
    parseFields (encodeFields fields) = some fields := by
  suffices enough : ∀ fuel, (encodeFields fields).length ≤ fuel →
      parseFieldsWith fuel (encodeFields fields) = some fields from
    enough _ (Nat.le_refl _)
  induction fields with
  | nil =>
      intro fuel _
      cases fuel <;> rfl
  | cons field rest inductionHypothesis =>
      intro fuel bound
      have nonempty := List.length_pos_of_ne_nil (encodeField_ne_nil field)
      have split : encodeFields (field :: rest) = encodeField field ++ encodeFields rest := rfl
      rw [split, List.length_append] at bound
      obtain ⟨fuel, rfl⟩ : ∃ smaller, fuel = smaller + 1 := ⟨fuel - 1, by omega⟩
      rw [split, parseFieldsWith_step (parseField_encodeField field _),
        inductionHypothesis fuel (by omega)]
      rfl

/-! ## Concatenation -/

private theorem takeBytes_append_right {count : Nat} {bytes payload tail : List UInt8}
    (taken : takeBytes count bytes = some (payload, tail)) (more : List UInt8) :
    takeBytes count (bytes ++ more) = some (payload, tail ++ more) := by
  unfold takeBytes at taken ⊢
  split at taken
  · rename_i fits
    simp only [Option.some.injEq, Prod.mk.injEq] at taken
    obtain ⟨rfl, rfl⟩ := taken
    rw [if_pos (by rw [List.length_append]; omega), List.take_append_of_le_length fits,
      List.drop_append_of_le_length fits]
  · exact absurd taken (by simp)

private theorem parseValue_append {wireType : Nat} {bytes tail : List UInt8} {value : WireValue}
    (parsed : parseValue wireType bytes = some (value, tail)) (more : List UInt8) :
    parseValue wireType (bytes ++ more) = some (value, tail ++ more) := by
  unfold parseValue at parsed ⊢
  split at parsed
  · obtain ⟨⟨number, rest⟩, read, equal⟩ := Option.map_eq_some_iff.mp parsed
    obtain ⟨rfl, rfl⟩ := Prod.mk.inj equal
    rw [parseVarint_append read more]
    rfl
  · obtain ⟨⟨payload, rest⟩, read, equal⟩ := Option.map_eq_some_iff.mp parsed
    obtain ⟨rfl, rfl⟩ := Prod.mk.inj equal
    rw [takeBytes_append_right read more]
    rfl
  · obtain ⟨⟨count, middle⟩, readCount, parsedRest⟩ := Option.bind_eq_some_iff.mp parsed
    obtain ⟨⟨payload, rest⟩, read, equal⟩ := Option.map_eq_some_iff.mp parsedRest
    obtain ⟨rfl, rfl⟩ := Prod.mk.inj equal
    rw [parseVarint_append readCount more, Option.bind_some]
    show (takeBytes count (middle ++ more)).map _ = _
    rw [takeBytes_append_right read more]
    rfl
  · obtain ⟨⟨payload, rest⟩, read, equal⟩ := Option.map_eq_some_iff.mp parsed
    obtain ⟨rfl, rfl⟩ := Prod.mk.inj equal
    rw [takeBytes_append_right read more]
    rfl
  · exact absurd parsed (by simp)

private theorem parseField_append {bytes tail : List UInt8} {field : WireField}
    (parsed : parseField bytes = some (field, tail)) (more : List UInt8) :
    parseField (bytes ++ more) = some (field, tail ++ more) := by
  unfold parseField at parsed ⊢
  obtain ⟨⟨key, middle⟩, readKey, parsedRest⟩ := Option.bind_eq_some_iff.mp parsed
  simp only at parsedRest
  split at parsedRest
  · rename_i positive
    obtain ⟨⟨value, rest⟩, read, equal⟩ := Option.map_eq_some_iff.mp parsedRest
    obtain ⟨rfl, rfl⟩ := Prod.mk.inj equal
    rw [parseVarint_append readKey more, Option.bind_some]
    simp only [positive, dif_pos, parseValue_append read more, Option.map_some]
  · exact absurd parsedRest (by simp)

/-- Fuel beyond what a parse needs changes nothing. -/
private theorem parseFieldsWith_moreFuel {fuel more : Nat} (enough : fuel ≤ more)
    {bytes : List UInt8} {fields : List WireField}
    (parsed : parseFieldsWith fuel bytes = some fields) :
    parseFieldsWith more bytes = some fields := by
  induction fuel generalizing more bytes fields with
  | zero =>
      cases bytes with
      | nil => cases more <;> exact parsed
      | cons byte rest => simp [parseFieldsWith] at parsed
  | succ fuel inductionHypothesis =>
      obtain ⟨more, rfl⟩ : ∃ smaller, more = smaller + 1 := ⟨more - 1, by omega⟩
      cases bytes with
      | nil => exact parsed
      | cons byte rest =>
          rw [parseFieldsWith] at parsed ⊢
          obtain ⟨⟨field, tail⟩, readField, parsedRest⟩ := Option.bind_eq_some_iff.mp parsed
          obtain ⟨others, readOthers, equal⟩ := Option.map_eq_some_iff.mp parsedRest
          rw [readField, Option.bind_some]
          show (parseFieldsWith more tail).map _ = _
          rw [inductionHypothesis (by omega) readOthers]
          exact congrArg some equal

private theorem parseFieldsWith_append {fuel moreFuel : Nat} {first second : List UInt8}
    {firstFields secondFields : List WireField}
    (parsedFirst : parseFieldsWith fuel first = some firstFields)
    (parsedSecond : parseFieldsWith moreFuel second = some secondFields) :
    parseFieldsWith (fuel + moreFuel) (first ++ second) =
      some (firstFields ++ secondFields) := by
  induction fuel generalizing first firstFields with
  | zero =>
      cases first with
      | nil =>
          obtain rfl : [] = firstFields := Option.some.inj parsedFirst
          exact parseFieldsWith_moreFuel (by omega) parsedSecond
      | cons byte rest => simp [parseFieldsWith] at parsedFirst
  | succ fuel inductionHypothesis =>
      cases first with
      | nil =>
          obtain rfl : [] = firstFields := Option.some.inj parsedFirst
          exact parseFieldsWith_moreFuel (by omega) parsedSecond
      | cons byte rest =>
          rw [parseFieldsWith] at parsedFirst
          obtain ⟨⟨field, tail⟩, readField, parsedRest⟩ :=
            Option.bind_eq_some_iff.mp parsedFirst
          obtain ⟨others, readOthers, rfl⟩ := Option.map_eq_some_iff.mp parsedRest
          have fuelSucc : fuel + 1 + moreFuel = fuel + moreFuel + 1 := by omega
          rw [fuelSucc, parseFieldsWith_step (parseField_append readField second),
            inductionHypothesis readOthers]
          rfl

/-- The concatenation law: the fields of two messages in a row are the fields of
the first and then those of the second. -/
theorem parseFields_append {first second : List UInt8} {firstFields secondFields : List WireField}
    (parsedFirst : parseFields first = some firstFields)
    (parsedSecond : parseFields second = some secondFields) :
    parseFields (first ++ second) = some (firstFields ++ secondFields) := by
  rw [parseFields, List.length_append]
  exact parseFieldsWith_append parsedFirst parsedSecond

/-! ## Messages -/

/-- A message type: its default value, how a decoder merges one field into it
(`none` is a malformed field) and the fields an encoder writes. -/
class Message (Value : Type) where
  empty : Value
  mergeField : Value → WireField → Option Value
  fields : Value → List WireField

section Messages

variable {Value : Type} [Message Value]

def merge (value : Value) (bytes : List UInt8) : Option Value :=
  (parseFields bytes).bind fun fields => fields.foldlM Message.mergeField value

def decode (bytes : List UInt8) : Option Value :=
  merge Message.empty bytes

def encode (value : Value) : List UInt8 :=
  encodeFields (Message.fields value)

/-! ## Field kinds

A proto3 encoder leaves out a scalar field that has its default value. -/

def stringField (number : Nat) (value : String) (positive : 0 < number) :
    List WireField :=
  if value = "" then [] else [⟨number, .lengthDelimited (Text.utf8Bytes value), positive⟩]

/-- `int32` goes on the wire as the 64-bit varint of the same number. -/
def int32Varint (value : Int32) : WireValue :=
  .varint (value.toBitVec.signExtend 64).toNat

def readInt32 (value : Nat) : Int32 :=
  .ofBitVec (.ofNat 32 value)

@[simp] theorem readInt32_signExtend (value : Int32) :
    readInt32 (value.toBitVec.signExtend 64).toNat = value := by
  have narrowed : BitVec.ofNat 32 (value.toBitVec.signExtend 64).toNat = value.toBitVec := by
    rw [BitVec.ofNat_toNat]
    ext i bound
    rw [BitVec.getElem_setWidth, BitVec.getLsbD_signExtend]
    simp [show i < 64 by omega, bound]
  rw [readInt32, narrowed, Int32.ofBitVec_toBitVec]

def int64Varint (value : Int64) : WireValue :=
  .varint value.toUInt64.toNat

def readInt64 (value : Nat) : Int64 :=
  (UInt64.ofNat value).toInt64

@[simp] theorem readInt64_toNat (value : Int64) : readInt64 value.toUInt64.toNat = value := by
  rw [readInt64, UInt64.ofNat_toNat]
  rfl

def boolVarint (value : Bool) : WireValue :=
  .varint value.toNat

def embedded (message : Value) : WireValue :=
  .lengthDelimited (encode message)

/-- Merging the fields of a message into the empty one gives the message. -/
class LawfulMessage (Value : Type) [Message Value] : Prop where
  foldlM_fields : ∀ value : Value,
    (Message.fields value).foldlM Message.mergeField (Message.empty : Value) = some value

theorem decode_encode [LawfulMessage Value] (value : Value) :
    decode (encode value) = some value := by
  rw [decode, merge, encode, parseFields_encodeFields]
  exact LawfulMessage.foldlM_fields value

/-- Two messages in a row decode as the second merged into the first. -/
theorem merge_append {value middle : Value} {first second : List UInt8}
    {secondFields : List WireField} (mergedFirst : merge value first = some middle)
    (parsedSecond : parseFields second = some secondFields) :
    merge value (first ++ second) = merge middle second := by
  obtain ⟨firstFields, parsedFirst, merged⟩ := Option.bind_eq_some_iff.mp mergedFirst
  rw [merge, parseFields_append parsedFirst parsedSecond, Option.bind_some, List.foldlM_append,
    merged, merge, parsedSecond]
  rfl

/-! ## Merging the fields of an encoder

Each lemma is about the fields of one kind, from a value that lacks them
(`without`) to one that has them. -/

theorem foldlM_append_of {fields moreFields : List WireField} {value middle result : Value}
    (first : fields.foldlM Message.mergeField value = some middle)
    (second : moreFields.foldlM Message.mergeField middle = some result) :
    (fields ++ moreFields).foldlM Message.mergeField value = some result := by
  rw [List.foldlM_append, first]
  exact second

/-- Fields that each add one item to a repeated field add all of them in order. -/
theorem foldlM_repeated {Item : Type} (withItems : List Item → Value) (fieldOf : Item → WireField)
    (mergeOne : ∀ items item,
      Message.mergeField (withItems items) (fieldOf item) = some (withItems (items ++ [item])))
    (before items : List Item) :
    (items.map fieldOf).foldlM Message.mergeField (withItems before) =
      some (withItems (before ++ items)) := by
  induction items generalizing before with
  | nil => simp
  | cons item rest inductionHypothesis =>
      rw [List.map_cons, List.foldlM_cons, mergeOne]
      show (rest.map fieldOf).foldlM Message.mergeField (withItems (before ++ [item])) = _
      rw [inductionHypothesis, List.append_assoc]
      rfl

theorem foldlM_optional {Item : Type} (withItem : Option Item → Value) (fieldOf : Item → WireField)
    (mergeOne : ∀ item,
      Message.mergeField (withItem none) (fieldOf item) = some (withItem (some item)))
    (item : Option Item) :
    (item.toList.map fieldOf).foldlM Message.mergeField (withItem none) =
      some (withItem item) := by
  cases item with
  | none => rfl
  | some item => simp [mergeOne]

theorem foldlM_stringField (withText : String → Value) {number : Nat} {positive : 0 < number}
    (mergeOne : ∀ text, Message.mergeField (withText "")
      ⟨number, .lengthDelimited (Text.utf8Bytes text), positive⟩ = some (withText text))
    (text : String) :
    (stringField number text positive).foldlM Message.mergeField (withText "") =
      some (withText text) := by
  by_cases blank : text = ""
  · simp [stringField, blank]
  · simp [stringField, blank, mergeOne]

end Messages

/-! ## How long an encoding is -/

theorem length_encodeVarint_le (value : Nat) : (encodeVarint value).length ≤ 1 + value / 128 := by
  induction value using Nat.strongRecOn with
  | ind value inductionHypothesis =>
      rw [encodeVarint]
      split
      · exact Nat.le_add_right 1 _
      · have high := inductionHypothesis (value / 128) (by omega)
        rw [List.length_cons]
        omega

theorem length_encodeVarint_of_lt {value count : Nat} (positive : 0 < count)
    (small : value < 128 ^ count) : (encodeVarint value).length ≤ count := by
  induction count generalizing value with
  | zero => exact absurd positive (Nat.lt_irrefl 0)
  | succ count inductionHypothesis =>
      rw [encodeVarint]
      split
      · exact Nat.succ_pos count
      · rename_i large
        rw [Nat.pow_succ] at small
        have high : value / 128 < 128 ^ count := Nat.div_lt_of_lt_mul (by omega)
        have started : 0 < count := by
          by_contra none
          obtain rfl : count = 0 := by omega
          omega
        exact Nat.succ_le_succ (inductionHypothesis started high)

/-- A key with a field number below 16 is one byte. -/
private theorem length_key {number wireType : Nat} (small : number < 16) (isType : wireType < 8) :
    (encodeVarint (8 * number + wireType)).length ≤ 1 :=
  length_encodeVarint_of_lt Nat.one_pos (by omega)

theorem length_lengthDelimited {number : Nat} (positive : 0 < number) (small : number < 16)
    (bytes : List UInt8) :
    (encodeField ⟨number, .lengthDelimited bytes, positive⟩).length ≤
      2 + bytes.length + bytes.length / 128 := by
  have key := length_key small (show 2 < 8 by decide)
  have prefixed := length_encodeVarint_le bytes.length
  rw [encodeField, List.length_append]
  show (encodeVarint (8 * number + 2)).length + (encodeVarint bytes.length ++ bytes).length ≤ _
  rw [List.length_append]
  omega

/-- A varint of 64 bits takes ten bytes at most. -/
theorem length_varintField {number value : Nat} (positive : 0 < number) (small : number < 16)
    (fits : value < 2 ^ 64) : (encodeField ⟨number, .varint value, positive⟩).length ≤ 11 := by
  have key := length_key small (show 0 < 8 by decide)
  have payload : (encodeVarint value).length ≤ 10 :=
    length_encodeVarint_of_lt (by decide) (fits.trans_le (by decide))
  rw [encodeField, List.length_append]
  show (encodeVarint (8 * number + 0)).length + (encodeVarint value).length ≤ 11
  omega

theorem length_encodeFields_append (first second : List WireField) :
    (encodeFields (first ++ second)).length =
      (encodeFields first).length + (encodeFields second).length := by
  rw [encodeFields, List.flatMap_append, List.length_append]
  rfl

theorem length_stringField {number : Nat} (positive : 0 < number) (small : number < 16)
    (value : String) :
    (encodeFields (stringField number value positive)).length ≤
      2 + value.utf8ByteSize + value.utf8ByteSize / 128 := by
  unfold stringField
  split
  · exact Nat.zero_le _
  · rw [encodeFields, List.flatMap_singleton]
    exact length_lengthDelimited positive small (Text.utf8Bytes value)

/-- A repeated field is as long as its items are together. -/
theorem length_encodeFields_map {Item : Type} {items : List Item} {fieldOf : Item → WireField}
    {bound : Item → Nat} (each : ∀ item ∈ items, (encodeField (fieldOf item)).length ≤ bound item) :
    (encodeFields (items.map fieldOf)).length ≤ (items.map bound).sum := by
  induction items with
  | nil => exact Nat.zero_le _
  | cons item rest inductionHypothesis =>
      have first := each item (by simp)
      have others := inductionHypothesis fun other member =>
        each other (List.mem_cons_of_mem _ member)
      rw [List.map_cons, encodeFields, List.flatMap_cons, List.length_append, List.map_cons,
        List.sum_cons]
      exact Nat.add_le_add first others

end Ferrometer.Foundation.ProtoWire
