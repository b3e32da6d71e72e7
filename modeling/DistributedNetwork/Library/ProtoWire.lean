import Mathlib.Algebra.Group.Nat.Defs
import Mathlib.Tactic.Common

/-!
# Messages in the proto3 wire format

A message is the list of its field values, numbered from one field number on.  A field with the default
value is left out; the others are a tag byte (field numbers stay below `16`) and a varint, or a length and
that many bytes.

`readFields` reads the fields in the order of their numbers, which is the order `writeFields` puts them in;
`readFields_writeFields` is the round trip.  A `ProtoMessage` knows the fields of one message.
-/

namespace DistributedNetwork.Library

/-! ### Varints -/

/-- Seven bits in a byte, the lowest first; the high bit says that more follow. -/
def toVarint (n : ℕ) : List UInt8 :=
  if n < 128 then [UInt8.ofNat n] else UInt8.ofNat (n % 128 + 128) :: toVarint (n / 128)

/-- The number at the front and the bytes behind it. -/
def ofVarint : List UInt8 → Option (ℕ × List UInt8)
  | [] => none
  | byte :: rest =>
    if byte.toNat < 128 then some (byte.toNat, rest)
    else (ofVarint rest).map fun high => (byte.toNat - 128 + 128 * high.1, high.2)

theorem toNat_byte {n : ℕ} (h : n < 256) : (UInt8.ofNat n).toNat = n :=
  UInt8.toNat_ofNat_of_lt' h

theorem ofVarint_toVarint (n : ℕ) (rest : List UInt8) :
    ofVarint (toVarint n ++ rest) = some (n, rest) := by
  induction n using Nat.strongRecOn with
  | ind n ih =>
    rw [toVarint]
    split
    · next hlow =>
      rw [List.cons_append, List.nil_append, ofVarint, toNat_byte (by omega), if_pos hlow]
    · next hhigh =>
      rw [List.cons_append, ofVarint, toNat_byte (by omega), if_neg (by omega), ih (n / 128) (by omega),
        Option.map_some, Nat.add_sub_cancel, Nat.mod_add_div]

/-- Seven bits of the number for each byte. -/
theorem length_toVarint_le {k n : ℕ} (h : n < 128 ^ (k + 1)) : (toVarint n).length ≤ k + 1 := by
  induction k generalizing n with
  | zero =>
    rw [toVarint, if_pos (by simpa using h)]
    exact Nat.le_refl _
  | succ k ih =>
    rw [toVarint]
    split
    · exact Nat.succ_le_succ (Nat.zero_le _)
    · have hhigh : n / 128 < 128 ^ (k + 1) := by
        rw [Nat.div_lt_iff_lt_mul (by decide), ← Nat.pow_succ]
        exact h
      exact Nat.succ_le_succ (ih hhigh)

/-! ### Fields -/

inductive WireType where
  | varint
  | bytes
  deriving DecidableEq

inductive FieldValue where
  | varint (n : ℕ)
  | bytes (data : List UInt8)
  deriving DecidableEq

namespace FieldValue

def wireType : FieldValue → WireType
  | varint _ => .varint
  | bytes _ => .bytes

end FieldValue

namespace WireType

def code : WireType → ℕ
  | varint => 0
  | bytes => 2

/-- The value of a field that is left out. -/
def default : WireType → FieldValue
  | varint => .varint 0
  | bytes => .bytes []

end WireType

def fieldTag (number : ℕ) (wireType : WireType) : UInt8 :=
  UInt8.ofNat (8 * number + wireType.code)

def writeValue : FieldValue → List UInt8
  | .varint n => toVarint n
  | .bytes data => toVarint data.length ++ data

def writeField (number : ℕ) (value : FieldValue) : List UInt8 :=
  if value = value.wireType.default then [] else fieldTag number value.wireType :: writeValue value

theorem length_writeField_le {value : FieldValue} {size : ℕ} (h : (writeValue value).length ≤ size)
    (number : ℕ) : (writeField number value).length ≤ size + 1 := by
  rw [writeField]
  split
  · exact Nat.zero_le _
  · exact Nat.succ_le_succ h

def writeFields : ℕ → List FieldValue → List UInt8
  | _, [] => []
  | number, value :: values => writeField number value ++ writeFields (number + 1) values

def readValue (wireType : WireType) (text : List UInt8) : Option (FieldValue × List UInt8) :=
  (ofVarint text).map fun number =>
    match wireType with
    | .varint => (.varint number.1, number.2)
    | .bytes => (.bytes (number.2.take number.1), number.2.drop number.1)

/-- The field at the front of the text if it has this tag, else its default. -/
def readField (number : ℕ) (wireType : WireType) (text : List UInt8) :
    Option (FieldValue × List UInt8) :=
  match text with
  | [] => some (wireType.default, [])
  | byte :: rest =>
    if byte = fieldTag number wireType then readValue wireType rest
    else some (wireType.default, byte :: rest)

def readFields : ℕ → List WireType → List UInt8 → Option (List FieldValue)
  | _, [], _ => some []
  | number, wireType :: wireTypes, text =>
    (readField number wireType text).bind fun field =>
      (readFields (number + 1) wireTypes field.2).map fun values => field.1 :: values

theorem readValue_writeValue (value : FieldValue) (rest : List UInt8) :
    readValue value.wireType (writeValue value ++ rest) = some (value, rest) := by
  cases value with
  | varint n =>
    show (ofVarint (toVarint n ++ rest)).map _ = _
    rw [ofVarint_toVarint]
    rfl
  | bytes data =>
    show (ofVarint (toVarint data.length ++ data ++ rest)).map _ = _
    rw [List.append_assoc, ofVarint_toVarint]
    show some (FieldValue.bytes ((data ++ rest).take data.length), (data ++ rest).drop data.length) = _
    rw [List.take_left, List.drop_left]

theorem code_lt (wireType : WireType) : wireType.code < 8 := by
  cases wireType <;> decide

theorem fieldTag_toNat {number : ℕ} (h : number < 16) (wireType : WireType) :
    (fieldTag number wireType).toNat = 8 * number + wireType.code := by
  have hcode := code_lt wireType
  exact toNat_byte (by omega)

/-- Fields from a number on start with the tag of one of them. -/
theorem le_of_writeFields_eq_cons {number : ℕ} {values : List FieldValue} {byte : UInt8}
    {rest : List UInt8} (hnumber : number + values.length ≤ 16)
    (h : writeFields number values = byte :: rest) : 8 * number ≤ byte.toNat := by
  induction values generalizing number with
  | nil => cases h
  | cons value values ih =>
    rw [List.length_cons] at hnumber
    rw [writeFields, writeField] at h
    split at h
    · have hlater : 8 * (number + 1) ≤ byte.toNat := ih (by omega) h
      omega
    · cases h
      rw [fieldTag_toNat (by omega)]
      omega

/-- A field is read back in front of the later ones. -/
theorem readField_writeField {number : ℕ} {value : FieldValue} {values : List FieldValue}
    (hnumber : number + values.length + 1 ≤ 16) :
    readField number value.wireType (writeField number value ++ writeFields (number + 1) values) =
      some (value, writeFields (number + 1) values) := by
  rw [writeField]
  split
  · next hdefault =>
    rw [List.nil_append]
    cases htext : writeFields (number + 1) values with
    | nil => rw [readField, ← hdefault]
    | cons byte rest =>
      have hbyte := le_of_writeFields_eq_cons (by omega) htext
      have htag : byte ≠ fieldTag number value.wireType := by
        rintro rfl
        rw [fieldTag_toNat (by omega)] at hbyte
        have hcode := code_lt value.wireType
        omega
      rw [readField, if_neg htag, ← hdefault]
  · rw [List.cons_append, readField, if_pos rfl, readValue_writeValue]

/-- **Round trip.** -/
theorem readFields_writeFields {number : ℕ} {values : List FieldValue}
    (hnumber : number + values.length ≤ 16) :
    readFields number (values.map FieldValue.wireType) (writeFields number values) = some values := by
  induction values generalizing number with
  | nil => rfl
  | cons value values ih =>
    rw [List.length_cons] at hnumber
    rw [List.map_cons, readFields, writeFields, readField_writeField (by omega), Option.bind_some,
      ih (by omega), Option.map_some]

/-! ### Messages -/

/-- A message with its fields in the order of their numbers, from `1` on. -/
structure ProtoMessage (Raw : Type) where
  schema : List WireType
  fields : Raw → List FieldValue
  ofFields : List FieldValue → Raw
  /-- what bytes that do not parse leave behind -/
  default : Raw
  wireTypes : ∀ raw, (fields raw).map FieldValue.wireType = schema
  short : schema.length ≤ 15
  inverse : ∀ raw, ofFields (fields raw) = raw

namespace ProtoMessage

variable {Raw : Type} (message : ProtoMessage Raw)

def serialize (raw : Raw) : List UInt8 :=
  writeFields 1 (message.fields raw)

def parse (data : List UInt8) : Raw :=
  ((readFields 1 message.schema data).map message.ofFields).getD message.default

theorem parse_serialize (raw : Raw) : message.parse (message.serialize raw) = raw := by
  have hlength : (message.fields raw).length = message.schema.length := by
    rw [← message.wireTypes raw, List.length_map]
  have hshort := message.short
  rw [parse, serialize, ← message.wireTypes raw, readFields_writeFields (by omega), Option.map_some,
    Option.getD_some, message.inverse]

end ProtoMessage

end DistributedNetwork.Library
