import Mathlib.Logic.ExistsUnique
import DistributedNetwork.Decoding.PacketHeader

/-!
# The header codec, byte by byte

`encode` stores four values into a buffer and `decode` loads them, each at an offset that is a sum of member
sizes and with the width of a cast.

* `encodeInto_eq` — the four stores leave exactly the bytes of the header, whatever was in the buffer;
* `encode_decode` — the bytes of a decoded header are the bytes it was decoded from;
* `header_bijection` — the two are inverse to each other, and the ranges of the fields cut up the header.
-/

namespace DistributedNetwork.Decoding

open DistributedNetwork.Buffer DistributedNetwork.Library

/-- The members of a header, in the order of the casts. -/
inductive HeaderField where
  | m_magic
  | m_packetType
  | m_moduleId
  | m_payloadLength
  deriving DecidableEq

namespace HeaderField

/-- `sizeof` of the member. -/
def size : HeaderField → ℕ
  | m_magic => 4
  | m_packetType => 2
  | m_moduleId => 4
  | m_payloadLength => 4

/-- The width of the cast through which the member is accessed. -/
def access : HeaderField → ℕ
  | m_magic => 32 / 8
  | m_packetType => 16 / 8
  | m_moduleId => 32 / 8
  | m_payloadLength => 32 / 8

def offset : HeaderField → ℕ
  | m_magic => 0
  | m_packetType => m_magic.size
  | m_moduleId => m_magic.size + m_packetType.size
  | m_payloadLength => m_magic.size + m_packetType.size + m_moduleId.size

/-- The member occupies the byte `i`. -/
def Occupies (field : HeaderField) (i : ℕ) : Prop :=
  field.offset ≤ i ∧ i < field.offset + field.access

/-- No byte belongs to two fields. -/
theorem Occupies.unique {field other : HeaderField} {i : ℕ} (hfield : field.Occupies i)
    (hother : other.Occupies i) : other = field := by
  unfold Occupies at hfield hother
  cases field <;> cases other <;> simp [offset, size, access] at hfield hother ⊢ <;> omega

/-- **The ranges of the fields are disjoint and cover the header.** -/
theorem occupies_iff (i : ℕ) :
    i < PacketHeader.headerLength ↔ ∃! field : HeaderField, field.Occupies i := by
  constructor
  · intro hi
    have hfield : ∃ field : HeaderField, field.Occupies i := by
      have hrange : i < 4 ∨ 4 ≤ i ∧ i < 6 ∨ 6 ≤ i ∧ i < 10 ∨ 10 ≤ i ∧ i < 14 := by
        unfold PacketHeader.headerLength at hi
        omega
      rcases hrange with hmagic | htype | hmodule | hpayload
      · exact ⟨m_magic, Nat.zero_le i, hmagic⟩
      · exact ⟨m_packetType, htype⟩
      · exact ⟨m_moduleId, hmodule⟩
      · exact ⟨m_payloadLength, hpayload⟩
    obtain ⟨field, hoccupies⟩ := hfield
    exact ⟨field, hoccupies, fun _ hother => hoccupies.unique hother⟩
  · intro hunique
    obtain ⟨field, ⟨-, hlt⟩, -⟩ := hunique
    refine Nat.lt_of_lt_of_le hlt ?_
    cases field <;> decide

end HeaderField

namespace PacketHeader

open HeaderField

/-- The member of a header, as the number that is stored. -/
def member (header : PacketHeader) : HeaderField → ℕ
  | .m_magic => header.m_magic.toNat
  | .m_packetType => header.m_packetType.toNat
  | .m_moduleId => header.m_moduleId.toNat
  | .m_payloadLength => header.m_payloadLength.toNat

/-- A store through a cast, in network byte order. -/
def store (header : PacketHeader) (field : HeaderField) (buffer : List Byte) : List Byte :=
  overwrite buffer field.offset (toBigEndian field.access (header.member field))

/-- A load through a cast, from network byte order. -/
def load (buffer : List Byte) (field : HeaderField) : ℕ :=
  ofBigEndian (slice buffer field.offset field.access)

/-- `encode`, with the buffer it is given and the return code. -/
def encodeInto (header : PacketHeader) (buffer : List Byte) (length : ℕ) : ℤ × List Byte :=
  if length ≠ headerLength then (-1, buffer)
  else
    (0, header.store .m_payloadLength (header.store .m_moduleId
      (header.store .m_packetType (header.store .m_magic buffer))))

/-- `decode`, with the header it is called on and the return code. -/
def decodeFrom (header : PacketHeader) (buffer : List Byte) (length : ℕ) : ℤ × PacketHeader :=
  if length < headerLength then (-1, header)
  else
    (0, { m_magic := UInt32.ofNat (load buffer .m_magic)
          m_packetType := UInt16.ofNat (load buffer .m_packetType)
          m_moduleId := UInt32.ofNat (load buffer .m_moduleId)
          m_payloadLength := UInt32.ofNat (load buffer .m_payloadLength) })

/-- The fields are read where they are written. -/
theorem decodeFrom_eq (header : PacketHeader) {buffer : List Byte} {length : ℕ}
    (hlength : headerLength ≤ length) : header.decodeFrom buffer length = (0, decode buffer) := by
  unfold decodeFrom
  rw [if_neg (Nat.not_lt.mpr hlength)]
  rfl

/-- A store behind the bytes that are written already. -/
theorem store_append (header : PacketHeader) (field : HeaderField) {written rest : List Byte}
    (hoffset : written.length = field.offset) :
    header.store field (written ++ rest) =
      (written ++ toBigEndian field.access (header.member field)) ++ rest.drop field.access := by
  have hstore := overwrite_append rest written (toBigEndian field.access (header.member field)) hoffset
  rwa [length_toBigEndian] at hstore

/-- **The four stores** replace the buffer by the bytes of the header. -/
theorem encodeInto_eq (header : PacketHeader) {buffer : List Byte}
    (hbuffer : buffer.length = headerLength) :
    header.encodeInto buffer headerLength = (0, header.encode) := by
  have hmagic : header.store .m_magic buffer =
      toBigEndian 4 header.m_magic.toNat ++ buffer.drop 4 :=
    header.store_append .m_magic (show ([] : List Byte).length = 0 from rfl)
  have htype : header.store .m_packetType (header.store .m_magic buffer) =
      (toBigEndian 4 header.m_magic.toNat ++ toBigEndian 2 header.m_packetType.toNat) ++
        buffer.drop 6 := by
    rw [hmagic, header.store_append .m_packetType (length_toBigEndian 4 _), List.drop_drop]
    rfl
  have hmodule : header.store .m_moduleId (header.store .m_packetType (header.store .m_magic buffer)) =
      (toBigEndian 4 header.m_magic.toNat ++ toBigEndian 2 header.m_packetType.toNat ++
        toBigEndian 4 header.m_moduleId.toNat) ++ buffer.drop 10 := by
    rw [htype, header.store_append .m_moduleId, List.drop_drop]
    · rfl
    · rw [List.length_append, length_toBigEndian, length_toBigEndian]
      rfl
  have hpayload : header.store .m_payloadLength (header.store .m_moduleId
      (header.store .m_packetType (header.store .m_magic buffer))) =
      (toBigEndian 4 header.m_magic.toNat ++ toBigEndian 2 header.m_packetType.toNat ++
        toBigEndian 4 header.m_moduleId.toNat ++ toBigEndian 4 header.m_payloadLength.toNat) ++
          buffer.drop 14 := by
    rw [hmodule, header.store_append .m_payloadLength, List.drop_drop]
    · rfl
    · rw [List.length_append, List.length_append, length_toBigEndian, length_toBigEndian,
        length_toBigEndian]
      rfl
  have hnothing : buffer.drop 14 = [] := List.drop_eq_nil_of_le (Nat.le_of_eq hbuffer)
  unfold encodeInto encode
  rw [if_neg fun hne => hne rfl, hpayload, hnothing, List.append_nil, List.append_assoc,
    List.append_assoc]

/-- The bytes of a field that was loaded. -/
theorem uint32_bytes {bytes : List Byte} (hlength : bytes.length = 4) :
    toBigEndian 4 (UInt32.ofNat (ofBigEndian bytes)).toNat = bytes := by
  have hlt : ofBigEndian bytes < 256 ^ 4 := hlength ▸ ofBigEndian_lt bytes
  have hbytes := toBigEndian_ofBigEndian bytes
  rw [hlength] at hbytes
  rwa [UInt32.toNat_ofNat_of_lt' hlt]

theorem uint16_bytes {bytes : List Byte} (hlength : bytes.length = 2) :
    toBigEndian 2 (UInt16.ofNat (ofBigEndian bytes)).toNat = bytes := by
  have hlt : ofBigEndian bytes < 256 ^ 2 := hlength ▸ ofBigEndian_lt bytes
  have hbytes := toBigEndian_ofBigEndian bytes
  rw [hlength] at hbytes
  rwa [UInt16.toNat_ofNat_of_lt' hlt]

/-- **Round trip of the bytes.** -/
theorem encode_decode {bytes : List Byte} (hlength : bytes.length = headerLength) :
    (decode bytes).encode = bytes := by
  unfold headerLength at hlength
  have hmagic := uint32_bytes (length_slice (show 0 + 4 ≤ bytes.length by omega))
  have htype := uint16_bytes (length_slice (show 4 + 2 ≤ bytes.length by omega))
  have hmodule := uint32_bytes (length_slice (show 6 + 4 ≤ bytes.length by omega))
  have hpayload := uint32_bytes (length_slice (show 10 + 4 ≤ bytes.length by omega))
  unfold encode decode
  dsimp only
  rw [hmagic, htype, hmodule, hpayload, slice_append_slice bytes 6 4 4, slice_append_slice bytes 4 2 8]
  show slice bytes 0 4 ++ slice bytes (0 + 4) 10 = bytes
  rw [slice_append_slice, slice, List.drop_zero, List.take_of_length_le (by omega)]

/-- **The codec is a bijection.**  Decoding what was encoded restores the header, encoding what was decoded
restores the bytes, and every byte of the header belongs to exactly one field. -/
theorem header_bijection (header called : PacketHeader) (bytes buffer : List Byte)
    (hbytes : bytes.length = headerLength) (hbuffer : buffer.length = headerLength) :
    (∃ written, header.encodeInto buffer headerLength = (0, written) ∧
      written.length = headerLength ∧ called.decodeFrom written written.length = (0, header)) ∧
    (∃ read, called.decodeFrom bytes headerLength = (0, read) ∧
      read.encodeInto buffer headerLength = (0, bytes)) ∧
    ∀ i, i < headerLength ↔ ∃! field : HeaderField, field.Occupies i := by
  refine ⟨⟨header.encode, header.encodeInto_eq hbuffer, header.length_encode, ?_⟩,
    ⟨decode bytes, called.decodeFrom_eq (Nat.le_refl _), ?_⟩, occupies_iff⟩
  · rw [called.decodeFrom_eq (Nat.le_of_eq header.length_encode.symm), decode_encode]
  · rw [(decode bytes).encodeInto_eq hbuffer, encode_decode hbytes]

theorem header_bijection_raft :
    (∃ written, ({ m_packetType := 8, m_moduleId := .raft } : PacketHeader).encodeInto
        (List.replicate 14 0) headerLength = (0, written) ∧
      written.length = headerLength ∧
      ({} : PacketHeader).decodeFrom written written.length =
        (0, { m_packetType := 8, m_moduleId := .raft })) ∧
    (∃ read, ({} : PacketHeader).decodeFrom (List.replicate 14 255) headerLength = (0, read) ∧
      read.encodeInto (List.replicate 14 0) headerLength = (0, List.replicate 14 255)) ∧
    ∀ i, i < headerLength ↔ ∃! field : HeaderField, field.Occupies i :=
  header_bijection { m_packetType := 8, m_moduleId := .raft } {} (List.replicate 14 255)
    (List.replicate 14 0) (by decide) (by decide)

end PacketHeader

end DistributedNetwork.Decoding
