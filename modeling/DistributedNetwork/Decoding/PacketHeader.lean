import DistributedNetwork.Buffer.Fifo
import DistributedNetwork.Library.BigEndian

/-!
# The packet header

Fourteen bytes: magic, packet type, module id and payload length, each in network byte order.
`decode_encode` is the round trip over all field values.
-/

namespace DistributedNetwork.Decoding

open DistributedNetwork.Buffer DistributedNetwork.Library

def c_magic : UInt32 := 0x2cc98f5d

/-- The 32 bits of the enumeration `ModuleID`. -/
abbrev ModuleID := UInt32

def ModuleID.raft : ModuleID := 0

def ModuleID.rpc : ModuleID := 1

def ModuleID.unknown : ModuleID := 2

structure PacketHeader where
  m_magic : UInt32 := c_magic
  m_packetType : UInt16 := 0
  m_moduleId : ModuleID := .unknown
  m_payloadLength : UInt32 := 0
  deriving DecidableEq, Repr

namespace PacketHeader

/-- `sizeof` of the four fields. -/
def headerLength : ℕ := 4 + 2 + 4 + 4

def isMagicMatch (header : PacketHeader) : Bool :=
  c_magic == header.m_magic

/-- The bytes `encode` stores; its length check always passes, callers reserve `headerLength`. -/
def encode (header : PacketHeader) : List Byte :=
  toBigEndian 4 header.m_magic.toNat ++ (toBigEndian 2 header.m_packetType.toNat ++
    (toBigEndian 4 header.m_moduleId.toNat ++ toBigEndian 4 header.m_payloadLength.toNat))

/-- The fields are read at their offsets in the buffer. -/
def decode (buffer : List Byte) : PacketHeader where
  m_magic := UInt32.ofNat (ofBigEndian (slice buffer 0 4))
  m_packetType := UInt16.ofNat (ofBigEndian (slice buffer 4 2))
  m_moduleId := UInt32.ofNat (ofBigEndian (slice buffer (4 + 2) 4))
  m_payloadLength := UInt32.ofNat (ofBigEndian (slice buffer (4 + 2 + 4) 4))

theorem length_encode (header : PacketHeader) : header.encode.length = headerLength := by
  simp only [encode, List.length_append, length_toBigEndian]
  rfl

/-- Reading a field that has `n` bytes before it. -/
theorem slice_append {pre field rest : List Byte} {n k : ℕ} (hpre : pre.length = n)
    (hfield : field.length = k) : slice (pre ++ (field ++ rest)) n k = field := by
  rw [slice, ← hpre, List.drop_left, ← hfield, List.take_left]

theorem uint32_roundTrip (x : UInt32) : UInt32.ofNat (ofBigEndian (toBigEndian 4 x.toNat)) = x := by
  have hlt : x.toNat < 256 ^ 4 := x.toNat_lt
  rw [ofBigEndian_toBigEndian, Nat.mod_eq_of_lt hlt]
  exact UInt32.ofNat_toNat

theorem uint16_roundTrip (x : UInt16) : UInt16.ofNat (ofBigEndian (toBigEndian 2 x.toNat)) = x := by
  have hlt : x.toNat < 256 ^ 2 := x.toNat_lt
  rw [ofBigEndian_toBigEndian, Nat.mod_eq_of_lt hlt]
  exact UInt16.ofNat_toNat

/-- **Round trip of the header.** -/
theorem decode_encode (header : PacketHeader) : decode header.encode = header := by
  have hmagic : slice header.encode 0 4 = toBigEndian 4 header.m_magic.toNat :=
    List.take_left' (length_toBigEndian 4 _)
  have htype : slice header.encode 4 2 = toBigEndian 2 header.m_packetType.toNat :=
    slice_append (length_toBigEndian 4 _) (length_toBigEndian 2 _)
  have hmodule : slice header.encode (4 + 2) 4 = toBigEndian 4 header.m_moduleId.toNat := by
    rw [encode, ← List.append_assoc]
    refine slice_append ?_ (length_toBigEndian 4 _)
    rw [List.length_append, length_toBigEndian, length_toBigEndian]
  have hlength : slice header.encode (4 + 2 + 4) 4 =
      toBigEndian 4 header.m_payloadLength.toNat := by
    rw [encode, ← List.append_assoc, ← List.append_assoc,
      ← List.append_nil (toBigEndian 4 header.m_payloadLength.toNat)]
    refine slice_append ?_ (length_toBigEndian 4 _)
    simp only [List.length_append, length_toBigEndian]
  rw [decode, hmagic, htype, hmodule, hlength, uint32_roundTrip, uint16_roundTrip,
    uint32_roundTrip, uint32_roundTrip]

end PacketHeader

end DistributedNetwork.Decoding
