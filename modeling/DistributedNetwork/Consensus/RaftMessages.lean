import DistributedNetwork.Consensus.Storage
import DistributedNetwork.Library.ProtoWire

/-!
# Raft messages on the wire

* `MessageCodec` — the code generated for a message, as a parameter;
* `RequestVoteMessage`, `RequestVoteReplyMessage`, `MessageBase` — the two messages and their base class;
* `RaftMessagePack` — the outer message: a type and a payload;
* `MessageEncodeHelper.encode` — the encoder that all messages share;
* `decode_encode` — what the receiver of an encoded message finds in it.

The encoder writes `RequestVote` as the type of every message.
-/

namespace DistributedNetwork.Consensus

open DistributedNetwork.Library

/-- The bytes of a `std::string`. -/
abbrev NodeId := Bytes

/-! ### Generated code -/

/-- An open enumeration: a number without a name can be received. -/
inductive RaftMessageType where
  | RequestVote
  | RequestVoteReply
  | unnamed (value : Int32)
  deriving DecidableEq

namespace RaftMessageType

def toInt : RaftMessageType → Int32
  | RequestVote => 0
  | RequestVoteReply => 1
  | unnamed value => value

def ofInt (value : Int32) : RaftMessageType :=
  if value = 0 then RequestVote else if value = 1 then RequestVoteReply else unnamed value

end RaftMessageType

/-- The message of `RaftMessage.proto`. -/
structure RawRaftMessage where
  messageType : Int32
  payload : Bytes
  deriving DecidableEq

/-- The first message of `RequestVote.proto`. -/
structure RawRequestVote where
  term : UInt64
  candidateId : NodeId
  lastLogIndex : UInt64
  lastLogTerm : UInt64
  deriving DecidableEq

/-- The second message of `RequestVote.proto`. -/
structure RawRequestVoteReply where
  term : UInt64
  voteGranted : Bool
  deriving DecidableEq

/-- The code generated for a message. -/
structure MessageCodec (Raw : Type) where
  /-- the bytes of a message; `ByteSizeLong` is their number -/
  serialize : Raw → Bytes
  /-- the message after bytes were parsed into it -/
  ParseFromArray : Bytes → Raw

namespace MessageCodec

variable {Raw : Type}

def ByteSizeLong (codec : MessageCodec Raw) (raw : Raw) : ℕ :=
  (codec.serialize raw).length

/-- The buffer afterwards; a message longer than `size` is not written. -/
def SerializeToArray (codec : MessageCodec Raw) (raw : Raw) (buffer : Bytes) (size : ℕ) : Bytes :=
  if size < codec.ByteSizeLong raw then buffer
  else codec.serialize raw ++ buffer.drop (codec.ByteSizeLong raw)

/-- What the generated code promises. -/
def Lawful (codec : MessageCodec Raw) : Prop :=
  ∀ raw, codec.ParseFromArray (codec.serialize raw) = raw

/-- A buffer of the right size holds the message and nothing else. -/
theorem serializeToArray_exact (codec : MessageCodec Raw) (raw : Raw) (byte : UInt8) :
    codec.SerializeToArray raw (List.replicate (codec.ByteSizeLong raw) byte) (codec.ByteSizeLong raw) =
      codec.serialize raw := by
  rw [SerializeToArray, if_neg (Nat.lt_irrefl _), List.drop_replicate, Nat.sub_self,
    List.replicate_zero, List.append_nil]

end MessageCodec

/-- The generated code of the three messages. -/
structure RaftCodec where
  raftMessage : MessageCodec RawRaftMessage
  requestVote : MessageCodec RawRequestVote
  requestVoteReply : MessageCodec RawRequestVoteReply

structure RaftCodec.Lawful (codec : RaftCodec) : Prop where
  raftMessage : codec.raftMessage.Lawful
  requestVote : codec.requestVote.Lawful
  requestVoteReply : codec.requestVoteReply.Lawful

/-! ### The messages -/

structure RequestVoteMessage where
  m_rawRequestVote : RawRequestVote
  deriving DecidableEq

structure RequestVoteReplyMessage where
  m_rawRequestVoteReply : RawRequestVoteReply
  deriving DecidableEq

namespace RequestVoteMessage

def term (message : RequestVoteMessage) : UInt64 :=
  message.m_rawRequestVote.term

def lastLogIndex (message : RequestVoteMessage) : UInt64 :=
  message.m_rawRequestVote.lastLogIndex

def decode (codec : RaftCodec) (buffer : Bytes) : RequestVoteMessage :=
  ⟨codec.requestVote.ParseFromArray buffer⟩

end RequestVoteMessage

namespace RequestVoteReplyMessage

def new : RequestVoteReplyMessage where
  m_rawRequestVoteReply := { term := 0, voteGranted := false }

def setTerm (message : RequestVoteReplyMessage) (term : UInt64) : RequestVoteReplyMessage :=
  ⟨{ message.m_rawRequestVoteReply with term := term }⟩

def setVoteGranted (message : RequestVoteReplyMessage) (voteGranted : Bool) : RequestVoteReplyMessage :=
  ⟨{ message.m_rawRequestVoteReply with voteGranted := voteGranted }⟩

def decode (codec : RaftCodec) (buffer : Bytes) : RequestVoteReplyMessage :=
  ⟨codec.requestVoteReply.ParseFromArray buffer⟩

end RequestVoteReplyMessage

/-- An object of one of the classes derived from `MessageBase`. -/
inductive MessageBase where
  | requestVote (message : RequestVoteMessage)
  | requestVoteReply (message : RequestVoteReplyMessage)
  deriving DecidableEq

namespace MessageBase

/-- The tag that the constructor of the class hands to the base class. -/
def m_type : MessageBase → RaftMessageType
  | requestVote _ => .RequestVote
  | requestVoteReply _ => .RequestVoteReply

def encodeSize (codec : RaftCodec) : MessageBase → ℕ
  | requestVote message => codec.requestVote.ByteSizeLong message.m_rawRequestVote
  | requestVoteReply message => codec.requestVoteReply.ByteSizeLong message.m_rawRequestVoteReply

def encode (codec : RaftCodec) (buffer : Bytes) (size : ℕ) : MessageBase → Bytes
  | requestVote message => codec.requestVote.SerializeToArray message.m_rawRequestVote buffer size
  | requestVoteReply message =>
    codec.requestVoteReply.SerializeToArray message.m_rawRequestVoteReply buffer size

/-- The bytes that `encode` writes. -/
def serialize (codec : RaftCodec) : MessageBase → Bytes
  | requestVote message => codec.requestVote.serialize message.m_rawRequestVote
  | requestVoteReply message => codec.requestVoteReply.serialize message.m_rawRequestVoteReply

/-- The object that the `decode` of the message's class makes of a payload. -/
def decodeAs (codec : RaftCodec) (payload : Bytes) : MessageBase → MessageBase
  | requestVote _ => requestVote (.decode codec payload)
  | requestVoteReply _ => requestVoteReply (.decode codec payload)

theorem encode_exact (codec : RaftCodec) (message : MessageBase) :
    message.encode codec (List.replicate (message.encodeSize codec) 0) (message.encodeSize codec) =
      message.serialize codec := by
  cases message with
  | requestVote message => exact codec.requestVote.serializeToArray_exact _ 0
  | requestVoteReply message => exact codec.requestVoteReply.serializeToArray_exact _ 0

/-- Each class reads its own bytes. -/
theorem decodeAs_serialize {codec : RaftCodec} (hcodec : codec.Lawful) (message : MessageBase) :
    message.decodeAs codec (message.serialize codec) = message := by
  cases message with
  | requestVote message =>
    show requestVote ⟨codec.requestVote.ParseFromArray (codec.requestVote.serialize _)⟩ = _
    rw [hcodec.requestVote]
  | requestVoteReply message =>
    show requestVoteReply ⟨codec.requestVoteReply.ParseFromArray (codec.requestVoteReply.serialize _)⟩ = _
    rw [hcodec.requestVoteReply]

end MessageBase

/-! ### The outer message -/

structure RaftMessagePack where
  m_rawRaftMessage : RawRaftMessage
  deriving DecidableEq

namespace RaftMessagePack

def new : RaftMessagePack where
  m_rawRaftMessage := { messageType := 0, payload := [] }

def setMessageType (pack : RaftMessagePack) (type : RaftMessageType) : RaftMessagePack :=
  ⟨{ pack.m_rawRaftMessage with messageType := type.toInt }⟩

def messageType (pack : RaftMessagePack) : RaftMessageType :=
  .ofInt pack.m_rawRaftMessage.messageType

/-- `resize` cuts the payload, or pads it with zeros. -/
def setPayloadSize (pack : RaftMessagePack) (size : ℕ) : RaftMessagePack :=
  let payload := pack.m_rawRaftMessage.payload
  ⟨{ pack.m_rawRaftMessage with
      payload := payload.take size ++ List.replicate (size - payload.length) 0 }⟩

/-- What is at `payloadRawPointer()`, `payloadSize()` bytes of it. -/
def payload (pack : RaftMessagePack) : Bytes :=
  pack.m_rawRaftMessage.payload

/-- A write through `payloadRawPointer()`. -/
def writePayload (pack : RaftMessagePack) (payload : Bytes) : RaftMessagePack :=
  ⟨{ pack.m_rawRaftMessage with payload := payload }⟩

/-- A payload that had no bytes is zeros. -/
theorem payload_setPayloadSize {pack : RaftMessagePack} (h : pack.payload = []) (size : ℕ) :
    (pack.setPayloadSize size).payload = List.replicate size 0 := by
  show pack.payload.take size ++ List.replicate (size - pack.payload.length) 0 = _
  rw [h, List.take_nil, List.nil_append, List.length_nil, Nat.sub_zero]

def encodeSize (codec : RaftCodec) (pack : RaftMessagePack) : ℕ :=
  codec.raftMessage.ByteSizeLong pack.m_rawRaftMessage

def encode (codec : RaftCodec) (pack : RaftMessagePack) (buffer : Bytes) (size : ℕ) : Bytes :=
  codec.raftMessage.SerializeToArray pack.m_rawRaftMessage buffer size

def decode (codec : RaftCodec) (buffer : Bytes) : RaftMessagePack :=
  ⟨codec.raftMessage.ParseFromArray buffer⟩

end RaftMessagePack

/-- The buffer that is sent; the caller's buffer is a new one. -/
def MessageEncodeHelper.encode (codec : RaftCodec) (message : MessageBase) : Bytes :=
  let requestVoteEncodeSize := message.encodeSize codec
  let raftMessage := (RaftMessagePack.new.setMessageType .RequestVote).setPayloadSize
    requestVoteEncodeSize
  let raftMessage := raftMessage.writePayload
    (message.encode codec raftMessage.payload requestVoteEncodeSize)
  let buffer := List.replicate (raftMessage.encodeSize codec) 0
  raftMessage.encode codec buffer (raftMessage.encodeSize codec)

/-- What the encoder serializes: the tag is the same for all messages. -/
theorem encode_eq (codec : RaftCodec) (message : MessageBase) :
    MessageEncodeHelper.encode codec message =
      codec.raftMessage.serialize { messageType := 0, payload := message.serialize codec } := by
  rw [MessageEncodeHelper.encode, RaftMessagePack.payload_setPayloadSize rfl, message.encode_exact]
  exact codec.raftMessage.serializeToArray_exact _ 0

/-- **What arrives.**  The payload is the message's, and the type is `RequestVote`. -/
theorem decode_encode {codec : RaftCodec} (hcodec : codec.Lawful) (message : MessageBase) :
    (RaftMessagePack.decode codec (MessageEncodeHelper.encode codec message)).messageType =
        .RequestVote ∧
      (RaftMessagePack.decode codec (MessageEncodeHelper.encode codec message)).payload =
        message.serialize codec := by
  rw [encode_eq, RaftMessagePack.decode, hcodec.raftMessage]
  exact ⟨rfl, rfl⟩

/-! ### The generated code in the wire format -/

def protoRaftMessage : ProtoMessage RawRaftMessage where
  schema := [.varint, .bytes]
  fields raw := [.varint raw.messageType.toInt64.toUInt64.toNat, .bytes raw.payload]
  ofFields
    | [.varint messageType, .bytes payload] =>
      { messageType := (UInt64.ofNat messageType).toInt64.toInt32, payload := payload }
    | _ => { messageType := 0, payload := [] }
  default := { messageType := 0, payload := [] }
  wireTypes _ := rfl
  short := by decide
  inverse raw := by
    show RawRaftMessage.mk _ _ = raw
    rw [UInt64.ofNat_toNat, Int64.toInt64_toUInt64, Int32.toInt32_toInt64]

def protoRequestVote : ProtoMessage RawRequestVote where
  schema := [.varint, .bytes, .varint, .varint]
  fields raw := [.varint raw.term.toNat, .bytes raw.candidateId, .varint raw.lastLogIndex.toNat,
    .varint raw.lastLogTerm.toNat]
  ofFields
    | [.varint term, .bytes candidateId, .varint lastLogIndex, .varint lastLogTerm] =>
      { term := UInt64.ofNat term
        candidateId := candidateId
        lastLogIndex := UInt64.ofNat lastLogIndex
        lastLogTerm := UInt64.ofNat lastLogTerm }
    | _ => { term := 0, candidateId := [], lastLogIndex := 0, lastLogTerm := 0 }
  default := { term := 0, candidateId := [], lastLogIndex := 0, lastLogTerm := 0 }
  wireTypes _ := rfl
  short := by decide
  inverse raw := by
    show RawRequestVote.mk _ _ _ _ = raw
    rw [UInt64.ofNat_toNat, UInt64.ofNat_toNat, UInt64.ofNat_toNat]

def protoRequestVoteReply : ProtoMessage RawRequestVoteReply where
  schema := [.varint, .varint]
  fields raw := [.varint raw.term.toNat, .varint raw.voteGranted.toNat]
  ofFields
    | [.varint term, .varint voteGranted] =>
      { term := UInt64.ofNat term, voteGranted := voteGranted ≠ 0 }
    | _ => { term := 0, voteGranted := false }
  default := { term := 0, voteGranted := false }
  wireTypes _ := rfl
  short := by decide
  inverse raw := by
    obtain ⟨term, voteGranted⟩ := raw
    show RawRequestVoteReply.mk _ _ = _
    rw [UInt64.ofNat_toNat]
    cases voteGranted <;> rfl

def MessageCodec.ofProto {Raw : Type} (message : ProtoMessage Raw) : MessageCodec Raw where
  serialize := message.serialize
  ParseFromArray := message.parse

/-- The wire format of the three messages. -/
def protoRaftCodec : RaftCodec where
  raftMessage := .ofProto protoRaftMessage
  requestVote := .ofProto protoRequestVote
  requestVoteReply := .ofProto protoRequestVoteReply

theorem protoRaftCodec_lawful : protoRaftCodec.Lawful where
  raftMessage := protoRaftMessage.parse_serialize
  requestVote := protoRequestVote.parse_serialize
  requestVoteReply := protoRequestVoteReply.parse_serialize

/-- The two messages have their terms in one place; the vote is not a text, and no field of a request. -/
theorem parse_reply_as_request (reply : RawRequestVoteReply) :
    protoRaftCodec.requestVote.ParseFromArray (protoRaftCodec.requestVoteReply.serialize reply) =
      { term := reply.term, candidateId := [], lastLogIndex := 0, lastLogTerm := 0 } := by
  obtain ⟨term, voteGranted⟩ := reply
  have hterm : readField 1 (FieldValue.varint term.toNat).wireType (writeField 1 (.varint term.toNat) ++
      writeFields 2 [.varint voteGranted.toNat]) =
        some (.varint term.toNat, writeFields 2 [.varint voteGranted.toNat]) :=
    readField_writeField (show 1 + 1 + 1 ≤ 16 by decide)
  have hrest : readFields 2 [.bytes, .varint, .varint] (writeFields 2 [.varint voteGranted.toNat]) =
      some [.bytes [], .varint 0, .varint 0] := by
    cases voteGranted with
    | false => rfl
    | true => rfl
  have hread : readFields 1 protoRequestVote.schema
      (protoRequestVoteReply.serialize { term := term, voteGranted := voteGranted }) =
        some [.varint term.toNat, .bytes [], .varint 0, .varint 0] := by
    show (readField 1 (FieldValue.varint term.toNat).wireType (writeField 1 (.varint term.toNat) ++
      writeFields 2 [.varint voteGranted.toNat])).bind _ = _
    rw [hterm, Option.bind_some, hrest]
    rfl
  show protoRequestVote.parse (protoRequestVoteReply.serialize _) = _
  rw [ProtoMessage.parse, hread]
  show RawRequestVote.mk (UInt64.ofNat term.toNat) [] 0 0 = _
  rw [UInt64.ofNat_toNat]

end DistributedNetwork.Consensus
