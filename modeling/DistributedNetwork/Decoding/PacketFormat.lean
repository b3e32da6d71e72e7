import DistributedNetwork.Decoding.Framing

/-!
# What is emitted and what can be decoded

`Emitted` lists the packets the services build with `PacketEncodeHelper`, each with its content.
`PayloadFactory.createPayload` is the receiving side.  Protocol buffers are a parameter: a codec
serializes a message and parses bytes back.

Three places have to agree, and two of them miss a case:

* the factory has no constructor for the three distance packets, so their payload is a null pointer
  and the decoder waits for it forever;
* the decoder skips the payload object of a packet without payload bytes, although a module message
  may be empty and a message whose fields all have default values serializes to nothing.

`arrives_iff` says exactly which packets arrive.
-/

namespace DistributedNetwork.Decoding

open DistributedNetwork.Buffer DistributedNetwork.Library

inductive PacketType where
  | PT_None
  | PT_ClientInfo
  | PT_ClientInfoReply
  | PT_HeartBeat
  | PT_HeartBeatReply
  | PT_DistanceDetect
  | PT_DistanceDetectReply
  | PT_DistanceVector
  | PT_ModuleMessage
  deriving DecidableEq, Repr

namespace PacketType

/-- The 16 bits of the enumerator in a header. -/
def code : PacketType → UInt16
  | PT_None => 0
  | PT_ClientInfo => 1
  | PT_ClientInfoReply => 2
  | PT_HeartBeat => 3
  | PT_HeartBeatReply => 4
  | PT_DistanceDetect => 5
  | PT_DistanceDetectReply => 6
  | PT_DistanceVector => 7
  | PT_ModuleMessage => 8

end PacketType

/-! ### Messages -/

structure ClientInfo where
  seq : UInt32
  localHost : String
  peerHost : String
  handshakeUuid : String
  nodeId : String
  deriving DecidableEq

structure ClientInfoReply where
  seq : UInt32
  peerHost : String
  handshakeUuid : String
  nodeId : String
  result : Int32
  deriving DecidableEq

structure HeartBeat where
  nodeId : String
  seq : UInt64
  timestamp : UInt32
  deriving DecidableEq

structure HeartBeatReply where
  nodeId : String
  seq : UInt64
  transferTime : UInt32
  deriving DecidableEq

structure DistanceDetect where
  seq : UInt64
  timestamp : UInt32
  deriving DecidableEq

structure DistanceDetectReply where
  seq : UInt64
  elapsedTime : UInt32
  deriving DecidableEq

structure DistanceVectorMessage where
  seq : UInt64
  distanceVector : List (String × UInt32)
  deriving DecidableEq

/-- Serialization of one message type.  `parseFromArray` is the message a payload object holds after
parsing; the factory does not look at the success of it. -/
structure ProtobufCodec (Message : Type) where
  serializeToArray : Message → List Byte
  parseFromArray : List Byte → Message

structure Protobuf where
  clientInfo : ProtobufCodec ClientInfo
  clientInfoReply : ProtobufCodec ClientInfoReply
  heartBeat : ProtobufCodec HeartBeat
  heartBeatReply : ProtobufCodec HeartBeatReply
  distanceDetect : ProtobufCodec DistanceDetect
  distanceDetectReply : ProtobufCodec DistanceDetectReply
  distanceVector : ProtobufCodec DistanceVectorMessage

/-- The payload objects, one constructor for each payload class. -/
inductive PayloadObject where
  | clientInfo (message : ClientInfo)
  | clientInfoReply (message : ClientInfoReply)
  | heartBeat (message : HeartBeat)
  | heartBeatReply (message : HeartBeatReply)
  | distanceDetect (message : DistanceDetect)
  | distanceDetectReply (message : DistanceDetectReply)
  | distanceVector (message : DistanceVectorMessage)
  | moduleMessage (payload : List Byte)
  deriving DecidableEq

/-! ### The sending side -/

namespace PacketEncodeHelper

/-- The general template: header of the type, then the serialized payload. -/
def encode (packetType : PacketType) (payload : List Byte) : List Byte :=
  let packetHeader : PacketHeader :=
    { m_packetType := packetType.code, m_payloadLength := UInt32.ofNat payload.length }
  packetHeader.encode ++ payload

/-- The specialization of the two heartbeats: a header alone. -/
def encodeHeartBeat (packetType : PacketType) : List Byte :=
  let packetHeader : PacketHeader := { m_packetType := packetType.code, m_payloadLength := 0 }
  packetHeader.encode

/-- The specialization of the module message, the only packet that sets a module id. -/
def encodeModuleMessage (moduleId : ModuleID) (payload : List Byte) : List Byte :=
  let packetHeader : PacketHeader :=
    { m_packetType := PacketType.PT_ModuleMessage.code
      m_moduleId := moduleId
      m_payloadLength := UInt32.ofNat payload.length }
  packetHeader.encode ++ payload

end PacketEncodeHelper

/-- The packets the services send. -/
inductive Emitted where
  | clientInfo (message : ClientInfo)
  | clientInfoReply (message : ClientInfoReply)
  | heartBeat
  | heartBeatReply
  | distanceDetect (message : DistanceDetect)
  | distanceDetectReply (message : DistanceDetectReply)
  | distanceVector (message : DistanceVectorMessage)
  | moduleMessage (moduleId : ModuleID) (payload : List Byte)
  deriving DecidableEq

namespace Emitted

variable (pb : Protobuf)

def type : Emitted → PacketType
  | clientInfo _ => .PT_ClientInfo
  | clientInfoReply _ => .PT_ClientInfoReply
  | heartBeat => .PT_HeartBeat
  | heartBeatReply => .PT_HeartBeatReply
  | distanceDetect _ => .PT_DistanceDetect
  | distanceDetectReply _ => .PT_DistanceDetectReply
  | distanceVector _ => .PT_DistanceVector
  | moduleMessage _ _ => .PT_ModuleMessage

def moduleId : Emitted → ModuleID
  | moduleMessage moduleId _ => moduleId
  | _ => .unknown

/-- The payload bytes. -/
def payload : Emitted → List Byte
  | clientInfo message => pb.clientInfo.serializeToArray message
  | clientInfoReply message => pb.clientInfoReply.serializeToArray message
  | heartBeat => []
  | heartBeatReply => []
  | distanceDetect message => pb.distanceDetect.serializeToArray message
  | distanceDetectReply message => pb.distanceDetectReply.serializeToArray message
  | distanceVector message => pb.distanceVector.serializeToArray message
  | moduleMessage _ payload => payload

def encode : Emitted → List Byte
  | clientInfo message =>
    PacketEncodeHelper.encode .PT_ClientInfo (pb.clientInfo.serializeToArray message)
  | clientInfoReply message =>
    PacketEncodeHelper.encode .PT_ClientInfoReply (pb.clientInfoReply.serializeToArray message)
  | heartBeat => PacketEncodeHelper.encodeHeartBeat .PT_HeartBeat
  | heartBeatReply => PacketEncodeHelper.encodeHeartBeat .PT_HeartBeatReply
  | distanceDetect message =>
    PacketEncodeHelper.encode .PT_DistanceDetect (pb.distanceDetect.serializeToArray message)
  | distanceDetectReply message =>
    PacketEncodeHelper.encode .PT_DistanceDetectReply
      (pb.distanceDetectReply.serializeToArray message)
  | distanceVector message =>
    PacketEncodeHelper.encode .PT_DistanceVector (pb.distanceVector.serializeToArray message)
  | moduleMessage moduleId payload => PacketEncodeHelper.encodeModuleMessage moduleId payload

/-- The two packets without payload object. -/
def isHeartBeat : Emitted → Bool
  | heartBeat => true
  | heartBeatReply => true
  | _ => false

/-- The payload object with the content that was sent. -/
def object : Emitted → Option PayloadObject
  | clientInfo message => some (.clientInfo message)
  | clientInfoReply message => some (.clientInfoReply message)
  | heartBeat => none
  | heartBeatReply => none
  | distanceDetect message => some (.distanceDetect message)
  | distanceDetectReply message => some (.distanceDetectReply message)
  | distanceVector message => some (.distanceVector message)
  | moduleMessage _ payload => some (.moduleMessage payload)

/-- Parsing inverts serialization on the message of the packet. -/
def ParsesBack : Emitted → Prop
  | clientInfo message =>
    pb.clientInfo.parseFromArray (pb.clientInfo.serializeToArray message) = message
  | clientInfoReply message =>
    pb.clientInfoReply.parseFromArray (pb.clientInfoReply.serializeToArray message) = message
  | distanceDetect message =>
    pb.distanceDetect.parseFromArray (pb.distanceDetect.serializeToArray message) = message
  | distanceDetectReply message =>
    pb.distanceDetectReply.parseFromArray (pb.distanceDetectReply.serializeToArray message) = message
  | distanceVector message =>
    pb.distanceVector.parseFromArray (pb.distanceVector.serializeToArray message) = message
  | _ => True

/-- The packet of an emission, as the framing sees it. -/
def packet (e : Emitted) : Packet :=
  ⟨e.type.code, e.moduleId, e.payload pb⟩

/-- All specializations of the helper build the bytes of that packet. -/
theorem encode_eq (e : Emitted) : e.encode pb = (e.packet pb).bytes := by
  cases e with
  | heartBeat => exact (List.append_nil _).symm
  | heartBeatReply => exact (List.append_nil _).symm
  | _ => rfl

end Emitted

/-! ### The receiving side -/

namespace PayloadFactory

/-- The payload object of a packet type, decoded from `data`; a null pointer for every other type. -/
def createPayload (pb : Protobuf) (packetType : UInt16) (data : List Byte) : Option PayloadObject :=
  if packetType = PacketType.PT_ClientInfo.code then
    some (.clientInfo (pb.clientInfo.parseFromArray data))
  else if packetType = PacketType.PT_ClientInfoReply.code then
    some (.clientInfoReply (pb.clientInfoReply.parseFromArray data))
  else if packetType = PacketType.PT_HeartBeat.code then
    some (.heartBeat (pb.heartBeat.parseFromArray data))
  else if packetType = PacketType.PT_HeartBeatReply.code then
    some (.heartBeatReply (pb.heartBeatReply.parseFromArray data))
  else if packetType = PacketType.PT_ModuleMessage.code then some (.moduleMessage data)
  else none

end PayloadFactory

/-- The decoder with the real factory. -/
def sessionDataDecoder (pb : Protobuf) : SessionDataDecoder PayloadObject where
  createPayload := PayloadFactory.createPayload pb

/-- The packet types for which the factory has a constructor. -/
def PacketType.hasPayloadClass : PacketType → Bool
  | PT_ClientInfo | PT_ClientInfoReply | PT_HeartBeat | PT_HeartBeatReply | PT_ModuleMessage => true
  | _ => false

/-- Fed with the bytes of `e`, a session with an empty read buffer of `n` bytes gets one handler call,
with the header and the content of `e`, and its read buffer is empty again. -/
def Emitted.Arrives (pb : Protobuf) (n : ℕ) (e : Emitted) : Prop :=
  ∃ readBuffer d, (sessionDataDecoder pb).addSessionData ⟨0, .new n, false⟩ (e.encode pb) =
      some (⟨0, readBuffer, false⟩, [d]) ∧
    readBuffer.contents = [] ∧ d.header.m_packetType = e.type.code ∧
    d.header.m_moduleId = e.moduleId ∧ d.header.m_payloadLength.toNat = (e.payload pb).length ∧
    (e.isHeartBeat = false → d.payload = e.object)

/-- A heartbeat, or a packet of a type the factory knows that carries at least one payload byte and
fits in the read buffer. -/
def Emitted.Sendable (pb : Protobuf) (n : ℕ) (e : Emitted) : Prop :=
  e.isHeartBeat = true ∨
    (e.type.hasPayloadClass = true ∧ e.payload pb ≠ [] ∧
      PacketHeader.headerLength + (e.payload pb).length ≤ n - 2)

/-! ### One packet into an empty buffer -/

section SinglePacket

variable {Payload : Type} {decoder : SessionDataDecoder Payload} {n : ℕ} {p : Packet}
variable {session : P2PSession} (hwait : session.m_isWaitingDisconnect = false)
variable (h : session.m_readBuffer.Represents n []) (hn : n < 2 ^ 31)

include hwait h hn

theorem addSessionData_tooLarge (hlarge : n - 2 < p.bytes.length) :
    decoder.addSessionData session p.bytes = some (session, []) := by
  have hreject := h.writeData_reject hn (d := p.bytes) hlarge
  have hwrite : writeDataToP2PSessionReadBuffer session.m_readBuffer p.bytes =
      .found (-1, session.m_readBuffer) := by
    rw [writeDataToP2PSessionReadBuffer, hreject]
    rfl
  rw [SessionDataDecoder.addSessionData, if_neg (by rw [hwait]; decide),
    SessionDataDecoder.writeAndDecode, hwrite]
  rfl

omit hwait hn in
/-- A packet that is stored in an empty buffer begins at the beginning of the block. -/
theorem readsHeaderAt_of_empty {payloadLength : ℕ}
    (hfits : PacketHeader.headerLength + payloadLength ≤ n - 2) {rb : RingBuffer}
    (hstart : rb.m_startOffset = session.m_readBuffer.m_startOffset) :
    decoder.ReadsHeaderAt n rb.m_startOffset := by
  rw [hstart, h.reset rfl]
  exact .inl (by omega)

theorem addSessionData_arrives (hrunning : decoder.m_running) (hhandler : decoder.m_hasPacketHandler)
    (hp : p.Decodable decoder n) :
    ∃ rb', decoder.addSessionData session p.bytes = some ({ session with m_readBuffer := rb' },
      [p.delivered decoder session.m_sessionId]) ∧ rb'.contents = [] := by
  obtain ⟨rb', hwrite, hrep, hstart⟩ := write_spec h hn p.bytes (by
    rw [List.length_nil, Nat.zero_add, p.length_bytes]
    exact hp.fits)
  rw [List.nil_append] at hrep
  have hfound := decodePacket_found hrep hn hn (readsHeaderAt_of_empty h hp.fits hstart) hp
    List.prefix_rfl
  have hconsume := consume_packet hrep hn hn hp (Nat.le_refl _)
  rw [List.drop_length] at hconsume
  have hmissing : decoder.decodePacket (SessionDataDecoder.consume rb' p.header) = .missing := by
    rw [SessionDataDecoder.decodePacket, decodePacketHeader_missing hconsume hn (by decide)]
  -- a round for the packet and one that finds the buffer empty
  obtain ⟨fuel, hfuel⟩ : ∃ fuel, rb'.dataLength = fuel + 1 := by
    rw [hrep.dataLength_eq hn, p.length_bytes, headerLength_eq]
    exact ⟨13 + p.payload.length, by omega⟩
  refine ⟨SessionDataDecoder.consume rb' p.header, ?_, hconsume.contents_eq hn⟩
  simp only [SessionDataDecoder.addSessionData, SessionDataDecoder.writeAndDecode, hwait, hwrite, hfuel,
    SessionDataDecoder.decodeLoop, hrunning, hfound, hmissing, SessionDataDecoder.deliver, hhandler]
  rfl

/-- Where the factory has no constructor the payload is a null pointer and the packet stays in the
buffer. -/
theorem addSessionData_blocked (hrunning : decoder.m_running)
    (hfits : PacketHeader.headerLength + p.payload.length ≤ n - 2) (hpayload : p.payload ≠ [])
    (hnull : decoder.createPayload p.type p.payload = none) :
    ∃ rb', decoder.addSessionData session p.bytes =
      some ({ session with m_readBuffer := rb' }, []) := by
  obtain ⟨rb', hwrite, hrep, hstart⟩ := write_spec h hn p.bytes (by
    rw [List.length_nil, Nat.zero_add, p.length_bytes]
    exact hfits)
  rw [List.nil_append] at hrep
  have hlength : p.header.m_payloadLength.toNat = p.payload.length := by
    show (UInt32.ofNat p.payload.length).toNat = _
    rw [UInt32.toNat_ofNat']
    exact Nat.mod_eq_of_lt (by omega)
  have hnonzero : p.header.m_payloadLength ≠ 0 := by
    intro hzero
    rw [hzero] at hlength
    exact hpayload (List.length_eq_zero_iff.mp hlength.symm)
  have htake : p.bytes.take PacketHeader.headerLength = p.header.encode :=
    List.take_left' (PacketHeader.length_encode _)
  have hheader : decoder.decodePacketHeader rb' = .found p.header :=
    decodePacketHeader_found hrep hn (readsHeaderAt_of_empty h hfits hstart) rfl htake
  have hbytes : (p.bytes.drop PacketHeader.headerLength).take p.header.m_payloadLength.toNat =
      p.payload := by
    rw [hlength, Packet.bytes, List.drop_left' (PacketHeader.length_encode _), List.take_length]
  have hmissing : decoder.decodePacketPayload p.header rb' = .missing := by
    have hlong : PacketHeader.headerLength + p.header.m_payloadLength.toNat ≤ p.bytes.length :=
      Nat.le_of_eq (by rw [hlength, p.length_bytes])
    rw [decodePacketPayload_eq hrep hn hlong, hbytes,
      show p.header.m_packetType = p.type from rfl, hnull]
    rfl
  refine ⟨rb', ?_⟩
  simp only [SessionDataDecoder.addSessionData, SessionDataDecoder.writeAndDecode, hwait, hwrite,
    SessionDataDecoder.decodeLoop, hrunning, SessionDataDecoder.decodePacket, hheader, if_neg hnonzero, hmissing]
  rfl

end SinglePacket

/-! ### Exactly the sendable packets arrive -/

section Exact

variable (pb : Protobuf)

theorem createPayload_null {t : PacketType} (ht : t.hasPayloadClass = false) (data : List Byte) :
    PayloadFactory.createPayload pb t.code data = none := by
  cases t <;> first | rfl | cases ht

/-- What the factory makes of the bytes of a packet whose message parses back. -/
theorem createPayload_object {e : Emitted} (hback : e.ParsesBack pb)
    (ht : e.type.hasPayloadClass = true) (he : e.isHeartBeat = false) :
    PayloadFactory.createPayload pb e.type.code (e.payload pb) = e.object := by
  cases e with
  | clientInfo message => exact congrArg (fun m => some (PayloadObject.clientInfo m)) hback
  | clientInfoReply message => exact congrArg (fun m => some (PayloadObject.clientInfoReply m)) hback
  | heartBeat => cases he
  | heartBeatReply => cases he
  | distanceDetect message => cases ht
  | distanceDetectReply message => cases ht
  | distanceVector message => cases ht
  | moduleMessage moduleId payload => rfl

theorem payload_heartBeat {e : Emitted} (he : e.isHeartBeat = true) : e.payload pb = [] := by
  cases e <;> first | rfl | cases he

theorem object_isSome {e : Emitted} (he : e.isHeartBeat = false) : e.object.isSome := by
  cases e <;> first | rfl | cases he

/-- The task that is fed with the bytes of `e`. -/
def feed (n : ℕ) (e : Emitted) : Option (P2PSession × List (Delivered PayloadObject)) :=
  (sessionDataDecoder pb).addSessionData ⟨0, .new n, false⟩ (e.packet pb).bytes

variable {pb} {n : ℕ} {e : Emitted}

/-- The outcome of that task decides whether the packet arrives. -/
theorem arrives_iff_of_feed {rb : RingBuffer} {ds : List (Delivered PayloadObject)}
    (h : feed pb n e = some (⟨0, rb, false⟩, ds)) : e.Arrives pb n ↔ ∃ d, ds = [d] ∧
      rb.contents = [] ∧ d.header.m_packetType = e.type.code ∧ d.header.m_moduleId = e.moduleId ∧
      d.header.m_payloadLength.toNat = (e.payload pb).length ∧
      (e.isHeartBeat = false → d.payload = e.object) := by
  unfold Emitted.Arrives
  rw [e.encode_eq pb]
  constructor
  · rintro ⟨_, d, heq, hrest⟩
    rw [feed, heq] at h
    cases h
    exact ⟨d, rfl, hrest⟩
  · rintro ⟨d, rfl, hrest⟩
    exact ⟨rb, d, h, hrest⟩

theorem feed_tooLarge (hn : 16 ≤ n) (hn' : n < 2 ^ 31)
    (hlarge : n - 2 < PacketHeader.headerLength + (e.payload pb).length) :
    feed pb n e = some (⟨0, .new n, false⟩, []) :=
  addSessionData_tooLarge rfl (.new (by omega)) hn' (by
    rw [Packet.length_bytes]
    exact hlarge)

theorem feed_blocked (hn : 16 ≤ n) (hn' : n < 2 ^ 31)
    (hfits : PacketHeader.headerLength + (e.payload pb).length ≤ n - 2)
    (hpayload : e.payload pb ≠ []) (ht : e.type.hasPayloadClass = false) :
    ∃ rb, feed pb n e = some (⟨0, rb, false⟩, []) :=
  addSessionData_blocked rfl (.new (by omega)) hn' rfl hfits hpayload (createPayload_null pb ht _)

theorem feed_delivered (hn : 16 ≤ n) (hn' : n < 2 ^ 31)
    (hfits : PacketHeader.headerLength + (e.payload pb).length ≤ n - 2)
    (hmade : e.payload pb ≠ [] →
      (PayloadFactory.createPayload pb e.type.code (e.payload pb)).isSome) :
    ∃ rb, feed pb n e =
        some (⟨0, rb, false⟩, [(e.packet pb).delivered (sessionDataDecoder pb) 0]) ∧
      rb.contents = [] :=
  addSessionData_arrives rfl (.new (by omega)) hn' rfl rfl ⟨hfits, hmade⟩

/-- The header that is delivered always matches; what is left is the payload object. -/
theorem arrives_iff_object (hn : 16 ≤ n) (hn' : n < 2 ^ 31)
    (hfits : PacketHeader.headerLength + (e.payload pb).length ≤ n - 2)
    (hmade : e.payload pb ≠ [] →
      (PayloadFactory.createPayload pb e.type.code (e.payload pb)).isSome) :
    e.Arrives pb n ↔ (e.isHeartBeat = false → (if e.payload pb = [] then none
      else PayloadFactory.createPayload pb e.type.code (e.payload pb)) = e.object) := by
  obtain ⟨rb, hfeed, hcontents⟩ := feed_delivered hn hn' hfits hmade
  have hlength : (UInt32.ofNat (e.payload pb).length).toNat = (e.payload pb).length := by
    rw [UInt32.toNat_ofNat']
    exact Nat.mod_eq_of_lt (by omega)
  rw [arrives_iff_of_feed hfeed]
  constructor
  · rintro ⟨d, hd, _, _, _, _, hobject⟩
    cases hd
    exact hobject
  · intro hobject
    exact ⟨_, rfl, hcontents, rfl, rfl, hlength, hobject⟩

end Exact

/-- **Exactly the sendable packets arrive.**  What the helper emits for a distance message never gets
through, nor does any other packet without payload bytes except a heartbeat. -/
theorem arrives_iff (pb : Protobuf) (n : ℕ) (hn : 16 ≤ n) (hn' : n < 2 ^ 31) (e : Emitted)
    (hback : e.ParsesBack pb) : e.Arrives pb n ↔ e.Sendable pb n := by
  have hheader := headerLength_eq
  unfold Emitted.Sendable
  cases hbeat : e.isHeartBeat with
  | true =>
    have hpayload := payload_heartBeat pb hbeat
    have hfits : PacketHeader.headerLength + (e.payload pb).length ≤ n - 2 := by
      rw [hpayload, List.length_nil]
      omega
    rw [arrives_iff_object hn hn' hfits (fun h => absurd hpayload h), hbeat]
    simp
  | false =>
    rcases Nat.lt_or_ge (n - 2) (PacketHeader.headerLength + (e.payload pb).length) with hlarge | hfits
    · rw [arrives_iff_of_feed (feed_tooLarge hn hn' hlarge)]
      constructor
      · rintro ⟨d, hd, _⟩
        cases hd
      · rintro (h | ⟨_, _, hfits⟩)
        · cases h
        · omega
    by_cases hpayload : e.payload pb = []
    · -- delivered, but without the payload object
      rw [arrives_iff_object hn hn' hfits (fun h => absurd hpayload h), if_pos hpayload, hbeat]
      have hobject := object_isSome hbeat
      constructor
      · intro h
        rw [← h rfl] at hobject
        cases hobject
      · rintro (h | ⟨_, hne, _⟩)
        · cases h
        · exact absurd hpayload hne
    cases ht : e.type.hasPayloadClass with
    | true =>
      have hobject := createPayload_object pb hback ht hbeat
      rw [arrives_iff_object hn hn' hfits (fun _ => hobject ▸ object_isSome hbeat), if_neg hpayload]
      exact ⟨fun _ => .inr ⟨rfl, hpayload, hfits⟩, fun _ _ => hobject⟩
    | false =>
      obtain ⟨rb, hfeed⟩ := feed_blocked hn hn' hfits hpayload ht
      rw [arrives_iff_of_feed hfeed]
      constructor
      · rintro ⟨d, hd, _⟩
        cases hd
      · rintro (h | ⟨h, _⟩) <;> cases h

section Samples

/-- The size of a session's read buffer. -/
def c_p2pSessionReadBufferSize : ℕ := 16 * 1024

/-- A codec on the one message it is used for. -/
def codecOf {Message : Type} (message : Message) (bytes : List Byte) : ProtobufCodec Message where
  serializeToArray _ := bytes
  parseFromArray _ := message

/-- Messages whose only field off its default is the sequence number `1`: two bytes each. -/
def sampleProtobuf : Protobuf where
  clientInfo := codecOf ⟨1, "", "", "", ""⟩ [0x08, 1]
  clientInfoReply := codecOf ⟨1, "", "", "", 0⟩ [0x08, 1]
  heartBeat := codecOf ⟨"", 1, 0⟩ [0x10, 1]
  heartBeatReply := codecOf ⟨"", 1, 0⟩ [0x10, 1]
  distanceDetect := codecOf ⟨1, 0⟩ [0x08, 1]
  distanceDetectReply := codecOf ⟨1, 0⟩ [0x08, 1]
  distanceVector := codecOf ⟨1, []⟩ [0x08, 1]

/-- **Not every emitted packet arrives**: neither a distance vector nor an empty module message. -/
theorem arrives_fails :
    (Emitted.distanceVector ⟨1, []⟩).ParsesBack sampleProtobuf ∧
      ¬ (Emitted.distanceVector ⟨1, []⟩).Arrives sampleProtobuf c_p2pSessionReadBufferSize ∧
      ¬ (Emitted.moduleMessage .raft []).Arrives sampleProtobuf c_p2pSessionReadBufferSize := by
  refine ⟨rfl, fun harrives => ?_, fun harrives => ?_⟩
  · obtain ⟨rb, hfeed⟩ : ∃ rb, feed sampleProtobuf c_p2pSessionReadBufferSize
        (.distanceVector ⟨1, []⟩) = some (⟨0, rb, false⟩, []) :=
      feed_blocked (by decide) (by decide) (by decide) (by decide) rfl
    obtain ⟨d, hd, _⟩ := (arrives_iff_of_feed hfeed).mp harrives
    cases hd
  · have hobject := (arrives_iff_object (by decide) (by decide) (by decide)
      (fun h => absurd rfl h)).mp harrives rfl
    cases hobject

theorem arrives_iff_clientInfo :
    (Emitted.clientInfo ⟨1, "", "", "", ""⟩).Arrives sampleProtobuf c_p2pSessionReadBufferSize ↔
      (Emitted.clientInfo ⟨1, "", "", "", ""⟩).Sendable sampleProtobuf c_p2pSessionReadBufferSize :=
  arrives_iff sampleProtobuf c_p2pSessionReadBufferSize (by decide) (by decide)
    (.clientInfo ⟨1, "", "", "", ""⟩) rfl

end Samples

end DistributedNetwork.Decoding
