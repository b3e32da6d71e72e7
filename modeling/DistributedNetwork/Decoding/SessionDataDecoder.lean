import DistributedNetwork.Decoding.PacketHeader

/-!
# The session data decoder

`addSessionData` stores a received chunk in the read buffer of the session and then decodes packets
until one is incomplete.  A packet is only consumed when its header and its payload object are there;
a payload constructor that returns a null pointer therefore stops the session for good.

* `decodePacketHeader` — through a pointer into the block, or into a copy when the header goes round the
  end; the copy is destroyed before it is read;
* `decodePacketPayload` — the same choice, made from the reported contiguous length;
* `decodeLoop` — the loop, with fuel; running out of it is told apart from every other end;
* `addSessionData` — the task as the workers run it, `writeAndDecode` its part under the lock.

A failed assertion ends the process, and reading destroyed memory has no defined outcome; `Fetch.aborted`
and `none` stand for both.
-/

namespace DistributedNetwork.Decoding

open DistributedNetwork.Buffer DistributedNetwork.Library

/-- A pointer that may be null, or no defined outcome of the function that returns it. -/
inductive Fetch (α : Type) where
  | missing
  | found (value : α)
  | aborted

namespace Fetch

/-- The pointer a payload constructor returns. -/
def ofOption {α : Type} : Option α → Fetch α
  | none => missing
  | some value => found value

end Fetch

structure P2PSession where
  m_sessionId : ℕ
  m_readBuffer : RingBuffer
  m_isWaitingDisconnect : Bool := false

/-- One call of the packet handler; a packet without payload has a null payload. -/
structure Delivered (Payload : Type) where
  sessionId : ℕ
  header : PacketHeader
  payload : Option Payload
  deriving DecidableEq

structure SessionDataDecoder (Payload : Type) where
  createPayload : UInt16 → List Byte → Option Payload
  /-- What is read through a pointer into a vector that is destroyed already; C++ defines nothing. -/
  readDestroyed : List Byte → Option (List Byte) := fun _ => none
  m_running : Bool := true
  m_hasPacketHandler : Bool := true

def writeDataToP2PSessionReadBuffer (readBuffer : RingBuffer) (buffer : List Byte) :
    Fetch (ℤ × RingBuffer) :=
  let written := readBuffer.writeData buffer
  if written.1 = -1 then .found (-1, written.2)
  else
    let increased := written.2.increaseUsedSpace buffer.length
    if increased.1 = -1 then .aborted else .found (0, increased.2)

namespace SessionDataDecoder

variable {Payload : Type} (decoder : SessionDataDecoder Payload)

def decodePacketHeader (readBuffer : RingBuffer) : Fetch PacketHeader :=
  let read (buffer : List Byte) : Fetch PacketHeader :=
    let header := PacketHeader.decode buffer
    if header.isMagicMatch then .found header else .aborted
  match readBuffer.getBufferForRead PacketHeader.headerLength with
  | (_, some buffer) => read (slice readBuffer.m_buffer buffer PacketHeader.headerLength)
  | (ret, none) =>
    if ret = -1 then .missing
    else
      -- the vector lives in the branch of -2 only, and `buffer` points into it behind the branch
      let bufferForBackspaceLessThanHeaderLength :=
        (readBuffer.readData PacketHeader.headerLength 0 (List.replicate PacketHeader.headerLength 0)).2
      match decoder.readDestroyed bufferForBackspaceLessThanHeaderLength with
      | none => .aborted
      | some buffer => read buffer

def decodePacketPayload (header : PacketHeader) (readBuffer : RingBuffer) : Fetch Payload :=
  let headerLength := PacketHeader.headerLength
  let payloadLength := header.m_payloadLength.toNat
  if sizeSub readBuffer.dataLength headerLength < payloadLength then .missing
  else
    match readBuffer.getContinuousData with
    | (_, none) => .aborted
    | (_, some (buffer, continuousDataLen)) =>
      if continuousDataLen < headerLength + payloadLength then
        let copied := readBuffer.readData payloadLength headerLength
          (List.replicate payloadLength 0)
        if copied.1 = -1 then .aborted
        else .ofOption (decoder.createPayload header.m_packetType copied.2)
      else
        .ofOption (decoder.createPayload header.m_packetType
          (slice readBuffer.m_buffer (buffer + headerLength) payloadLength))

/-- Header and payload of the next packet; the payload of an empty packet stays a null pointer. -/
def decodePacket (readBuffer : RingBuffer) : Fetch (PacketHeader × Option Payload) :=
  match decoder.decodePacketHeader readBuffer with
  | .missing => .missing
  | .aborted => .aborted
  | .found header =>
    if header.m_payloadLength = 0 then .found (header, none)
    else
      match decoder.decodePacketPayload header readBuffer with
      | .missing => .missing
      | .aborted => .aborted
      | .found payload => .found (header, some payload)

/-- The bytes a decoded packet takes out of the read buffer. -/
def consume (readBuffer : RingBuffer) (header : PacketHeader) : RingBuffer :=
  (readBuffer.decreaseUsedSpace (PacketHeader.headerLength + header.m_payloadLength.toNat)).2

def deliver (sessionId : ℕ) (packet : PacketHeader × Option Payload) : List (Delivered Payload) :=
  if decoder.m_hasPacketHandler then [⟨sessionId, packet.1, packet.2⟩] else []

/-- The loop: the read buffer when it stops and the calls of the handler; `none` when an assertion
fails or when the fuel runs out. -/
def decodeLoop (sessionId : ℕ) : ℕ → RingBuffer → Option (RingBuffer × List (Delivered Payload))
  | 0, _ => none
  | fuel + 1, readBuffer =>
    if decoder.m_running then
      match decoder.decodePacket readBuffer with
      | .missing => some (readBuffer, [])
      | .aborted => none
      | .found packet =>
        (decodeLoop sessionId fuel (consume readBuffer packet.1)).map fun rest =>
          (rest.1, decoder.deliver sessionId packet ++ rest.2)
    else some (readBuffer, [])

/-- What the task does under the lock of the read buffer.  Every round of the loop takes at least a
header, so one round more than there are bytes is enough. -/
def writeAndDecode (session : P2PSession) (buffer : List Byte) :
    Option (P2PSession × List (Delivered Payload)) :=
  match writeDataToP2PSessionReadBuffer session.m_readBuffer buffer with
  | .missing => none
  | .aborted => none
  | .found (ret, readBuffer) =>
    if ret = -1 then some ({ session with m_readBuffer := readBuffer }, [])
    else
      (decoder.decodeLoop session.m_sessionId (readBuffer.dataLength + 1) readBuffer).map
        fun result => ({ session with m_readBuffer := result.1 }, result.2)

/-- The task pushed by `addSessionData`, run while the session is alive. -/
def addSessionData (session : P2PSession) (buffer : List Byte) :
    Option (P2PSession × List (Delivered Payload)) :=
  if session.m_isWaitingDisconnect then some (session, [])
  else decoder.writeAndDecode session buffer

/-- The tasks of several chunks, one after another. -/
def addChunks (session : P2PSession) :
    List (List Byte) → Option (P2PSession × List (Delivered Payload))
  | [] => some (session, [])
  | chunk :: chunks =>
    (decoder.addSessionData session chunk).bind fun result =>
      (addChunks result.1 chunks).map fun rest => (rest.1, result.2 ++ rest.2)

/-- The copy of a header is still there when it is read. -/
def KeepsCopy : Prop :=
  ∀ bytes, decoder.readDestroyed bytes = some bytes

/-- The same decoder with a copy that lives as long as the pointer. -/
def withCopy : SessionDataDecoder Payload :=
  { decoder with readDestroyed := some }

/-- A header that begins at `start` in a block of `n` bytes is read right: it lies in one piece, or the
copy of it is still there. -/
def ReadsHeaderAt (n start : ℕ) : Prop :=
  start + PacketHeader.headerLength ≤ n ∨ decoder.KeepsCopy

theorem keepsCopy_withCopy : decoder.withCopy.KeepsCopy :=
  fun _ => rfl

end SessionDataDecoder

/-! ### Decoding from a buffer whose contents are known -/

section Decode

open RingBuffer

variable {Payload : Type} {decoder : SessionDataDecoder Payload} {n : ℕ} {rb : RingBuffer}
variable {q : List Byte} {header : PacketHeader}

theorem headerLength_eq : PacketHeader.headerLength = 14 := rfl

theorem consume_spec (h : rb.Represents n q) (hn : n < 2 ^ 31)
    (hlen : PacketHeader.headerLength + header.m_payloadLength.toNat ≤ q.length) :
    (SessionDataDecoder.consume rb header).Represents n
      (q.drop (PacketHeader.headerLength + header.m_payloadLength.toNat)) := by
  obtain ⟨rb', hdecrease, hrep⟩ := h.decreaseUsedSpace_spec hn hlen
  rw [SessionDataDecoder.consume, hdecrease]
  exact hrep

/-- Where the next packet begins. -/
theorem consume_startOffset (h : rb.Represents n q) (hn : n < 2 ^ 31)
    (hlen : PacketHeader.headerLength + header.m_payloadLength.toNat ≤ q.length) :
    (SessionDataDecoder.consume rb header).m_startOffset =
      if q.length = PacketHeader.headerLength + header.m_payloadLength.toNat then 0
      else (rb.m_startOffset + (PacketHeader.headerLength + header.m_payloadLength.toNat)) % n :=
  h.decreaseUsedSpace_startOffset hn hlen

theorem write_spec (h : rb.Represents n q) (hn : n < 2 ^ 31) (chunk : List Byte)
    (hfit : q.length + chunk.length ≤ n - 2) :
    ∃ rb', writeDataToP2PSessionReadBuffer rb chunk = .found (0, rb') ∧
      rb'.Represents n (q ++ chunk) ∧ rb'.m_startOffset = rb.m_startOffset := by
  obtain ⟨mem, hwrite, hmem, hholds⟩ := h.writeData_accept hn hfit
  obtain ⟨rb', hincrease, hrep⟩ := h.increaseUsedSpace_spec hn hmem hfit hholds
  refine ⟨rb', ?_, hrep, ?_⟩
  · simp only [writeDataToP2PSessionReadBuffer, hwrite, hincrease]
    rfl
  · have hstart := increaseUsedSpace_startOffset { rb with m_buffer := mem } chunk.length
    rwa [hincrease] at hstart

theorem decodePacketHeader_missing (h : rb.Represents n q) (hn : n < 2 ^ 31)
    (hlen : q.length < PacketHeader.headerLength) : decoder.decodePacketHeader rb = .missing := by
  unfold SessionDataDecoder.decodePacketHeader
  rw [h.getBufferForRead_eq hn, if_pos hlen]
  rfl

/-- The header in front of the bytes, whatever they are. -/
def frontHeader (q : List Byte) : PacketHeader :=
  PacketHeader.decode (q.take PacketHeader.headerLength)

/-- **A header is read right where it lies in one piece**, and where it goes round the end of the block if
the copy is still there; then it is checked. -/
theorem decodePacketHeader_eq (h : rb.Represents n q) (hn : n < 2 ^ 31)
    (hreads : decoder.ReadsHeaderAt n rb.m_startOffset) (hlen : PacketHeader.headerLength ≤ q.length) :
    decoder.decodePacketHeader rb =
      if (frontHeader q).isMagicMatch then .found (frontHeader q) else .aborted := by
  unfold SessionDataDecoder.decodePacketHeader frontHeader
  rw [h.getBufferForRead_eq hn, if_neg (by omega)]
  by_cases hin : rb.m_startOffset + PacketHeader.headerLength ≤ n
  · have hslice := h.slice_eq (p := 0) (k := PacketHeader.headerLength) (by omega) (by omega)
    rw [Nat.add_zero, List.drop_zero] at hslice
    rw [if_pos hin]
    simp only [hslice]
  · have hcopy := h.readData_spec hn 0 (List.replicate PacketHeader.headerLength 0)
      (k := PacketHeader.headerLength) (by omega) List.length_replicate
    rw [List.drop_zero] at hcopy
    rw [if_neg hin]
    simp only [hcopy, hreads.resolve_left hin (q.take PacketHeader.headerLength)]
    rfl

/-- **A header that goes round the end of the block is read from destroyed memory.** -/
theorem decodePacketHeader_wrapped (h : rb.Represents n q) (hn : n < 2 ^ 31)
    (hdestroyed : ∀ bytes, decoder.readDestroyed bytes = none)
    (hlen : PacketHeader.headerLength ≤ q.length) (hwraps : n < rb.m_startOffset + PacketHeader.headerLength) :
    decoder.decodePacketHeader rb = .aborted := by
  unfold SessionDataDecoder.decodePacketHeader
  rw [h.getBufferForRead_eq hn, if_neg (by omega), if_neg (by omega)]
  simp only [hdestroyed]
  rfl

theorem decodePacketHeader_found (h : rb.Represents n q) (hn : n < 2 ^ 31)
    (hreads : decoder.ReadsHeaderAt n rb.m_startOffset) (hmagic : header.isMagicMatch)
    (hq : q.take PacketHeader.headerLength = header.encode) :
    decoder.decodePacketHeader rb = .found header := by
  have hlen : PacketHeader.headerLength ≤ q.length := by
    have := congrArg List.length hq
    rw [List.length_take, PacketHeader.length_encode] at this
    omega
  have hread : frontHeader q = header := by
    rw [frontHeader, hq, PacketHeader.decode_encode]
  rw [decodePacketHeader_eq h hn hreads hlen, hread, if_pos hmagic]

theorem decodePacketPayload_missing (h : rb.Represents n q) (hn : n < 2 ^ 31)
    (hheader : PacketHeader.headerLength ≤ q.length)
    (hlen : q.length < PacketHeader.headerLength + header.m_payloadLength.toNat) :
    decoder.decodePacketPayload header rb = .missing := by
  have hfits := h.fits
  have hrest : sizeSub q.length PacketHeader.headerLength = q.length - PacketHeader.headerLength :=
    sizeSub_eq hheader (by omega)
  simp only [SessionDataDecoder.decodePacketPayload, h.dataLength_eq hn, hrest]
  exact if_pos (by omega)

/-- **A payload is read right wherever it lies.** -/
theorem decodePacketPayload_eq (h : rb.Represents n q) (hn : n < 2 ^ 31)
    (hlen : PacketHeader.headerLength + header.m_payloadLength.toNat ≤ q.length) :
    decoder.decodePacketPayload header rb = .ofOption (decoder.createPayload header.m_packetType
      ((q.drop PacketHeader.headerLength).take header.m_payloadLength.toNat)) := by
  have hfits := h.fits
  have hheader := headerLength_eq
  obtain ⟨len, hcontinuous, hin⟩ := h.getContinuousData_spec hn (by omega)
  have hrest : sizeSub q.length PacketHeader.headerLength = q.length - PacketHeader.headerLength :=
    sizeSub_eq (by omega) (by omega)
  simp only [SessionDataDecoder.decodePacketPayload, h.dataLength_eq hn, hrest, hcontinuous]
  rw [if_neg (by omega)]
  by_cases hshort : len < PacketHeader.headerLength + header.m_payloadLength.toNat
  · have hcopy := h.readData_spec hn PacketHeader.headerLength
      (List.replicate header.m_payloadLength.toNat 0) hlen List.length_replicate
    simp only [if_pos hshort, hcopy]
    rfl
  · have hslice := h.slice_eq (p := PacketHeader.headerLength)
      (k := header.m_payloadLength.toNat) hlen (by omega)
    simp only [if_neg hshort, hslice]

end Decode

end DistributedNetwork.Decoding
