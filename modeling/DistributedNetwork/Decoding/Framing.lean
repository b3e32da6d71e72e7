import DistributedNetwork.Decoding.SessionDataDecoder

/-!
# Framing does not depend on how the stream is cut

A stream is the concatenation of packets.  Whatever chunks it arrives in, the packet handler is
called for each complete packet, in order, and the bytes of the incomplete one wait in the read
buffer.

* `decodePacket_found` / `decodePacket_missing` — one packet, complete or not;
* `decodeLoop_stream` — one task, by induction on the packets;
* `addChunks_stream` — all tasks, by induction on the chunks;
* `framing` — the two together, from an empty buffer.
-/

namespace DistributedNetwork.Decoding

open DistributedNetwork.Buffer DistributedNetwork.Library

/-- What a sender puts on the wire as one packet. -/
structure Packet where
  type : UInt16
  moduleId : ModuleID
  payload : List Byte
  deriving DecidableEq

namespace Packet

def header (p : Packet) : PacketHeader where
  m_packetType := p.type
  m_moduleId := p.moduleId
  m_payloadLength := UInt32.ofNat p.payload.length

def bytes (p : Packet) : List Byte :=
  p.header.encode ++ p.payload

def stream (packets : List Packet) : List Byte :=
  packets.flatMap bytes

theorem length_bytes (p : Packet) : p.bytes.length = PacketHeader.headerLength + p.payload.length := by
  rw [bytes, List.length_append, PacketHeader.length_encode]

theorem stream_cons (p : Packet) (ps : List Packet) : stream (p :: ps) = p.bytes ++ stream ps :=
  List.flatMap_cons

/-- The handler call a packet leads to. -/
def delivered {Payload : Type} (decoder : SessionDataDecoder Payload) (sessionId : ℕ) (p : Packet) :
    Delivered Payload where
  sessionId := sessionId
  header := p.header
  payload := if p.payload = [] then none else decoder.createPayload p.type p.payload

/-- A packet that fits in a read buffer of `n` bytes and whose payload object can be made. -/
structure Decodable {Payload : Type} (decoder : SessionDataDecoder Payload) (n : ℕ) (p : Packet) :
    Prop where
  fits : PacketHeader.headerLength + p.payload.length ≤ n - 2
  nonNull : p.payload ≠ [] → (decoder.createPayload p.type p.payload).isSome

end Packet

/-- `q` is the beginning of a stream: `k` packets and a proper part of the next one. -/
structure Splits (packets : List Packet) (q : List Byte) (k : ℕ) (left : List Byte) : Prop where
  le_length : k ≤ packets.length
  consumed : q = Packet.stream (packets.take k) ++ left
  rest : left <+: Packet.stream (packets.drop k)
  incomplete : ∀ p, packets[k]? = some p → left.length < p.bytes.length

/-- The chunks are offered one after another and each fits in the free space it finds. -/
def chunksFit {Payload : Type} (decoder : SessionDataDecoder Payload) :
    P2PSession → List (List Byte) → Bool
  | _, [] => true
  | session, chunk :: chunks =>
    decide (chunk.length ≤ session.m_readBuffer.space) &&
      match decoder.addSessionData session chunk with
      | none => true
      | some result => chunksFit decoder result.1 chunks

section Framing

variable {Payload : Type} {decoder : SessionDataDecoder Payload} {n m : ℕ} {rb : RingBuffer}
variable {q left : List Byte} {p : Packet} {packets : List Packet}

/-! ### One packet -/

theorem Packet.Decodable.payloadLength (hp : p.Decodable decoder n) (hn : n < 2 ^ 31) :
    p.header.m_payloadLength.toNat = p.payload.length := by
  have hfits := hp.fits
  show (UInt32.ofNat p.payload.length).toNat = _
  rw [UInt32.toNat_ofNat']
  exact Nat.mod_eq_of_lt (by omega)

/-- A stream that begins with a part of a packet, at least as long as a header, begins with its
header. -/
theorem take_header {rest : List Byte} (hq : q <+: p.bytes ++ rest)
    (hlen : PacketHeader.headerLength ≤ q.length) :
    q.take PacketHeader.headerLength = p.header.encode := by
  obtain ⟨tail, htail⟩ := hq
  have htake := congrArg (List.take PacketHeader.headerLength) htail
  rw [List.take_append_of_le_length hlen, Packet.bytes, List.append_assoc] at htake
  rw [htake]
  exact List.take_left' (PacketHeader.length_encode _)

theorem decodePacket_missing (h : rb.Represents n q) (hn : n < 2 ^ 31) (hm : m < 2 ^ 31)
    (hreads : decoder.ReadsHeaderAt n rb.m_startOffset) (hp : p.Decodable decoder m) {rest : List Byte}
    (hq : q <+: p.bytes ++ rest) (hlen : q.length < p.bytes.length) :
    decoder.decodePacket rb = .missing := by
  rw [p.length_bytes] at hlen
  rcases Nat.lt_or_ge q.length PacketHeader.headerLength with hshort | hheader
  · rw [SessionDataDecoder.decodePacket, decodePacketHeader_missing h hn hshort]
  · have hpayload := hp.payloadLength hm
    have hnonempty : p.header.m_payloadLength ≠ 0 := by
      intro hzero
      rw [hzero] at hpayload
      have : p.payload.length = 0 := hpayload.symm
      omega
    rw [SessionDataDecoder.decodePacket,
      decodePacketHeader_found h hn hreads rfl (take_header hq hheader)]
    simp only [if_neg hnonempty]
    rw [decodePacketPayload_missing h hn hheader (by rw [hpayload]; exact hlen)]

/-- **A complete packet is decoded** and taken out of the buffer. -/
theorem decodePacket_found (h : rb.Represents n q) (hn : n < 2 ^ 31) (hm : m < 2 ^ 31)
    (hreads : decoder.ReadsHeaderAt n rb.m_startOffset) (hp : p.Decodable decoder m)
    (hq : p.bytes <+: q) : decoder.decodePacket rb =
      .found (p.header, (p.delivered decoder 0).payload) := by
  have hlen : PacketHeader.headerLength + p.payload.length ≤ q.length := by
    rw [← p.length_bytes]
    exact hq.length_le
  have hpayload := hp.payloadLength hm
  obtain ⟨rest, hrest⟩ := hq
  have hq : q <+: p.bytes ++ rest := ⟨[], by rw [List.append_nil, hrest]⟩
  have hheader := take_header hq (by omega)
  rw [SessionDataDecoder.decodePacket, decodePacketHeader_found h hn hreads rfl hheader]
  by_cases hempty : p.payload = []
  · have hzero : p.header.m_payloadLength = 0 := by
      show UInt32.ofNat p.payload.length = 0
      rw [hempty]
      rfl
    simp only [if_pos hzero, Packet.delivered, if_pos hempty]
  · have hnonzero : p.header.m_payloadLength ≠ 0 := by
      intro hzero
      rw [hzero] at hpayload
      exact hempty (List.length_eq_zero_iff.mp hpayload.symm)
    have hbytes : (q.drop PacketHeader.headerLength).take p.header.m_payloadLength.toNat =
        p.payload := by
      rw [hpayload, ← hrest, Packet.bytes, List.append_assoc,
        List.drop_left' (PacketHeader.length_encode _), List.take_left]
    obtain ⟨payload, hsome⟩ := Option.isSome_iff_exists.mp (hp.nonNull hempty)
    simp only [if_neg hnonzero, Packet.delivered, if_neg hempty]
    rw [decodePacketPayload_eq h hn (by rw [hpayload]; exact hlen), hbytes,
      show p.header.m_packetType = p.type from rfl, hsome]
    rfl

theorem consume_packet (h : rb.Represents n q) (hn : n < 2 ^ 31) (hm : m < 2 ^ 31)
    (hp : p.Decodable decoder m) (hlen : p.bytes.length ≤ q.length) :
    (SessionDataDecoder.consume rb p.header).Represents n (q.drop p.bytes.length) := by
  have hpayload := hp.payloadLength hm
  rw [p.length_bytes] at hlen ⊢
  have hconsume : (SessionDataDecoder.consume rb p.header).Represents n
      (q.drop (PacketHeader.headerLength + p.header.m_payloadLength.toNat)) :=
    consume_spec h hn (by omega)
  rwa [hpayload] at hconsume

/-! ### One task -/

/-- **The loop decodes the complete packets** of what the buffer holds, by induction on the packets
that are still to come. -/
theorem decodeLoop_stream (hrunning : decoder.m_running) (hhandler : decoder.m_hasPacketHandler)
    (hcopy : decoder.KeepsCopy) (hn : n < 2 ^ 31) (hm : m < 2 ^ 31) (sessionId : ℕ) {fuel : ℕ} (h : rb.Represents n q)
    (hfuel : q.length < fuel) (hp : ∀ p ∈ packets, p.Decodable decoder m) (hq : q <+: Packet.stream packets) :
    ∃ k left rb', decoder.decodeLoop sessionId fuel rb =
        some (rb', (packets.take k).map (Packet.delivered decoder sessionId)) ∧
      rb'.Represents n left ∧ Splits packets q k left := by
  induction packets generalizing rb q fuel with
  | nil =>
    have hempty : q = [] := List.prefix_nil.mp hq
    subst hempty
    obtain ⟨fuel, rfl⟩ := Nat.exists_eq_succ_of_ne_zero (Nat.ne_of_gt hfuel)
    refine ⟨0, [], rb, ?_, h, ⟨Nat.le_refl _, rfl, List.prefix_rfl, fun p hp => by cases hp⟩⟩
    have hheader : decoder.decodePacketHeader rb = .missing := decodePacketHeader_missing h hn (by decide)
    simp only [SessionDataDecoder.decodeLoop, hrunning, if_true, SessionDataDecoder.decodePacket,
      hheader, List.take_nil, List.map_nil]
  | cons p ps ih =>
    rw [Packet.stream_cons] at hq
    have hp₀ := hp p List.mem_cons_self
    obtain ⟨fuel, rfl⟩ := Nat.exists_eq_succ_of_ne_zero (Nat.ne_of_gt (Nat.zero_lt_of_lt hfuel))
    rcases Nat.lt_or_ge q.length p.bytes.length with hshort | hlong
    · refine ⟨0, q, rb, ?_, h, ⟨Nat.zero_le _, rfl, ?_, fun p' hp' => ?_⟩⟩
      · have hmissing := decodePacket_missing h hn hm (.inr hcopy) hp₀ hq hshort
        simp only [SessionDataDecoder.decodeLoop, hrunning, if_true, hmissing, List.take_zero,
          List.map_nil]
      · rw [List.drop_zero, Packet.stream_cons]
        exact hq
      · cases hp'
        exact hshort
    · have hpre : p.bytes <+: q := List.prefix_of_prefix_length_le (List.prefix_append _ _) hq hlong
      obtain ⟨rest, rfl⟩ := hpre
      have hrest : rest <+: Packet.stream ps := (List.prefix_append_right_inj _).mp hq
      have hconsume := consume_packet h hn hm hp₀ hlong
      rw [List.drop_left] at hconsume
      have hpos : 0 < p.bytes.length := by
        rw [p.length_bytes, headerLength_eq]
        omega
      have hfuel' : rest.length < fuel := by
        rw [List.length_append] at hfuel
        omega
      obtain ⟨k, left, rb', hloop, hrep, hsplit⟩ := ih hconsume hfuel'
        (fun p' hp' => hp p' (List.mem_cons_of_mem p hp')) hrest
      refine ⟨k + 1, left, rb', ?_, hrep, ?_⟩
      · have hfound := decodePacket_found h hn hm (.inr hcopy) hp₀ (List.prefix_append _ _)
        simp only [SessionDataDecoder.decodeLoop, hrunning, if_true, hfound, hloop, Option.map_some,
          SessionDataDecoder.deliver, hhandler]
        rfl
      · refine ⟨Nat.succ_le_succ hsplit.le_length, ?_, hsplit.rest, hsplit.incomplete⟩
        rw [List.take_succ_cons, Packet.stream_cons, List.append_assoc, ← hsplit.consumed]

/-- The task of one chunk goes on from what the previous ones left. -/
theorem addSessionData_stream (hrunning : decoder.m_running) (hhandler : decoder.m_hasPacketHandler)
    (hcopy : decoder.KeepsCopy) (hn : n < 2 ^ 31) (hm : m < 2 ^ 31) {session : P2PSession} (hwait : session.m_isWaitingDisconnect = false)
    (h : session.m_readBuffer.Represents n left) {chunk : List Byte}
    (hspace : chunk.length ≤ session.m_readBuffer.space)
    (hp : ∀ p ∈ packets, p.Decodable decoder m) (hq : left ++ chunk <+: Packet.stream packets) :
    ∃ k left' rb', decoder.addSessionData session chunk =
        some ({ session with m_readBuffer := rb' },
          (packets.take k).map (Packet.delivered decoder session.m_sessionId)) ∧
      rb'.Represents n left' ∧ Splits packets (left ++ chunk) k left' := by
  have hfits := h.fits
  rw [h.space_eq hn] at hspace
  obtain ⟨rb₁, hwrite, hrep₁, -⟩ := write_spec h hn chunk (by
    rw [c_reservedSpace] at hfits
    omega)
  obtain ⟨k, left', rb', hloop, hrep, hsplit⟩ := decodeLoop_stream hrunning hhandler hcopy hn hm
    session.m_sessionId hrep₁ (Nat.lt_succ_self _) hp hq
  refine ⟨k, left', rb', ?_, hrep, hsplit⟩
  have hfuel : rb₁.dataLength + 1 = (left ++ chunk).length.succ :=
    congrArg Nat.succ (hrep₁.dataLength_eq hn)
  simp only [SessionDataDecoder.addSessionData, SessionDataDecoder.writeAndDecode, hwait, hwrite,
    hfuel, hloop, Option.map_some]
  rfl

/-! ### All tasks -/

/-- A split of the stream behind a split of its beginning. -/
theorem Splits.append {k k' : ℕ} {q' left' : List Byte} (h : Splits packets q k left)
    (h' : Splits (packets.drop k) (left ++ q') k' left') :
    Splits packets (q ++ q') (k + k') left' := by
  have hlen := h.le_length
  have hlen' := h'.le_length
  rw [List.length_drop] at hlen'
  refine ⟨by omega, ?_, ?_, fun p hp => ?_⟩
  · rw [h.consumed, List.append_assoc, h'.consumed, List.take_add, Packet.stream, Packet.stream,
      Packet.stream, List.flatMap_append, List.append_assoc]
  · rw [← List.drop_drop]
    exact h'.rest
  · refine h'.incomplete p ?_
    rw [List.getElem?_drop]
    exact hp

/-- **Any chunks of a stream**, by induction on the chunks: each task takes up what is left. -/
theorem addChunks_stream (hrunning : decoder.m_running) (hhandler : decoder.m_hasPacketHandler)
    (hcopy : decoder.KeepsCopy) (hn : n < 2 ^ 31) (chunks : List (List Byte)) (session : P2PSession)
    (hwait : session.m_isWaitingDisconnect = false) (h : session.m_readBuffer.Represents n left)
    (hfit : chunksFit decoder session chunks) (hp : ∀ p ∈ packets, p.Decodable decoder n)
    (hq : left ++ chunks.flatten <+: Packet.stream packets)
    (hleft : ∀ p, packets[0]? = some p → left.length < p.bytes.length) :
    ∃ k left' rb', decoder.addChunks session chunks =
        some ({ session with m_readBuffer := rb' },
          (packets.take k).map (Packet.delivered decoder session.m_sessionId)) ∧
      rb'.Represents n left' ∧ Splits packets (left ++ chunks.flatten) k left' := by
  induction chunks generalizing session left packets with
  | nil =>
    rw [List.flatten_nil, List.append_nil] at hq ⊢
    refine ⟨0, left, session.m_readBuffer, rfl, h, ⟨Nat.zero_le _, rfl, ?_, hleft⟩⟩
    rwa [List.drop_zero]
  | cons chunk chunks ih =>
    rw [List.flatten_cons, ← List.append_assoc] at hq ⊢
    simp only [chunksFit, Bool.and_eq_true, decide_eq_true_eq] at hfit
    obtain ⟨k, left₁, rb₁, htask, hrep₁, hsplit⟩ := addSessionData_stream hrunning hhandler hcopy
      hn hn hwait h hfit.1 hp ((List.prefix_append _ _).trans hq)
    have hrest : left₁ ++ chunks.flatten <+: Packet.stream (packets.drop k) := by
      rw [hsplit.consumed, List.append_assoc] at hq
      have hstream : Packet.stream packets =
          Packet.stream (packets.take k) ++ Packet.stream (packets.drop k) := by
        rw [Packet.stream, Packet.stream, Packet.stream, ← List.flatMap_append,
          List.take_append_drop]
      rw [hstream] at hq
      exact (List.prefix_append_right_inj _).mp hq
    rw [htask] at hfit
    obtain ⟨k', left', rb', htasks, hrep, hsplit'⟩ := ih
      { session with m_readBuffer := rb₁ } hwait hrep₁ hfit.2
      (fun p hp' => hp p (List.mem_of_mem_drop hp')) hrest (fun p hp' => by
        rw [List.getElem?_drop] at hp'
        exact hsplit.incomplete p hp')
    refine ⟨k + k', left', rb', ?_, hrep, hsplit.append hsplit'⟩
    simp only [SessionDataDecoder.addChunks, htask, Option.bind_some, htasks, Option.map_some]
    rw [List.take_add, List.map_append]

end Framing

/-- **Framing is independent of chunking.**  However a stream of packets is cut into chunks that find
enough free space, the tasks run after one another call the handler exactly once for each complete
packet, in order, with what was sent, and leave exactly the incomplete packet in the buffer.  The copy of
a header that goes round the end of the block is taken as a value. -/
theorem framing {Payload : Type} (decoder : SessionDataDecoder Payload) (hrunning : decoder.m_running)
    (hhandler : decoder.m_hasPacketHandler) (hcopy : decoder.KeepsCopy) (capacity : ℕ) (hcapacity : 16 ≤ capacity)
    (hcapacity' : capacity < 2 ^ 31) (sessionId : ℕ) (packets : List Packet)
    (hfits : ∀ p ∈ packets, PacketHeader.headerLength + p.payload.length ≤ capacity - 2)
    (hnonNull : ∀ p ∈ packets, p.payload ≠ [] →
      (decoder.createPayload p.type p.payload).isSome)
    (chunks : List (List Byte)) (hchunks : chunks.flatten <+: Packet.stream packets)
    (hspace : chunksFit decoder ⟨sessionId, .new capacity, false⟩ chunks) :
    ∃ k left readBuffer, decoder.addChunks ⟨sessionId, .new capacity, false⟩ chunks =
        some (⟨sessionId, readBuffer, false⟩,
          (packets.take k).map (Packet.delivered decoder sessionId)) ∧
      k ≤ packets.length ∧ chunks.flatten = Packet.stream (packets.take k) ++ left ∧
      left <+: Packet.stream (packets.drop k) ∧
      (∀ p, packets[k]? = some p → left.length < p.bytes.length) ∧ readBuffer.contents = left := by
  obtain ⟨k, left, readBuffer, htasks, hrep, hsplit⟩ := addChunks_stream hrunning hhandler hcopy
    hcapacity' chunks ⟨sessionId, .new capacity, false⟩ rfl (RingBuffer.Represents.new (by omega)) hspace
    (fun p hp => ⟨hfits p hp, hnonNull p hp⟩) hchunks (fun p _ => by
      rw [p.length_bytes, headerLength_eq, List.length_nil]
      omega)
  exact ⟨k, left, readBuffer, htasks, hsplit.le_length, hsplit.consumed, hsplit.rest,
    hsplit.incomplete, hrep.contents_eq hcapacity'⟩

/-- Payload objects that keep the payload bytes, and a copy of the header that stays. -/
def rawDecoder : SessionDataDecoder (List Byte) where
  createPayload _ bytes := some bytes
  readDestroyed := some

/-- One packet of 17 bytes in a buffer of 20, cut inside its header. -/
theorem framing_raw : ∃ k left readBuffer,
    rawDecoder.addChunks ⟨7, .new 20, false⟩
        [(Packet.bytes ⟨8, .raft, [1, 2, 3]⟩).take 10, (Packet.bytes ⟨8, .raft, [1, 2, 3]⟩).drop 10] =
      some (⟨7, readBuffer, false⟩,
        ([⟨8, .raft, [1, 2, 3]⟩].take k).map (Packet.delivered rawDecoder 7)) ∧
    k ≤ [(⟨8, .raft, [1, 2, 3]⟩ : Packet)].length ∧
    [(Packet.bytes ⟨8, .raft, [1, 2, 3]⟩).take 10,
        (Packet.bytes ⟨8, .raft, [1, 2, 3]⟩).drop 10].flatten =
      Packet.stream ([⟨8, .raft, [1, 2, 3]⟩].take k) ++ left ∧
    left <+: Packet.stream ([⟨8, .raft, [1, 2, 3]⟩].drop k) ∧
    (∀ p, [(⟨8, .raft, [1, 2, 3]⟩ : Packet)][k]? = some p → left.length < p.bytes.length) ∧
    readBuffer.contents = left :=
  framing rawDecoder rfl rfl (fun _ => rfl) 20 (by decide) (by decide) 7 [⟨8, .raft, [1, 2, 3]⟩] (by decide)
    (by decide) _ (by decide) (by decide)

end DistributedNetwork.Decoding
