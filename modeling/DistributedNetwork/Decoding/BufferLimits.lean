import Mathlib.Algebra.GroupWithZero.Nat
import DistributedNetwork.Decoding.PacketFormat
import DistributedNetwork.Decoding.WrappedHeader
import DistributedNetwork.Sending.SlaveReactor

/-!
# The four limits of a received stream

A sender accepts packets of up to `c_p2pSessionWriteBufferSize` bytes, a reactor receives up to
`c_defaultSocketRecvBufferSize` bytes at once, and the read buffer they end in has
`c_p2pSessionReadBufferSize` bytes of which it keeps two free.

* `NoneDropped` — the read buffer takes every chunk;
* `residue` — how much of an incomplete packet is in the buffer, from the sizes of the packets alone;
* `noneDropped_iff` — no chunk is dropped, and everything complete is delivered, **exactly** when each
  chunk fits behind the residue it finds and no header goes round the end of the buffer.
-/

namespace DistributedNetwork.Decoding

open DistributedNetwork.Buffer DistributedNetwork.Library
open DistributedNetwork.Sending (c_p2pSessionWriteBufferSize)

def c_defaultSocketRecvBufferSize : ℕ := 32 * 1024

/-- The tasks of the chunks, in order, all find room in the read buffer. -/
def NoneDropped {Payload : Type} (decoder : SessionDataDecoder Payload) :
    P2PSession → List (List Byte) → Prop
  | _, [] => True
  | session, chunk :: chunks =>
    (∃ readBuffer, writeDataToP2PSessionReadBuffer session.m_readBuffer chunk = .found (0, readBuffer)) ∧
      ∃ result, decoder.addSessionData session chunk = some result ∧ NoneDropped decoder result.1 chunks

/-- After all tasks the complete packets have been delivered, and the rest is in the read buffer. -/
def DeliversComplete {Payload : Type} (decoder : SessionDataDecoder Payload) (n sessionId : ℕ)
    (packets : List Packet) (chunks : List (List Byte)) : Prop :=
  ∃ k readBuffer, decoder.addChunks ⟨sessionId, .new n, false⟩ chunks =
      some (⟨sessionId, readBuffer, false⟩, (packets.take k).map (Packet.delivered decoder sessionId)) ∧
    Splits packets chunks.flatten k readBuffer.contents

/-- The bytes of an incomplete packet among the first `received` bytes of packets of these sizes. -/
def residue : List ℕ → ℕ → ℕ
  | [], received => received
  | size :: sizes, received => if received < size then received else residue sizes (received - size)

/-- Each chunk fits in a buffer of `n` bytes behind the residue it finds. -/
def ResiduesFit (n : ℕ) (sizes : List ℕ) : ℕ → List ℕ → Prop
  | _, [] => True
  | received, chunk :: chunks =>
    residue sizes received + chunk ≤ n - c_reservedSpace ∧ ResiduesFit n sizes (received + chunk) chunks

/-! ### Residues -/

section Residue

variable {packets : List Packet} {q left : List Byte} {k : ℕ}

theorem residue_take {sizes : List ℕ} {k r : ℕ} (hk : k ≤ sizes.length)
    (hr : ∀ size, sizes[k]? = some size → r < size) : residue sizes ((sizes.take k).sum + r) = r := by
  induction sizes generalizing k with
  | nil =>
    rw [List.take_nil, List.sum_nil, Nat.zero_add]
    rfl
  | cons size sizes ih =>
    cases k with
    | zero =>
      rw [List.take_zero, List.sum_nil, Nat.zero_add, residue, if_pos (hr size rfl)]
    | succ k =>
      have hrest : size + (sizes.take k).sum + r - size = (sizes.take k).sum + r := by omega
      rw [List.take_succ_cons, List.sum_cons, residue, if_neg (by omega), hrest]
      exact ih (Nat.le_of_succ_le_succ hk) hr

theorem length_stream (packets : List Packet) :
    (Packet.stream packets).length = (packets.map fun p => p.bytes.length).sum :=
  List.length_flatMap

/-- **What a split leaves is the residue.** -/
theorem Splits.residue_eq (h : Splits packets q k left) :
    residue (packets.map fun p => p.bytes.length) q.length = left.length := by
  rw [h.consumed, List.length_append, length_stream, List.map_take]
  refine residue_take ?_ fun size hsize => ?_
  · rw [List.length_map]
    exact h.le_length
  · rw [List.getElem?_map, Option.map_eq_some_iff] at hsize
    obtain ⟨p, hp, rfl⟩ := hsize
    exact h.incomplete p hp

end Residue

/-! ### All tasks -/

section Tasks

variable {Payload : Type} {decoder : SessionDataDecoder Payload} {n m : ℕ} {packets : List Packet}
variable {q left : List Byte} {k : ℕ}

/-- Behind a residue that leaves too little room the chunk is dropped. -/
theorem not_fits_of_rejected {rb : RingBuffer} (h : rb.Represents n left) (hn : n < 2 ^ 31)
    {chunk : List Byte} (hlong : n - c_reservedSpace < left.length + chunk.length) :
    ¬∃ readBuffer, writeDataToP2PSessionReadBuffer rb chunk = .found (0, readBuffer) := by
  have hfits := h.fits
  rw [c_reservedSpace] at hfits hlong
  rintro ⟨readBuffer, hwrite⟩
  rw [writeDataToP2PSessionReadBuffer, h.writeData_reject hn (by omega)] at hwrite
  cases hwrite

/-- **Step lemma.**  A chunk that fits is decoded, and what was delivered and left goes on. -/
theorem task_of_fit (hrunning : decoder.m_running) (hhandler : decoder.m_hasPacketHandler)
    (hcopy : decoder.KeepsCopy) (hn : n < 2 ^ 31) (hm : m < 2 ^ 31) {session : P2PSession}
    (hwait : session.m_isWaitingDisconnect = false) (h : session.m_readBuffer.Represents n left)
    (hp : ∀ p ∈ packets, p.Decodable decoder m) (hsplit : Splits packets q k left) {chunk : List Byte}
    (hq : q ++ chunk <+: Packet.stream packets)
    (hfit : left.length + chunk.length ≤ n - c_reservedSpace) :
    (∃ readBuffer, writeDataToP2PSessionReadBuffer session.m_readBuffer chunk = .found (0, readBuffer)) ∧
      ∃ k' left' rb', decoder.addSessionData session chunk =
          some ({ session with m_readBuffer := rb' },
            ((packets.drop k).take k').map (Packet.delivered decoder session.m_sessionId)) ∧
        rb'.Represents n left' ∧ Splits packets (q ++ chunk) (k + k') left' := by
  obtain ⟨rb₁, hwrite, -, -⟩ := write_spec h hn chunk hfit
  have hspace : chunk.length ≤ session.m_readBuffer.space := by
    rw [h.space_eq hn]
    rw [c_reservedSpace] at hfit
    omega
  have hrest : left ++ chunk <+: Packet.stream (packets.drop k) := by
    have hstream : Packet.stream packets =
        Packet.stream (packets.take k) ++ Packet.stream (packets.drop k) := by
      rw [Packet.stream, Packet.stream, Packet.stream, ← List.flatMap_append, List.take_append_drop]
    rw [hsplit.consumed, List.append_assoc, hstream] at hq
    exact (List.prefix_append_right_inj _).mp hq
  obtain ⟨k', left', rb', htask, hrep, hsplit'⟩ := addSessionData_stream hrunning hhandler hcopy
    hn hm hwait h hspace (fun p hp' => hp p (List.mem_of_mem_drop hp')) hrest
  exact ⟨⟨rb₁, hwrite⟩, k', left', rb', htask, hrep, hsplit.append hsplit'⟩

/-- What a split leaves is less than the packet it belongs to. -/
theorem Splits.lt_frontLength (h : Splits packets q k left) (hm : m < 2 ^ 31)
    (hp : ∀ p ∈ packets, p.Decodable decoder m) : left.length < frontLength left := by
  have hfront : PacketHeader.headerLength ≤ frontLength left := headerLength_le_frontLength
  cases hdrop : packets.drop k with
  | nil =>
    have hempty := h.rest
    rw [hdrop] at hempty
    obtain rfl : left = [] := List.prefix_nil.mp hempty
    rw [headerLength_eq] at hfront
    exact Nat.lt_of_lt_of_le (by decide) hfront
  | cons p ps =>
    have hget : packets[k]? = some p := by
      rw [← Nat.add_zero k, ← List.getElem?_drop, hdrop]
      rfl
    have hpart := h.incomplete p hget
    have hrest := h.rest
    rw [hdrop, Packet.stream_cons] at hrest
    rcases Nat.lt_or_ge left.length PacketHeader.headerLength with hshort | hheader
    · omega
    · have hpayload := (hp p (List.mem_of_getElem? hget)).payloadLength hm
      rw [frontLength, frontHeader, take_header hrest hheader, PacketHeader.decode_encode, hpayload,
        ← p.length_bytes]
      exact hpart

/-- Behind a split the stream goes on with what is left. -/
theorem Splits.drop_eq (h : Splits packets q k left) {rest : List Byte}
    (hq : q ++ rest = Packet.stream packets) : left ++ rest = Packet.stream (packets.drop k) := by
  have hstream : Packet.stream packets =
      Packet.stream (packets.take k) ++ Packet.stream (packets.drop k) := by
    rw [Packet.stream, Packet.stream, Packet.stream, ← List.flatMap_append, List.take_append_drop]
  rw [h.consumed, List.append_assoc, hstream] at hq
  exact List.append_cancel_left hq

/-- **Run lemma**, by induction on the chunks. -/
theorem noneDropped_stream (hdestroyed : ∀ bytes, decoder.readDestroyed bytes = none)
    (hrunning : decoder.m_running) (hhandler : decoder.m_hasPacketHandler)
    (hn : n < 2 ^ 31) (hm : m < 2 ^ 31) (hp : ∀ p ∈ packets, p.Decodable decoder m)
    (chunks : List (List Byte)) (session : P2PSession) {q left : List Byte} {k : ℕ}
    (hwait : session.m_isWaitingDisconnect = false) (h : session.m_readBuffer.Represents n left)
    (hsplit : Splits packets q k left) (hq : q ++ chunks.flatten <+: Packet.stream packets) :
    (NoneDropped decoder session chunks ↔
      ResiduesFit n (packets.map fun p => p.bytes.length) q.length (chunks.map List.length) ∧
      ChunksWhole n ((packets.drop k).map fun p => p.bytes.length, session.m_readBuffer.m_startOffset,
        left.length) (chunks.map List.length)) ∧
    (NoneDropped decoder session chunks → ∃ k' left' rb', decoder.addChunks session chunks =
        some ({ session with m_readBuffer := rb' },
          ((packets.drop k).take k').map (Packet.delivered decoder session.m_sessionId)) ∧
      rb'.Represents n left' ∧ Splits packets (q ++ chunks.flatten) (k + k') left') := by
  have hrunning' : decoder.withCopy.m_running := hrunning
  induction chunks generalizing session q left k with
  | nil =>
    refine ⟨iff_of_true trivial ⟨trivial, trivial⟩, fun _ => ⟨0, left, session.m_readBuffer, ?_, h, ?_⟩⟩
    · rw [List.take_zero]
      rfl
    · rw [List.flatten_nil, List.append_nil]
      exact hsplit
  | cons chunk chunks ih =>
    rw [List.flatten_cons, ← List.append_assoc] at hq
    rw [NoneDropped, List.map_cons, ResiduesFit, hsplit.residue_eq, ChunksWhole]
    by_cases hfit : left.length + chunk.length ≤ n - c_reservedSpace
    · obtain ⟨⟨rb₁, hwrite⟩, k', left', rb', htask, hrep, hsplit'⟩ :=
        task_of_fit hrunning' hhandler decoder.keepsCopy_withCopy hn hm hwait h
          (fun p hp' => ⟨(hp p hp').fits, (hp p hp').nonNull⟩) hsplit ((List.prefix_append _ _).trans hq) hfit
      -- the rest of the stream behind this chunk
      obtain ⟨rest, hrest⟩ := (List.prefix_append (q ++ chunk) chunks.flatten).trans hq
      have hsizes : packetSizes (left ++ (chunk ++ rest)) =
          (packets.drop k).map fun p => p.bytes.length := by
        rw [hsplit.drop_eq ((List.append_assoc q chunk rest).symm.trans hrest),
          packetSizes_stream hm fun p hp' => hp p (List.mem_of_mem_drop hp')]
      have hsizes' : packetSizes (left' ++ rest) =
          (packets.drop (k + k')).map fun p => p.bytes.length := by
        rw [hsplit'.drop_eq hrest, packetSizes_stream hm fun p hp' => hp p (List.mem_of_mem_drop hp')]
      obtain ⟨htask', hafter⟩ := addSessionData_whole hdestroyed hrunning hn hwait h hfit rest htask hrep
        (hsplit'.lt_frontLength hm hp)
      rw [hsizes] at htask' hafter
      rw [hafter, hsizes']
      by_cases hwhole : HeadersWhole n ((packets.drop k).map fun p => p.bytes.length)
          session.m_readBuffer.m_startOffset (left.length + chunk.length)
      · rw [if_pos hwhole] at htask'
        obtain ⟨hiff, hdelivers⟩ := ih { session with m_readBuffer := rb' } hwait hrep hsplit' hq
        rw [List.length_append] at hiff
        have hlater : (∃ result, decoder.addSessionData session chunk = some result ∧
            NoneDropped decoder result.1 chunks) ↔
            NoneDropped decoder { session with m_readBuffer := rb' } chunks := by
          rw [htask']
          constructor
          · rintro ⟨result, hresult, hrest⟩
            cases hresult
            exact hrest
          · exact fun hrest => ⟨_, rfl, hrest⟩
        rw [hlater, hiff]
        constructor
        · constructor
          · intro hall
            exact ⟨⟨hfit, hall.2.1⟩, hwhole, hall.2.2⟩
          · intro hall
            exact ⟨⟨rb₁, hwrite⟩, hall.1.2, hall.2.2⟩
        · intro hall
          obtain ⟨k'', left'', rb'', htasks, hrep', hsplit''⟩ := hdelivers (hiff.mpr hall.2)
          refine ⟨k' + k'', left'', rb'', ?_, hrep', ?_⟩
          · simp only [SessionDataDecoder.addChunks, htask', Option.bind_some, htasks, Option.map_some]
            rw [List.take_add, List.map_append, List.drop_drop]
            rfl
          · rw [List.flatten_cons, ← List.append_assoc, ← Nat.add_assoc]
            exact hsplit''
      · -- a header goes round the end, and the task has no outcome
        rw [if_neg hwhole] at htask'
        have hlost : ¬∃ result, decoder.addSessionData session chunk = some result ∧
            NoneDropped decoder result.1 chunks := by
          rintro ⟨result, hresult, -⟩
          rw [htask'] at hresult
          cases hresult
        exact ⟨iff_of_false (fun hall => hlost hall.2) (fun hall => hwhole hall.2.1),
          fun hall => absurd hall.2 hlost⟩
    · have hdropped := not_fits_of_rejected h hn (Nat.not_le.mp hfit)
      exact ⟨iff_of_false (fun hall => hdropped hall.1) (fun hall => hfit hall.1.1),
        fun hall => absurd hall.1 hdropped⟩

end Tasks

theorem Splits.nil (packets : List Packet) : Splits packets [] 0 [] :=
  ⟨Nat.zero_le _, rfl, List.nil_prefix, fun p _ => by
    rw [p.length_bytes, headerLength_eq, List.length_nil]
    omega⟩

/-- **No received data is dropped**, and every complete packet is delivered, **if and only if** each chunk
fits behind the residue it finds and no header that is read goes round the end of the buffer. -/
theorem noneDropped_iff (pb : Protobuf) (sessionId : ℕ) (packets : List Packet)
    (haccepted : ∀ p ∈ packets, p.bytes.length ≤ c_p2pSessionWriteBufferSize)
    (hsupported : ∀ p ∈ packets, p.payload ≠ [] →
      (PayloadFactory.createPayload pb p.type p.payload).isSome)
    (chunks : List (List Byte)) (hstream : chunks.flatten <+: Packet.stream packets) :
    NoneDropped (sessionDataDecoder pb) ⟨sessionId, .new c_p2pSessionReadBufferSize, false⟩ chunks ∧
      DeliversComplete (sessionDataDecoder pb) c_p2pSessionReadBufferSize sessionId packets chunks ↔
    ResiduesFit c_p2pSessionReadBufferSize (packets.map fun p => p.bytes.length) 0
        (chunks.map List.length) ∧
      ChunksWhole c_p2pSessionReadBufferSize (packets.map fun p => p.bytes.length, 0, 0)
        (chunks.map List.length) := by
  have hread : c_p2pSessionReadBufferSize < 2 ^ 31 := by decide
  have hp : ∀ p ∈ packets,
      p.Decodable (sessionDataDecoder pb) (c_p2pSessionWriteBufferSize + c_reservedSpace) :=
    fun p hp => ⟨p.length_bytes ▸ haccepted p hp, hsupported p hp⟩
  obtain ⟨hiff, hdelivers⟩ := noneDropped_stream (m := c_p2pSessionWriteBufferSize + c_reservedSpace)
    (fun _ => rfl) rfl rfl hread (by decide) hp chunks
    ⟨sessionId, .new c_p2pSessionReadBufferSize, false⟩ rfl (.new (by decide)) (.nil packets) hstream
  constructor
  · exact fun hall => hiff.mp hall.1
  · intro hcond
    refine ⟨hiff.mpr hcond, ?_⟩
    obtain ⟨k, left, rb, htasks, hrep, hsplit⟩ := hdelivers (hiff.mpr hcond)
    rw [Nat.zero_add] at hsplit
    exact ⟨k, rb, htasks, (hrep.contents_eq hread).symm ▸ hsplit⟩

/-- A module message in two chunks. -/
theorem noneDropped_small :
    NoneDropped (sessionDataDecoder sampleProtobuf) ⟨0, .new c_p2pSessionReadBufferSize, false⟩
        [(Packet.bytes ⟨8, .raft, [1, 2, 3]⟩).take 10, (Packet.bytes ⟨8, .raft, [1, 2, 3]⟩).drop 10] ∧
      DeliversComplete (sessionDataDecoder sampleProtobuf) c_p2pSessionReadBufferSize 0
        [⟨8, .raft, [1, 2, 3]⟩]
        [(Packet.bytes ⟨8, .raft, [1, 2, 3]⟩).take 10, (Packet.bytes ⟨8, .raft, [1, 2, 3]⟩).drop 10] :=
  (noneDropped_iff sampleProtobuf 0 [⟨8, .raft, [1, 2, 3]⟩] (by decide) (by decide) _ (by decide)).mpr
    ⟨⟨by decide, by decide, trivial⟩, by decide⟩

/-- A module message whose packet has `length` bytes. -/
def moduleMessageOf (length : ℕ) : Packet :=
  ⟨PacketType.PT_ModuleMessage.code, .raft, List.replicate (length - PacketHeader.headerLength) 0⟩

theorem length_moduleMessageOf {length : ℕ} (h : PacketHeader.headerLength ≤ length) :
    (moduleMessageOf length).bytes.length = length := by
  rw [Packet.length_bytes, moduleMessageOf, List.length_replicate]
  omega

/-- A new session has no room for more than the buffer holds. -/
theorem not_noneDropped_of_lt {chunk : List Byte}
    (h : c_p2pSessionReadBufferSize - c_reservedSpace < chunk.length) :
    ¬NoneDropped (sessionDataDecoder sampleProtobuf) ⟨0, .new c_p2pSessionReadBufferSize, false⟩
      [chunk] := by
  have hnew : (RingBuffer.new c_p2pSessionReadBufferSize).Represents c_p2pSessionReadBufferSize [] :=
    .new (by decide)
  intro hall
  refine not_fits_of_rejected hnew (by decide) ?_ hall.1
  rw [List.length_nil, Nat.zero_add]
  exact h

theorem decodable_moduleMessageOf {length : ℕ} (h : PacketHeader.headerLength ≤ length)
    (hlength : length ≤ c_p2pSessionWriteBufferSize) : (moduleMessageOf length).Decodable
      (sessionDataDecoder sampleProtobuf) (c_p2pSessionWriteBufferSize + c_reservedSpace) where
  fits := by
    rw [← Packet.length_bytes, length_moduleMessageOf h]
    exact hlength
  nonNull := fun _ => rfl

/-- Two packets; the header of the second one goes round the end of the read buffer when a byte of it is
received with the first one. -/
def wrapping : List Packet :=
  [moduleMessageOf 16375, moduleMessageOf 17]

def wrappingChunks : List (List Byte) :=
  [(Packet.stream wrapping).take 16000, ((Packet.stream wrapping).drop 16000).take 376,
    (Packet.stream wrapping).drop 16376]

theorem wrapping_sizes : (wrapping.map fun p => p.bytes.length) = [16375, 17] := by
  rw [wrapping, List.map_cons, List.map_singleton, length_moduleMessageOf (by decide),
    length_moduleMessageOf (by decide)]

theorem wrappingChunks_flatten : wrappingChunks.flatten = Packet.stream wrapping := by
  rw [wrappingChunks, List.flatten_cons, List.flatten_cons, List.flatten_singleton,
    ← List.drop_drop (i := 376) (j := 16000), List.take_append_drop, List.take_append_drop]

theorem wrappingChunks_lengths : wrappingChunks.map List.length = [16000, 376, 16] := by
  have hstream : (Packet.stream wrapping).length = 16392 := by
    rw [length_stream, wrapping_sizes]
    rfl
  rw [wrappingChunks, List.map_cons, List.map_cons, List.map_singleton, List.length_take, List.length_take,
    List.length_drop, List.length_drop, hstream]
  rfl

/-- **Data is dropped**: an accepted packet of 16384 bytes that arrives whole, and two packets of 9000
bytes that are received at once.  A third stream fits in the buffer, but a header goes round its end. -/
theorem noneDropped_fails :
    ((moduleMessageOf 16384).bytes.length ≤ c_p2pSessionWriteBufferSize ∧
      ¬NoneDropped (sessionDataDecoder sampleProtobuf) ⟨0, .new c_p2pSessionReadBufferSize, false⟩
        [Packet.stream [moduleMessageOf 16384]]) ∧
    ((moduleMessageOf 9000).bytes.length ≤ c_p2pSessionWriteBufferSize ∧
      (Packet.stream [moduleMessageOf 9000, moduleMessageOf 9000]).length ≤
        c_defaultSocketRecvBufferSize ∧
      ¬NoneDropped (sessionDataDecoder sampleProtobuf) ⟨0, .new c_p2pSessionReadBufferSize, false⟩
        [Packet.stream [moduleMessageOf 9000, moduleMessageOf 9000]]) ∧
    (wrappingChunks.flatten = Packet.stream wrapping ∧
      (∀ p ∈ wrapping, p.bytes.length ≤ c_p2pSessionWriteBufferSize) ∧
      ¬NoneDropped (sessionDataDecoder sampleProtobuf) ⟨0, .new c_p2pSessionReadBufferSize, false⟩
        wrappingChunks) := by
  have hone : (moduleMessageOf 16384).bytes.length = 16384 := length_moduleMessageOf (by decide)
  have htwo : (moduleMessageOf 9000).bytes.length = 9000 := length_moduleMessageOf (by decide)
  have hstream : (Packet.stream [moduleMessageOf 16384]).length = 16384 := by
    rw [length_stream, List.map_singleton, hone, List.sum_singleton]
  have hstream' : (Packet.stream [moduleMessageOf 9000, moduleMessageOf 9000]).length = 18000 := by
    rw [length_stream, List.map_cons, List.map_singleton, htwo]
    rfl
  refine ⟨⟨Nat.le_of_eq hone, not_noneDropped_of_lt ?_⟩, ⟨Nat.le_trans (Nat.le_of_eq htwo) (by decide),
    Nat.le_trans (Nat.le_of_eq hstream') (by decide), not_noneDropped_of_lt ?_⟩, wrappingChunks_flatten,
    ?_, ?_⟩
  · rw [hstream]
    decide
  · rw [hstream']
    decide
  · intro p hp
    have hmem : p.bytes.length ∈ wrapping.map fun p => p.bytes.length := List.mem_map_of_mem hp
    rw [wrapping_sizes] at hmem
    exact (show ∀ size ∈ [16375, 17], size ≤ c_p2pSessionWriteBufferSize by decide) _ hmem
  · have hp : ∀ p ∈ wrapping, p.Decodable (sessionDataDecoder sampleProtobuf)
        (c_p2pSessionWriteBufferSize + c_reservedSpace) :=
      List.forall_mem_cons.mpr ⟨decodable_moduleMessageOf (by decide) (by decide),
        List.forall_mem_singleton.mpr (decodable_moduleMessageOf (by decide) (by decide))⟩
    obtain ⟨hiff, -⟩ := noneDropped_stream (fun _ => rfl) rfl rfl
      (show c_p2pSessionReadBufferSize < 2 ^ 31 by decide) (by decide) hp wrappingChunks
      ⟨0, .new c_p2pSessionReadBufferSize, false⟩ rfl (.new (by decide)) (.nil wrapping)
      (wrappingChunks_flatten ▸ List.prefix_rfl)
    rw [hiff, List.drop_zero, wrapping_sizes, wrappingChunks_lengths]
    exact fun hall => absurd hall.2 (by decide)

end DistributedNetwork.Decoding
