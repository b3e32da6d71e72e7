import DistributedNetwork.Decoding.Framing

/-!
# Headers that go round the end of the block

Such a header is copied into a vector and read after the vector is destroyed.  Where the packets begin in
the block follows from their sizes and the lengths of the chunks alone, so it can be said in numbers when
that happens.

* `packetSizes` — the lengths that the headers of a stream announce, one after another;
* `HeadersWhole`, `afterLoop` — the headers that one run of the loop reads, and what it leaves;
* `ChunksWhole` — the same for all chunks of a session;
* `decodeLoop_withCopy` — a loop that returns reads what it would read from a copy that stays;
* `decodeLoop_whole` — it returns **exactly** when no header goes round the end.
-/

namespace DistributedNetwork.Decoding

open DistributedNetwork.Buffer DistributedNetwork.Library

/-! ### The sizes of packets -/

/-- The length of the packet in front, if there is a header. -/
def frontLength (q : List Byte) : ℕ :=
  PacketHeader.headerLength + (frontHeader q).m_payloadLength.toNat

section Front

variable {q rest : List Byte}

theorem headerLength_le_frontLength : PacketHeader.headerLength ≤ frontLength q :=
  Nat.le_add_right _ _

/-- More bytes do not change the header in front. -/
theorem frontHeader_append (h : PacketHeader.headerLength ≤ q.length) :
    frontHeader (q ++ rest) = frontHeader q := by
  rw [frontHeader, List.take_append_of_le_length h, frontHeader]

theorem frontLength_append (h : PacketHeader.headerLength ≤ q.length) :
    frontLength (q ++ rest) = frontLength q := by
  rw [frontLength, frontHeader_append h, frontLength]

end Front

/-- What the headers of these bytes say about the packets, as long as there is a header. -/
def packetSizes (q : List Byte) : List ℕ :=
  if PacketHeader.headerLength ≤ q.length then
    frontLength q :: packetSizes (q.drop (frontLength q))
  else []
termination_by q.length
decreasing_by
  have hheader : PacketHeader.headerLength ≤ frontLength q := headerLength_le_frontLength
  rw [headerLength_eq] at *
  rw [List.length_drop]
  omega

theorem packetSizes_cons {q : List Byte} (h : PacketHeader.headerLength ≤ q.length) :
    packetSizes q = frontLength q :: packetSizes (q.drop (frontLength q)) := by
  rw [packetSizes, if_pos h]

theorem packetSizes_nil {q : List Byte} (h : q.length < PacketHeader.headerLength) :
    packetSizes q = [] := by
  rw [packetSizes, if_neg (Nat.not_le.mpr h)]

/-- **The sizes of a stream of packets** are those of the packets. -/
theorem packetSizes_stream {Payload : Type} {decoder : SessionDataDecoder Payload} {m : ℕ}
    (hm : m < 2 ^ 31) {packets : List Packet} (hp : ∀ p ∈ packets, p.Decodable decoder m) :
    packetSizes (Packet.stream packets) = packets.map fun p => p.bytes.length := by
  induction packets with
  | nil => exact packetSizes_nil (by decide)
  | cons p ps ih =>
    have hpayload := (hp p List.mem_cons_self).payloadLength hm
    have hheader : PacketHeader.headerLength ≤ (Packet.stream (p :: ps)).length := by
      rw [Packet.stream_cons, List.length_append, p.length_bytes]
      omega
    have hfront : frontHeader (Packet.stream (p :: ps)) = p.header := by
      rw [frontHeader, Packet.stream_cons, Packet.bytes, List.append_assoc,
        List.take_left' (PacketHeader.length_encode _), PacketHeader.decode_encode]
    have hlength : frontLength (Packet.stream (p :: ps)) = p.bytes.length := by
      rw [frontLength, hfront, hpayload, p.length_bytes]
    rw [packetSizes_cons hheader, hlength, Packet.stream_cons, List.drop_left,
      ih fun p' hp' => hp p' (List.mem_cons_of_mem p hp'), List.map_cons]

/-! ### Where the headers lie -/

/-- Where the used part begins when `size` of `buffered` bytes that begin at `start` are dropped; an empty
buffer begins at `0`. -/
def startAfter (n start buffered size : ℕ) : ℕ :=
  if buffered = size then 0 else (start + size) % n

/-- The loop on `buffered` bytes that begin at `start` meets no header that goes round the end of the block
of `n` bytes; the packets have these sizes. -/
def HeadersWhole (n : ℕ) : List ℕ → ℕ → ℕ → Prop
  | [], _, _ => True
  | size :: sizes, start, buffered =>
    (PacketHeader.headerLength ≤ buffered → start + PacketHeader.headerLength ≤ n) ∧
      (size ≤ buffered → HeadersWhole n sizes (startAfter n start buffered size) (buffered - size))

/-- What the loop leaves: the sizes of the packets that are not consumed, where the first of them begins
and how many bytes there are. -/
def afterLoop (n : ℕ) : List ℕ → ℕ → ℕ → List ℕ × ℕ × ℕ
  | [], start, buffered => ([], start, buffered)
  | size :: sizes, start, buffered =>
    if size ≤ buffered then afterLoop n sizes (startAfter n start buffered size) (buffered - size)
    else (size :: sizes, start, buffered)

/-- The tasks of chunks of these lengths meet no header that goes round the end of the block, from what
the tasks before them left. -/
def ChunksWhole (n : ℕ) : List ℕ × ℕ × ℕ → List ℕ → Prop
  | _, [] => True
  | (sizes, start, left), chunk :: chunks =>
    HeadersWhole n sizes start (left + chunk) ∧ ChunksWhole n (afterLoop n sizes start (left + chunk)) chunks

instance decidableHeadersWhole (n : ℕ) :
    (sizes : List ℕ) → (start buffered : ℕ) → Decidable (HeadersWhole n sizes start buffered)
  | [], _, _ => inferInstanceAs (Decidable True)
  | size :: sizes, start, buffered =>
    have := decidableHeadersWhole n sizes (startAfter n start buffered size) (buffered - size)
    inferInstanceAs (Decidable (_ ∧ _))

instance decidableChunksWhole (n : ℕ) :
    (ahead : List ℕ × ℕ × ℕ) → (chunks : List ℕ) → Decidable (ChunksWhole n ahead chunks)
  | _, [] => inferInstanceAs (Decidable True)
  | (sizes, start, left), chunk :: chunks =>
    have := decidableChunksWhole n (afterLoop n sizes start (left + chunk)) chunks
    inferInstanceAs (Decidable (_ ∧ _))

/-! ### A copy that stays and one that is destroyed -/

section Copy

variable {Payload : Type} {decoder : SessionDataDecoder Payload} {n : ℕ} {rb : RingBuffer}
variable {q left : List Byte}

theorem decodePacketPayload_withCopy :
    decoder.withCopy.decodePacketPayload = decoder.decodePacketPayload := rfl

theorem decodePacketHeader_withCopy (hdestroyed : ∀ bytes, decoder.readDestroyed bytes = none)
    (hreturns : decoder.decodePacketHeader rb ≠ .aborted) :
    decoder.withCopy.decodePacketHeader rb = decoder.decodePacketHeader rb := by
  unfold SessionDataDecoder.decodePacketHeader at hreturns ⊢
  rcases hread : rb.getBufferForRead PacketHeader.headerLength with ⟨ret, _ | buffer⟩
  · rw [hread] at hreturns
    by_cases hret : ret = -1
    · simp only [if_pos hret]
    · simp only [if_neg hret, hdestroyed] at hreturns
      exact absurd rfl hreturns
  · rfl

theorem decodePacket_withCopy (hdestroyed : ∀ bytes, decoder.readDestroyed bytes = none)
    (hreturns : decoder.decodePacket rb ≠ .aborted) :
    decoder.withCopy.decodePacket rb = decoder.decodePacket rb := by
  have hheader : decoder.decodePacketHeader rb ≠ .aborted := by
    intro habort
    rw [SessionDataDecoder.decodePacket, habort] at hreturns
    exact hreturns rfl
  unfold SessionDataDecoder.decodePacket
  rw [decodePacketHeader_withCopy hdestroyed hheader, decodePacketPayload_withCopy]

/-- **A loop that returns** does what it would do with a copy that stays. -/
theorem decodeLoop_withCopy (hdestroyed : ∀ bytes, decoder.readDestroyed bytes = none) (sessionId fuel : ℕ)
    {result : RingBuffer × List (Delivered Payload)}
    (h : decoder.decodeLoop sessionId fuel rb = some result) :
    decoder.withCopy.decodeLoop sessionId fuel rb = some result := by
  induction fuel generalizing rb result with
  | zero => cases h
  | succ fuel ih =>
    rw [SessionDataDecoder.decodeLoop] at h ⊢
    by_cases hrunning : decoder.m_running
    · have hreturns : decoder.decodePacket rb ≠ .aborted := by
        intro habort
        rw [if_pos hrunning, habort] at h
        cases h
      rw [show decoder.withCopy.m_running = decoder.m_running from rfl,
        decodePacket_withCopy hdestroyed hreturns]
      rw [if_pos hrunning] at h ⊢
      cases hpacket : decoder.decodePacket rb with
      | missing =>
        rw [hpacket] at h
        exact h
      | aborted => exact absurd hpacket hreturns
      | found packet =>
        rw [hpacket] at h
        obtain ⟨later, hlater, rfl⟩ := Option.map_eq_some_iff.mp h
        show (decoder.withCopy.decodeLoop sessionId fuel _).map _ = _
        rw [ih hlater]
        rfl
    · rw [show decoder.withCopy.m_running = decoder.m_running from rfl]
      rw [if_neg hrunning] at h ⊢
      exact h

theorem writeAndDecode_withCopy (hdestroyed : ∀ bytes, decoder.readDestroyed bytes = none)
    {session : P2PSession} {buffer : List Byte} {result : P2PSession × List (Delivered Payload)}
    (h : decoder.writeAndDecode session buffer = some result) :
    decoder.withCopy.writeAndDecode session buffer = some result := by
  unfold SessionDataDecoder.writeAndDecode at h ⊢
  cases hwrite : writeDataToP2PSessionReadBuffer session.m_readBuffer buffer with
  | missing =>
    rw [hwrite] at h
    cases h
  | aborted =>
    rw [hwrite] at h
    cases h
  | found written =>
    rw [hwrite] at h
    by_cases hret : written.1 = -1
    · simp only [if_pos hret] at h ⊢
      exact h
    · simp only [if_neg hret] at h ⊢
      obtain ⟨looped, hlooped, rfl⟩ := Option.map_eq_some_iff.mp h
      rw [decodeLoop_withCopy hdestroyed _ _ hlooped]
      rfl

theorem addSessionData_withCopy (hdestroyed : ∀ bytes, decoder.readDestroyed bytes = none)
    {session : P2PSession} {buffer : List Byte} {result : P2PSession × List (Delivered Payload)}
    (h : decoder.addSessionData session buffer = some result) :
    decoder.withCopy.addSessionData session buffer = some result := by
  unfold SessionDataDecoder.addSessionData at h ⊢
  split at h
  · next hwaiting =>
    rw [if_pos hwaiting]
    exact h
  · next hwaiting =>
    rw [if_neg hwaiting]
    exact writeAndDecode_withCopy hdestroyed h

/-! ### The loop returns exactly when no header goes round the end -/

/-- Where the header lies in one piece the copy does not matter. -/
theorem decodePacket_whole (h : rb.Represents n q) (hn : n < 2 ^ 31)
    (hwhole : rb.m_startOffset + PacketHeader.headerLength ≤ n) :
    decoder.decodePacket rb = decoder.withCopy.decodePacket rb := by
  have hheader : decoder.decodePacketHeader rb = decoder.withCopy.decodePacketHeader rb := by
    rcases Nat.lt_or_ge q.length PacketHeader.headerLength with hshort | hlong
    · rw [decodePacketHeader_missing h hn hshort, decodePacketHeader_missing h hn hshort]
    · rw [decodePacketHeader_eq h hn (.inl hwhole) hlong, decodePacketHeader_eq h hn (.inl hwhole) hlong]
  unfold SessionDataDecoder.decodePacket
  rw [hheader, decodePacketPayload_withCopy]

theorem decodePacket_wrapped (h : rb.Represents n q) (hn : n < 2 ^ 31)
    (hdestroyed : ∀ bytes, decoder.readDestroyed bytes = none)
    (hlen : PacketHeader.headerLength ≤ q.length)
    (hwraps : ¬rb.m_startOffset + PacketHeader.headerLength ≤ n) :
    decoder.decodePacket rb = .aborted := by
  rw [SessionDataDecoder.decodePacket,
    decodePacketHeader_wrapped h hn hdestroyed hlen (Nat.not_le.mp hwraps)]

/-- A decoded packet is the one in front, and it is complete. -/
theorem decodePacket_front (h : rb.Represents n q) (hn : n < 2 ^ 31) (hcopy : decoder.KeepsCopy)
    {packet : PacketHeader × Option Payload} (hfound : decoder.decodePacket rb = .found packet) :
    PacketHeader.headerLength ≤ q.length ∧ packet.1 = frontHeader q ∧ frontLength q ≤ q.length := by
  rcases Nat.lt_or_ge q.length PacketHeader.headerLength with hshort | hheader
  · rw [SessionDataDecoder.decodePacket, decodePacketHeader_missing h hn hshort] at hfound
    cases hfound
  · rw [SessionDataDecoder.decodePacket, decodePacketHeader_eq h hn (.inr hcopy) hheader] at hfound
    by_cases hmagic : (frontHeader q).isMagicMatch
    · rw [if_pos hmagic] at hfound
      by_cases hempty : (frontHeader q).m_payloadLength = 0
      · simp only [if_pos hempty] at hfound
        cases hfound
        refine ⟨hheader, rfl, ?_⟩
        rw [frontLength, hempty]
        exact hheader
      · simp only [if_neg hempty] at hfound
        rcases Nat.lt_or_ge q.length (frontLength q) with hpart | hcomplete
        · rw [decodePacketPayload_missing h hn hheader hpart] at hfound
          cases hfound
        · refine ⟨hheader, ?_, hcomplete⟩
          rw [decodePacketPayload_eq h hn hcomplete] at hfound
          cases hpayload : decoder.createPayload (frontHeader q).m_packetType
              ((q.drop PacketHeader.headerLength).take (frontHeader q).m_payloadLength.toNat) with
          | none =>
            rw [hpayload] at hfound
            cases hfound
          | some payload =>
            rw [hpayload] at hfound
            cases hfound
            rfl
    · rw [if_neg hmagic] at hfound
      cases hfound

/-- **The loop with a destroyed copy**, by induction on its rounds: it returns exactly when no header goes
round the end, and then what it would return with a copy that stays.  `rest` is still to be received. -/
theorem decodeLoop_whole (hdestroyed : ∀ bytes, decoder.readDestroyed bytes = none)
    (hrunning : decoder.m_running) (hn : n < 2 ^ 31) (sessionId fuel : ℕ) (rest : List Byte)
    (h : rb.Represents n q) {result : RingBuffer × List (Delivered Payload)}
    (hloop : decoder.withCopy.decodeLoop sessionId fuel rb = some result)
    (hrep : result.1.Represents n left) (hleft : left.length < frontLength left) :
    (decoder.decodeLoop sessionId fuel rb =
      if HeadersWhole n (packetSizes (q ++ rest)) rb.m_startOffset q.length then some result else none) ∧
    afterLoop n (packetSizes (q ++ rest)) rb.m_startOffset q.length =
      (packetSizes (left ++ rest), result.1.m_startOffset, left.length) := by
  induction fuel generalizing rb q result with
  | zero => cases hloop
  | succ fuel ih =>
    rw [SessionDataDecoder.decodeLoop, if_pos (show decoder.withCopy.m_running from hrunning)] at hloop
    rw [SessionDataDecoder.decodeLoop, if_pos hrunning]
    cases hpacket : decoder.withCopy.decodePacket rb with
    | aborted =>
      rw [hpacket] at hloop
      cases hloop
    | missing =>
      rw [hpacket] at hloop
      cases hloop
      obtain rfl : q = left := (h.contents_eq hn).symm.trans (hrep.contents_eq hn)
      rcases Nat.lt_or_ge q.length PacketHeader.headerLength with hshort | hheader
      · have hmissing : decoder.decodePacket rb = .missing := by
          rw [SessionDataDecoder.decodePacket, decodePacketHeader_missing h hn hshort]
        rw [hmissing]
        rcases Nat.lt_or_ge (q ++ rest).length PacketHeader.headerLength with hall | hall
        · rw [packetSizes_nil hall]
          exact ⟨rfl, rfl⟩
        · have hlong : ¬frontLength (q ++ rest) ≤ q.length := by
            have hfront := headerLength_le_frontLength (q := q ++ rest)
            omega
          rw [packetSizes_cons hall, afterLoop, if_neg hlong,
            if_pos ⟨fun hheader => absurd hheader (Nat.not_le.mpr hshort), fun hle => absurd hle hlong⟩]
          exact ⟨rfl, rfl⟩
      · have hlong : ¬frontLength (q ++ rest) ≤ q.length := by
          rw [frontLength_append hheader]
          omega
        have hall : PacketHeader.headerLength ≤ (q ++ rest).length := by
          rw [List.length_append]
          omega
        rw [packetSizes_cons hall, afterLoop, if_neg hlong]
        refine ⟨?_, rfl⟩
        by_cases hwhole : rb.m_startOffset + PacketHeader.headerLength ≤ n
        · rw [decodePacket_whole h hn hwhole, hpacket,
            if_pos ⟨fun _ => hwhole, fun hle => absurd hle hlong⟩]
        · rw [decodePacket_wrapped h hn hdestroyed hheader hwhole,
            if_neg fun hheaders => hwhole (hheaders.1 hheader)]
    | found packet =>
      rw [hpacket] at hloop
      obtain ⟨later, hlater, rfl⟩ := Option.map_eq_some_iff.mp hloop
      obtain ⟨hheader, hfront, hcomplete⟩ :=
        decodePacket_front h hn decoder.keepsCopy_withCopy hpacket
      have hconsume : (SessionDataDecoder.consume rb packet.1).Represents n (q.drop (frontLength q)) := by
        rw [hfront]
        exact consume_spec h hn hcomplete
      have hstart : (SessionDataDecoder.consume rb packet.1).m_startOffset =
          startAfter n rb.m_startOffset q.length (frontLength q) := by
        rw [hfront]
        exact consume_startOffset h hn hcomplete
      have hsizes : packetSizes (q ++ rest) =
          frontLength q :: packetSizes (q.drop (frontLength q) ++ rest) := by
        rw [packetSizes_cons (by rw [List.length_append]; omega), frontLength_append hheader,
          List.drop_append_of_le_length hcomplete]
      obtain ⟨hlaterLoop, hafter⟩ := ih hconsume hlater hrep
      rw [hstart, List.length_drop] at hlaterLoop hafter
      rw [hsizes, afterLoop, if_pos hcomplete]
      refine ⟨?_, hafter⟩
      by_cases hwhole : rb.m_startOffset + PacketHeader.headerLength ≤ n
      · rw [decodePacket_whole h hn hwhole, hpacket]
        show (decoder.decodeLoop sessionId fuel _).map _ = _
        rw [hlaterLoop]
        by_cases hrest : HeadersWhole n (packetSizes (q.drop (frontLength q) ++ rest))
            (startAfter n rb.m_startOffset q.length (frontLength q)) (q.length - frontLength q)
        · rw [if_pos hrest, if_pos ⟨fun _ => hwhole, fun _ => hrest⟩]
          rfl
        · rw [if_neg hrest, if_neg fun hheaders => hrest (hheaders.2 hcomplete)]
          rfl
      · rw [decodePacket_wrapped h hn hdestroyed hheader hwhole,
          if_neg fun hheaders => hwhole (hheaders.1 hheader)]

/-- **One task**, from what the tasks before it left. -/
theorem addSessionData_whole (hdestroyed : ∀ bytes, decoder.readDestroyed bytes = none)
    (hrunning : decoder.m_running) (hn : n < 2 ^ 31) {session : P2PSession}
    (hwait : session.m_isWaitingDisconnect = false) (h : session.m_readBuffer.Represents n q)
    {chunk : List Byte} (hfit : q.length + chunk.length ≤ n - 2) (rest : List Byte)
    {result : P2PSession × List (Delivered Payload)}
    (htask : decoder.withCopy.addSessionData session chunk = some result)
    (hrep : result.1.m_readBuffer.Represents n left) (hleft : left.length < frontLength left) :
    (decoder.addSessionData session chunk =
      if HeadersWhole n (packetSizes (q ++ (chunk ++ rest))) session.m_readBuffer.m_startOffset
        (q.length + chunk.length) then some result else none) ∧
    afterLoop n (packetSizes (q ++ (chunk ++ rest))) session.m_readBuffer.m_startOffset
        (q.length + chunk.length) =
      (packetSizes (left ++ rest), result.1.m_readBuffer.m_startOffset, left.length) := by
  obtain ⟨rb₁, hwrite, hrep₁, hstart⟩ := write_spec h hn chunk hfit
  have htask' (d : SessionDataDecoder Payload) : d.addSessionData session chunk =
      (d.decodeLoop session.m_sessionId (rb₁.dataLength + 1) rb₁).map
        fun result => ({ session with m_readBuffer := result.1 }, result.2) := by
    simp only [SessionDataDecoder.addSessionData, SessionDataDecoder.writeAndDecode, hwait, hwrite]
    rfl
  rw [htask'] at htask
  obtain ⟨looped, hlooped, rfl⟩ := Option.map_eq_some_iff.mp htask
  obtain ⟨hloop, hafter⟩ := decodeLoop_whole hdestroyed hrunning hn session.m_sessionId _ rest hrep₁
    hlooped hrep hleft
  rw [List.append_assoc, List.length_append, hstart] at hloop hafter
  refine ⟨?_, hafter⟩
  rw [htask', hloop, apply_ite (Option.map _)]
  rfl

end Copy

end DistributedNetwork.Decoding
