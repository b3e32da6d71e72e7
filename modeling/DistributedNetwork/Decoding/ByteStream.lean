import DistributedNetwork.Decoding.PacketFormat
import DistributedNetwork.Decoding.WrappedHeader

/-!
# Arbitrary bytes from the wire

A peer may send anything.  What the loop does with the bytes in the buffer is said by what is in front of
them:

* `GoodFront` — a complete packet that is decoded and consumed;
* `Consumes` — what is left after some of those;
* `Completable` — too little for a packet, and the rest of it will still fit;
* `Digestible` — the streams that consist of good packets and a completable rest.

`decodeLoop_bytes` describes one task and `neverStuck_iff` all of them: the front packet can be completed
at every stop **exactly** for the digestible streams whose headers do not go round the end of the buffer.
A wrong magic number fails an assertion, and so does a header that is read from a destroyed copy; a packet
of an unknown type or of too great a length stays in front for ever.
-/

namespace DistributedNetwork.Decoding

open DistributedNetwork.Buffer DistributedNetwork.Library

/-! ### What is in front of the bytes -/

def frontPayload (q : List Byte) : List Byte :=
  (q.drop PacketHeader.headerLength).take (frontHeader q).m_payloadLength.toNat

/-- The packet in front has no payload, or its payload object can be made. -/
def FrontMade {Payload : Type} (decoder : SessionDataDecoder Payload) (q : List Byte) : Prop :=
  (frontHeader q).m_payloadLength ≠ 0 →
    (decoder.createPayload (frontHeader q).m_packetType (frontPayload q)).isSome

/-- A complete packet is in front, and the loop consumes it. -/
structure GoodFront {Payload : Type} (decoder : SessionDataDecoder Payload) (q : List Byte) : Prop where
  header : PacketHeader.headerLength ≤ q.length
  magic : (frontHeader q).isMagicMatch = true
  complete : frontLength q ≤ q.length
  made : FrontMade decoder q

/-- Good packets in front of `left` make up the rest of the bytes. -/
inductive Consumes {Payload : Type} (decoder : SessionDataDecoder Payload) :
    List Byte → List Byte → Prop
  | done (q : List Byte) : Consumes decoder q q
  | packet {q left : List Byte} :
      GoodFront decoder q → Consumes decoder (q.drop (frontLength q)) left → Consumes decoder q left

/-- Later bytes can complete the packet in front: its header is not there yet, or it fits in a buffer of
`n` bytes and is not all there. -/
def Completable (n : ℕ) (q : List Byte) : Prop :=
  q.length < PacketHeader.headerLength ∨ frontLength q ≤ n - 2 ∧ q.length < frontLength q

instance (n : ℕ) (q : List Byte) : Decidable (Completable n q) :=
  inferInstanceAs (Decidable (_ ∨ _))

/-- A header in front has the magic number. -/
def MagicIfHeader (q : List Byte) : Prop :=
  PacketHeader.headerLength ≤ q.length → (frontHeader q).isMagicMatch = true

/-- Good packets that fit in a buffer of `n` bytes, and a rest that can be completed. -/
inductive Digestible {Payload : Type} (decoder : SessionDataDecoder Payload) (n : ℕ) :
    List Byte → Prop
  | rest {q : List Byte} : Completable n q → MagicIfHeader q → Digestible decoder n q
  | packet {q : List Byte} : GoodFront decoder q → frontLength q ≤ n - 2 →
      Digestible decoder n (q.drop (frontLength q)) → Digestible decoder n q

section Front

variable {Payload : Type} {decoder : SessionDataDecoder Payload} {n : ℕ} {q left rest : List Byte}

theorem frontPayload_append (h : PacketHeader.headerLength ≤ q.length)
    (hcomplete : frontLength q ≤ q.length) : frontPayload (q ++ rest) = frontPayload q := by
  rw [frontPayload, frontHeader_append h, List.drop_append_of_le_length h,
    List.take_append_of_le_length (by rw [List.length_drop]; rw [frontLength] at hcomplete; omega),
    frontPayload]

theorem frontMade_append (h : PacketHeader.headerLength ≤ q.length)
    (hcomplete : frontLength q ≤ q.length) :
    FrontMade decoder (q ++ rest) ↔ FrontMade decoder q := by
  rw [FrontMade, frontHeader_append h, frontPayload_append h hcomplete, FrontMade]

theorem GoodFront.append (h : GoodFront decoder q) (rest : List Byte) :
    GoodFront decoder (q ++ rest) where
  header := by
    have := h.header
    rw [List.length_append]
    omega
  magic := by
    rw [frontHeader_append h.header]
    exact h.magic
  complete := by
    have := h.complete
    rw [frontLength_append h.header, List.length_append]
    omega
  made := (frontMade_append h.header h.complete).mpr h.made

/-- The copy of a header has no part in what is in front. -/
theorem GoodFront.withCopy (h : GoodFront decoder q) : GoodFront decoder.withCopy q :=
  ⟨h.header, h.magic, h.complete, h.made⟩

theorem Consumes.of_withCopy (h : Consumes decoder.withCopy q left) : Consumes decoder q left := by
  induction h with
  | done q => exact .done q
  | packet hgood _ ih => exact .packet ⟨hgood.header, hgood.magic, hgood.complete, hgood.made⟩ ih

/-- A complete packet is no rest. -/
theorem GoodFront.not_completable (h : GoodFront decoder q) : ¬Completable n q := by
  have hheader := h.header
  have hcomplete := h.complete
  rintro (hshort | ⟨-, hpart⟩) <;> omega

theorem Digestible.of_goodFront (h : Digestible decoder n q) (hgood : GoodFront decoder q) :
    Digestible decoder n (q.drop (frontLength q)) := by
  cases h with
  | rest hrest _ => exact absurd hrest hgood.not_completable
  | packet _ _ htail => exact htail

/-- **Consumed packets do not matter** for what comes behind them. -/
theorem Consumes.digestible_iff (h : Consumes decoder q left) (hfits : q.length ≤ n - 2)
    (rest : List Byte) : Digestible decoder n (q ++ rest) ↔ Digestible decoder n (left ++ rest) := by
  induction h with
  | done q => exact Iff.rfl
  | @packet q left hgood _ ih =>
    have hcomplete := hgood.complete
    have htail : (q ++ rest).drop (frontLength (q ++ rest)) = q.drop (frontLength q) ++ rest := by
      rw [frontLength_append hgood.header, List.drop_append_of_le_length hcomplete]
    rw [← ih (by rw [List.length_drop]; omega), ← htail]
    constructor
    · exact fun hall => hall.of_goodFront (hgood.append rest)
    · refine fun hrest => .packet (hgood.append rest) ?_ hrest
      rw [frontLength_append hgood.header]
      omega

/-- What the loop leaves of a digestible stream can be completed. -/
theorem Digestible.completable (h : Digestible decoder n (left ++ rest))
    (hleft : ¬GoodFront decoder left) : Completable n left ∧ MagicIfHeader left := by
  rcases Nat.lt_or_ge left.length PacketHeader.headerLength with hshort | hheader
  · exact ⟨.inl hshort, fun hlong => absurd hlong (Nat.not_le.mpr hshort)⟩
  · have happend : left.length ≤ (left ++ rest).length := by
      rw [List.length_append]
      omega
    have hlength : frontLength (left ++ rest) = frontLength left := frontLength_append hheader
    have hmagic : frontHeader (left ++ rest) = frontHeader left := frontHeader_append hheader
    cases h with
    | rest hrest hmagic' =>
      refine ⟨.inr ?_, fun _ => hmagic ▸ hmagic' (by omega)⟩
      rcases hrest with hshort | hpart <;> omega
    | packet hgood hfits _ =>
      refine ⟨.inr ⟨hlength ▸ hfits, ?_⟩, fun _ => hmagic ▸ hgood.magic⟩
      -- a complete packet would have been consumed
      by_contra hcomplete
      refine hleft ⟨hheader, hmagic ▸ hgood.magic, Nat.not_lt.mp hcomplete, ?_⟩
      exact (frontMade_append hheader (Nat.not_lt.mp hcomplete)).mp hgood.made

end Front

/-! ### One round of the loop -/

section Round

variable {Payload : Type} {decoder : SessionDataDecoder Payload} {n : ℕ} {rb : RingBuffer}
variable {q : List Byte}

theorem decodePacket_aborted (h : rb.Represents n q) (hn : n < 2 ^ 31) (hcopy : decoder.KeepsCopy)
    (hmagic : ¬MagicIfHeader q) : decoder.decodePacket rb = .aborted := by
  rw [MagicIfHeader, Classical.not_imp] at hmagic
  rw [SessionDataDecoder.decodePacket, decodePacketHeader_eq h hn (.inr hcopy) hmagic.1, if_neg hmagic.2]

/-- A good packet is decoded. -/
theorem decodePacket_good (h : rb.Represents n q) (hn : n < 2 ^ 31) (hcopy : decoder.KeepsCopy)
    (hgood : GoodFront decoder q) : ∃ payload, decoder.decodePacket rb = .found (frontHeader q, payload) := by
  rw [SessionDataDecoder.decodePacket, decodePacketHeader_eq h hn (.inr hcopy) hgood.header,
    if_pos hgood.magic]
  by_cases hempty : (frontHeader q).m_payloadLength = 0
  · exact ⟨none, by simp only [if_pos hempty]⟩
  · obtain ⟨payload, hpayload⟩ := Option.isSome_iff_exists.mp (hgood.made hempty)
    rw [frontPayload] at hpayload
    refine ⟨some payload, ?_⟩
    simp only [if_neg hempty]
    rw [decodePacketPayload_eq h hn hgood.complete, hpayload]
    rfl

/-- Without one the loop stops. -/
theorem decodePacket_stops (h : rb.Represents n q) (hn : n < 2 ^ 31) (hcopy : decoder.KeepsCopy)
    (hmagic : MagicIfHeader q) (hbad : ¬GoodFront decoder q) : decoder.decodePacket rb = .missing := by
  rcases Nat.lt_or_ge q.length PacketHeader.headerLength with hshort | hheader
  · rw [SessionDataDecoder.decodePacket, decodePacketHeader_missing h hn hshort]
  · rw [SessionDataDecoder.decodePacket, decodePacketHeader_eq h hn (.inr hcopy) hheader,
      if_pos (hmagic hheader)]
    have hnonempty : (frontHeader q).m_payloadLength ≠ 0 := by
      intro hzero
      refine hbad ⟨hheader, hmagic hheader, ?_, fun h => absurd hzero h⟩
      rw [frontLength, hzero]
      exact hheader
    simp only [if_neg hnonempty]
    rcases Nat.lt_or_ge q.length (frontLength q) with hpart | hcomplete
    · rw [decodePacketPayload_missing h hn hheader hpart]
    · rw [decodePacketPayload_eq h hn hcomplete]
      have hnull : decoder.createPayload (frontHeader q).m_packetType (frontPayload q) = none := by
        rw [← Option.not_isSome_iff_eq_none]
        exact fun hsome => hbad ⟨hheader, hmagic hheader, hcomplete, fun _ => hsome⟩
      rw [frontPayload] at hnull
      rw [hnull]
      rfl

/-- **The loop on any bytes**, with a copy that stays.  It consumes the good packets in front; what is left
has none, and the loop ends there unless the magic number is wrong. -/
theorem decodeLoop_bytes (hrunning : decoder.m_running) (hcopy : decoder.KeepsCopy) (hn : n < 2 ^ 31) (sessionId : ℕ) {fuel : ℕ}
    (h : rb.Represents n q) (hfuel : q.length < fuel) :
    ∃ left, Consumes decoder q left ∧ ¬GoodFront decoder left ∧
      (¬MagicIfHeader left → decoder.decodeLoop sessionId fuel rb = none) ∧
      (MagicIfHeader left → ∃ rb' calls, decoder.decodeLoop sessionId fuel rb = some (rb', calls) ∧
        rb'.Represents n left) := by
  induction fuel generalizing rb q with
  | zero => exact absurd hfuel (Nat.not_lt_zero _)
  | succ fuel ih =>
    by_cases hgood : GoodFront decoder q
    · have hpos : 0 < frontLength q :=
        Nat.lt_of_lt_of_le (by decide) headerLength_le_frontLength
      have hcomplete := hgood.complete
      have hconsume : (SessionDataDecoder.consume rb (frontHeader q)).Represents n
          (q.drop (frontLength q)) := consume_spec h hn hcomplete
      obtain ⟨payload, hfound⟩ := decodePacket_good h hn hcopy hgood
      obtain ⟨left, hconsumes, hbad, habort, hstop⟩ := ih hconsume (by
        rw [List.length_drop]
        omega)
      refine ⟨left, .packet hgood hconsumes, hbad, fun hmagic => ?_, fun hmagic => ?_⟩
      · simp only [SessionDataDecoder.decodeLoop, hrunning, hfound, habort hmagic]
        rfl
      · obtain ⟨rb', calls, hloop, hrep⟩ := hstop hmagic
        refine ⟨rb', decoder.deliver sessionId (frontHeader q, payload) ++ calls, ?_, hrep⟩
        simp only [SessionDataDecoder.decodeLoop, hrunning, hfound, hloop]
        rfl
    · refine ⟨q, .done q, hgood, fun hmagic => ?_, fun hmagic => ⟨rb, [], ?_, h⟩⟩
      · simp only [SessionDataDecoder.decodeLoop, hrunning, decodePacket_aborted h hn hcopy hmagic]
        rfl
      · simp only [SessionDataDecoder.decodeLoop, hrunning, decodePacket_stops h hn hcopy hmagic hgood]
        rfl

end Round

/-! ### All tasks -/

/-- Each task of a session returns, and at its stop the packet in front of the read buffer can be
completed. -/
def NeverStuck {Payload : Type} (decoder : SessionDataDecoder Payload) (n : ℕ) :
    P2PSession → List (List Byte) → Prop
  | _, [] => True
  | session, chunk :: chunks => ∃ result, decoder.addSessionData session chunk = some result ∧
      Completable n result.1.m_readBuffer.contents ∧ NeverStuck decoder n result.1 chunks

section Tasks

variable {Payload : Type} {decoder : SessionDataDecoder Payload} {n : ℕ} {left : List Byte}
variable {session : P2PSession}

/-- One task on any chunk that fits, with a copy that stays. -/
theorem addSessionData_bytes (hrunning : decoder.m_running) (hcopy : decoder.KeepsCopy) (hn : n < 2 ^ 31)
    (hwait : session.m_isWaitingDisconnect = false) (h : session.m_readBuffer.Represents n left)
    {chunk : List Byte} (hfit : chunk.length ≤ session.m_readBuffer.space) :
    (left ++ chunk).length ≤ n - 2 ∧ ∃ left', Consumes decoder (left ++ chunk) left' ∧
      ¬GoodFront decoder left' ∧
      (¬MagicIfHeader left' → decoder.addSessionData session chunk = none) ∧
      (MagicIfHeader left' → ∃ rb' calls, decoder.addSessionData session chunk =
        some ({ session with m_readBuffer := rb' }, calls) ∧ rb'.Represents n left') := by
  have hfits := h.fits
  rw [h.space_eq hn] at hfit
  have hlen : left.length + chunk.length ≤ n - 2 := by
    rw [c_reservedSpace] at hfits
    omega
  obtain ⟨rb₁, hwrite, hrep₁, -⟩ := write_spec h hn chunk hlen
  have hfuel : rb₁.dataLength + 1 = (left ++ chunk).length + 1 :=
    congrArg (· + 1) (hrep₁.dataLength_eq hn)
  obtain ⟨left', hconsumes, hbad, habort, hstop⟩ := decodeLoop_bytes hrunning hcopy hn
    session.m_sessionId hrep₁ (Nat.lt_succ_self _)
  have htask : decoder.addSessionData session chunk =
      (decoder.decodeLoop session.m_sessionId ((left ++ chunk).length + 1) rb₁).map
        fun result => ({ session with m_readBuffer := result.1 }, result.2) := by
    simp only [SessionDataDecoder.addSessionData, SessionDataDecoder.writeAndDecode, hwait, hwrite,
      hfuel]
    rfl
  rw [htask]
  refine ⟨by rw [List.length_append]; exact hlen, left', hconsumes, hbad, fun hmagic => ?_,
    fun hmagic => ?_⟩
  · rw [habort hmagic]
    rfl
  · obtain ⟨rb', calls, hloop, hrep⟩ := hstop hmagic
    rw [hloop]
    exact ⟨rb', calls, rfl, hrep⟩

theorem Completable.lt_frontLength {q : List Byte} (h : Completable n q) : q.length < frontLength q := by
  have hfront : PacketHeader.headerLength ≤ frontLength q := headerLength_le_frontLength
  cases h with
  | inl hshort => omega
  | inr hpart => exact hpart.2

/-- **One task with a destroyed copy.**  Where the copy would stay, the task would leave `left'`; if that
can be completed, the task returns exactly when no header goes round the end of the block. -/
theorem addSessionData_destroyed (hdestroyed : ∀ bytes, decoder.readDestroyed bytes = none)
    (hrunning : decoder.m_running) (hn : n < 2 ^ 31) (hwait : session.m_isWaitingDisconnect = false)
    (h : session.m_readBuffer.Represents n left) {chunk : List Byte}
    (hfit : chunk.length ≤ session.m_readBuffer.space) (rest : List Byte) :
    (left ++ chunk).length ≤ n - 2 ∧ ∃ left', Consumes decoder (left ++ chunk) left' ∧
      ¬GoodFront decoder left' ∧
      (∀ result, decoder.addSessionData session chunk = some result →
        MagicIfHeader left' ∧ result.1.m_readBuffer.contents = left') ∧
      (MagicIfHeader left' → Completable n left' → ∃ rb' calls, rb'.Represents n left' ∧
        (decoder.addSessionData session chunk =
          if HeadersWhole n (packetSizes (left ++ (chunk ++ rest))) session.m_readBuffer.m_startOffset
            (left.length + chunk.length)
          then some ({ session with m_readBuffer := rb' }, calls) else none) ∧
        afterLoop n (packetSizes (left ++ (chunk ++ rest))) session.m_readBuffer.m_startOffset
            (left.length + chunk.length) =
          (packetSizes (left' ++ rest), rb'.m_startOffset, left'.length)) := by
  have hrunning' : decoder.withCopy.m_running := hrunning
  obtain ⟨hlen, left', hconsumes, hbad, habort, hstop⟩ :=
    addSessionData_bytes hrunning' decoder.keepsCopy_withCopy hn hwait h hfit
  refine ⟨hlen, left', hconsumes.of_withCopy, fun hgood => hbad hgood.withCopy, fun result hresult => ?_,
    fun hmagic hcompletable => ?_⟩
  · have hkept := addSessionData_withCopy hdestroyed hresult
    by_cases hmagic : MagicIfHeader left'
    · obtain ⟨rb', calls, htask, hrep⟩ := hstop hmagic
      rw [htask] at hkept
      cases hkept
      exact ⟨hmagic, hrep.contents_eq hn⟩
    · rw [habort hmagic] at hkept
      cases hkept
  · obtain ⟨rb', calls, htask, hrep⟩ := hstop hmagic
    rw [List.length_append] at hlen
    obtain ⟨htask', hafter⟩ := addSessionData_whole hdestroyed hrunning hn hwait h hlen rest htask hrep
      hcompletable.lt_frontLength
    exact ⟨rb', calls, hrep, htask', hafter⟩

/-- **All chunks**, by induction on them. -/
theorem neverStuck_iff_digestible (hdestroyed : ∀ bytes, decoder.readDestroyed bytes = none)
    (hrunning : decoder.m_running) (hn : n < 2 ^ 31)
    (chunks : List (List Byte)) (session : P2PSession) {left : List Byte}
    (hwait : session.m_isWaitingDisconnect = false) (h : session.m_readBuffer.Represents n left)
    (hfit : chunksFit decoder session chunks) (hleft : Completable n left) (hmagic : MagicIfHeader left) :
    NeverStuck decoder n session chunks ↔ Digestible decoder n (left ++ chunks.flatten) ∧
      ChunksWhole n (packetSizes (left ++ chunks.flatten), session.m_readBuffer.m_startOffset, left.length)
        (chunks.map List.length) := by
  induction chunks generalizing session left with
  | nil =>
    rw [List.flatten_nil, List.append_nil]
    exact ⟨fun _ => ⟨.rest hleft hmagic, trivial⟩, fun _ => trivial⟩
  | cons chunk chunks ih =>
    simp only [chunksFit, Bool.and_eq_true, decide_eq_true_eq] at hfit
    obtain ⟨hlen, left', hconsumes, hbad, hreturns, hwhole⟩ :=
      addSessionData_destroyed hdestroyed hrunning hn hwait h hfit.1 chunks.flatten
    rw [List.flatten_cons, List.map_cons, ChunksWhole, ← List.append_assoc, hconsumes.digestible_iff hlen,
      List.append_assoc]
    constructor
    · rintro ⟨result, hresult, hcompletable, hrest⟩
      obtain ⟨hmagic', hcontents⟩ := hreturns result hresult
      rw [hcontents] at hcompletable
      obtain ⟨rb', calls, hrep, htask, hafter⟩ := hwhole hmagic' hcompletable
      rw [hresult] at htask
      obtain ⟨hheaders, hsame⟩ := Option.ite_none_right_eq_some.mp htask.symm
      cases hsame
      rw [hresult] at hfit
      have hlater := (ih { session with m_readBuffer := rb' } hwait hrep hfit.2 hcompletable hmagic').mp hrest
      rw [hafter]
      exact ⟨hlater.1, hheaders, hlater.2⟩
    · intro hall
      obtain ⟨hdigestible, hheaders, hlater⟩ := hall
      obtain ⟨hcompletable, hmagic'⟩ := hdigestible.completable hbad
      obtain ⟨rb', calls, hrep, htask, hafter⟩ := hwhole hmagic' hcompletable
      rw [if_pos hheaders] at htask
      rw [htask] at hfit
      rw [hafter] at hlater
      refine ⟨_, htask, (hrep.contents_eq hn).symm ▸ hcompletable, ?_⟩
      exact (ih { session with m_readBuffer := rb' } hwait hrep hfit.2 hcompletable hmagic').mpr
        ⟨hdigestible, hlater⟩

end Tasks

/-- **What a peer can do to the decoder.**  However bytes are cut into chunks that find enough free space,
every task of the session returns and leaves a packet in front that can still be completed **if and only
if** the bytes are packets with the magic number, of a known type unless they are empty, that fit in the
read buffer, and a rest that can become one, and no header that is read goes round the end of the buffer. -/
theorem neverStuck_iff (pb : Protobuf) (n : ℕ) (hn : 16 ≤ n) (hn' : n < 2 ^ 31) (sessionId : ℕ)
    (chunks : List (List Byte))
    (hfit : chunksFit (sessionDataDecoder pb) ⟨sessionId, .new n, false⟩ chunks) :
    NeverStuck (sessionDataDecoder pb) n ⟨sessionId, .new n, false⟩ chunks ↔
      Digestible (sessionDataDecoder pb) n chunks.flatten ∧
        ChunksWhole n (packetSizes chunks.flatten, 0, 0) (chunks.map List.length) :=
  neverStuck_iff_digestible (fun _ => rfl) rfl hn' chunks ⟨sessionId, .new n, false⟩ rfl (.new (by omega))
    hfit (.inl (by decide)) fun hlong => absurd hlong (by decide)

/-- A heartbeat in two chunks. -/
theorem neverStuck_heartBeat :
    NeverStuck (sessionDataDecoder sampleProtobuf) 20 ⟨7, .new 20, false⟩
      [(Emitted.heartBeat.encode sampleProtobuf).take 5, (Emitted.heartBeat.encode sampleProtobuf).drop 5] ↔
    Digestible (sessionDataDecoder sampleProtobuf) 20
      [(Emitted.heartBeat.encode sampleProtobuf).take 5,
        (Emitted.heartBeat.encode sampleProtobuf).drop 5].flatten ∧
    ChunksWhole 20 (packetSizes [(Emitted.heartBeat.encode sampleProtobuf).take 5,
      (Emitted.heartBeat.encode sampleProtobuf).drop 5].flatten, 0, 0)
      ([(Emitted.heartBeat.encode sampleProtobuf).take 5,
        (Emitted.heartBeat.encode sampleProtobuf).drop 5].map List.length) :=
  neverStuck_iff sampleProtobuf 20 (by decide) (by decide) 7 _ (by decide)

theorem chunksFit_singleton {Payload : Type} {decoder : SessionDataDecoder Payload} {session : P2PSession}
    {chunk : List Byte} (h : chunk.length ≤ session.m_readBuffer.space) :
    chunksFit decoder session [chunk] := by
  rw [chunksFit, decide_eq_true h, Bool.true_and]
  split <;> rfl

/-- One chunk into a new session with the read buffer of the services. -/
theorem digestible_of_neverStuck {chunk : List Byte} (hlen : chunk.length ≤ c_p2pSessionReadBufferSize - 2)
    (h : NeverStuck (sessionDataDecoder sampleProtobuf) c_p2pSessionReadBufferSize
      ⟨0, .new c_p2pSessionReadBufferSize, false⟩ [chunk]) :
    Digestible (sessionDataDecoder sampleProtobuf) c_p2pSessionReadBufferSize chunk := by
  have hnew : (RingBuffer.new c_p2pSessionReadBufferSize).Represents c_p2pSessionReadBufferSize [] :=
    .new (by decide)
  have hfit : chunksFit (sessionDataDecoder sampleProtobuf)
      ⟨0, .new c_p2pSessionReadBufferSize, false⟩ [chunk] := by
    refine chunksFit_singleton ?_
    rw [hnew.space_eq (by decide)]
    exact hlen
  have hdigestible := ((neverStuck_iff_digestible (fun _ => rfl) rfl (by decide) [chunk]
    ⟨0, .new c_p2pSessionReadBufferSize, false⟩ rfl hnew hfit (.inl (by decide))
    fun hlong => absurd hlong (by decide)).mp h).1
  rwa [List.nil_append, List.flatten_cons, List.flatten_nil, List.append_nil] at hdigestible

/-- Two heartbeats, the second cut behind its second byte. -/
def twoHeartBeats : List (List Byte) :=
  [(Packet.stream [⟨3, .unknown, []⟩, ⟨3, .unknown, []⟩]).take 16,
    (Packet.stream [⟨3, .unknown, []⟩, ⟨3, .unknown, []⟩]).drop 16]

/-- **Four ways to stop a decoder**: fourteen zero bytes, a distance vector, a header that announces
`2 ^ 32 - 1` bytes, and a heartbeat whose header goes round the end of the buffer. -/
theorem neverStuck_fails :
    (¬NeverStuck (sessionDataDecoder sampleProtobuf) c_p2pSessionReadBufferSize
      ⟨0, .new c_p2pSessionReadBufferSize, false⟩ [List.replicate 14 0]) ∧
    (¬NeverStuck (sessionDataDecoder sampleProtobuf) c_p2pSessionReadBufferSize
      ⟨0, .new c_p2pSessionReadBufferSize, false⟩
      [(Emitted.distanceVector ⟨1, []⟩).encode sampleProtobuf]) ∧
    (¬NeverStuck (sessionDataDecoder sampleProtobuf) c_p2pSessionReadBufferSize
      ⟨0, .new c_p2pSessionReadBufferSize, false⟩
      [PacketHeader.encode { m_packetType := 1, m_payloadLength := 0xffffffff }]) ∧
    ¬NeverStuck (sessionDataDecoder sampleProtobuf) 20 ⟨0, .new 20, false⟩ twoHeartBeats := by
  refine ⟨fun h => ?_, fun h => ?_, fun h => ?_, fun h => ?_⟩
  · rcases digestible_of_neverStuck (by decide) h with ⟨hrest, -⟩ | ⟨hgood, -⟩
    · exact absurd hrest (by decide)
    · exact absurd hgood.magic (by decide)
  · rcases digestible_of_neverStuck (by decide) h with ⟨hrest, -⟩ | ⟨hgood, -⟩
    · exact absurd hrest (by decide)
    · exact absurd (hgood.made (by decide)) (by decide)
  · rcases digestible_of_neverStuck (by decide) h with ⟨hrest, -⟩ | ⟨hgood, -⟩
    · exact absurd hrest (by decide)
    · exact absurd hgood.complete (by decide)
  · have hp : ∀ p ∈ [(⟨3, .unknown, []⟩ : Packet), ⟨3, .unknown, []⟩],
        p.Decodable (sessionDataDecoder sampleProtobuf) 20 :=
      fun p hp => ⟨by revert p; decide, by revert p; decide⟩
    have hsizes : packetSizes ([] ++ twoHeartBeats.flatten) = [14, 14] := by
      rw [List.nil_append, show twoHeartBeats.flatten =
          Packet.stream [⟨3, .unknown, []⟩, ⟨3, .unknown, []⟩] by decide,
        packetSizes_stream (by decide) hp]
      rfl
    have hwhole := ((neverStuck_iff_digestible (fun _ => rfl) rfl (by decide) twoHeartBeats
      ⟨0, .new 20, false⟩ rfl (.new (by decide)) (by decide) (.inl (by decide))
      fun hlong => absurd hlong (by decide)).mp h).2
    rw [hsizes] at hwhole
    exact absurd hwhole (by decide)

end DistributedNetwork.Decoding
