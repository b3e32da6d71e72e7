import DistributedNetwork.Decoding.BufferLimits
import DistributedNetwork.Delivery.Storing
import DistributedNetwork.Sending.Growth

/-!
# From `sendData` to the packet handler

A connection has a session at either end.  On one node the reactor sends what `sendData` was given; on the
other one `recv` returns the bytes in chunks, the decode workers store the chunks, and the packet handler
is called.  The kernels in between deliver the accepted bytes in order.

* `Connection` — the reactor of one node, what `recv` has returned on the other, its decode workers and
  the calls of its packet handler for the session; all of them go on independently;
* `Orderly` — the sends of the session are undisrupted and send packets that can be decoded; on the other
  side the lock goes to the earliest chunk, no task of the session is given up and every chunk finds room;
* `delivers` — in every orderly run the handler is called for the messages the reactor has taken from its
  queue, **in order and once each**, with what was sent; nothing is missing once all bytes are received
  and no chunk waits.

A worker that reads a header which goes round the end of the read buffer reads destroyed memory; it has no
step, and a run is one in which that does not happen.
-/

namespace DistributedNetwork.Delivery

open DistributedNetwork.Buffer DistributedNetwork.Library DistributedNetwork.Decoding
open DistributedNetwork.Sending hiding SlaveReactor
open DistributedNetwork.Sending (SlaveReactor)

variable {n : ℕ}

structure Connection (n : ℕ) where
  reactor : SlaveReactor
  /-- the chunks that `recv` has returned -/
  received : List (List Byte)
  pool : Pool n
  handled : List (Delivered PayloadObject)

inductive ConnectionEvent (n : ℕ) where
  | sender (event : ReactorEvent)
  /-- `recv` returns `k` bytes of the session -/
  | recv (k : ℕ)
  /-- a decode worker, or a chunk of another session -/
  | receiver (event : PoolEvent n)

/-- What a worker hands to the packet handler for the session. -/
def handlerCalls (pb : Protobuf) (peerSessionId : ℕ) (s : Pool n) :
    PoolEvent n → List (Delivered PayloadObject)
  | .run w =>
    match s.workers w with
    | .locked task =>
      if task.sessionId = peerSessionId then
        (((sessionDataDecoder pb).writeAndDecode (s.sessions task.sessionId) task.chunk).map
          Prod.snd).getD []
      else []
    | _ => []
  | _ => []

namespace Connection

/-- What the kernel has taken from the session and `recv` has not returned, up to `k` bytes. -/
def nextChunk (sessionId : SessionId) (s : Connection n) (k : ℕ) : List Byte :=
  ((s.reactor.sessions sessionId).accepted.drop s.received.flatten.length).take k

def step (pb : Protobuf) (sessionId peerSessionId : SessionId) (s : Connection n) :
    ConnectionEvent n → Option (Connection n)
  | .sender event => (s.reactor.step event).map fun reactor => { s with reactor := reactor }
  | .recv k =>
    let chunk := s.nextChunk sessionId k
    if 0 < k ∧ k ≤ c_defaultSocketRecvBufferSize ∧ chunk.length = k then
      (s.pool.step (sessionDataDecoder pb) (.receive peerSessionId chunk)).map fun pool =>
        { s with received := s.received ++ [chunk], pool := pool }
    else none
  | .receiver (.receive id chunk) =>
    if id = peerSessionId then none
    else (s.pool.step (sessionDataDecoder pb) (.receive id chunk)).map fun pool => { s with pool := pool }
  | .receiver event =>
    (s.pool.step (sessionDataDecoder pb) event).map fun pool =>
      { s with pool := pool, handled := s.handled ++ handlerCalls pb peerSessionId s.pool event }

end Connection

/-- The connection between session `sessionId` of one node and `peerSessionId` of the other, which runs
`n` decode workers. -/
def connection (pb : Protobuf) (n : ℕ) (sessionId peerSessionId : SessionId) :
    TransitionSystem (Connection n) (ConnectionEvent n) where
  init s := s.reactor = .start c_p2pSessionWriteBufferSize ∧ s.received = [] ∧ s.handled = [] ∧
    (decodeWorkers (sessionDataDecoder pb) n c_p2pSessionReadBufferSize).init s.pool
  step := Connection.step pb sessionId peerSessionId

/-- A message of the session: the bytes of a packet that can be decoded. -/
def Sent (pb : Protobuf) (e : Emitted) : Prop :=
  e.ParsesBack pb ∧ e.Sendable pb c_p2pSessionReadBufferSize

/-- No task of the session is given up, and every chunk finds room. -/
def Finishes (peerSessionId : SessionId) (s : Pool n) : PoolEvent n → Prop
  | .giveUp w => ∀ task, s.workers w = .dequeued task → task.sessionId ≠ peerSessionId
  | .run w => ∀ task, s.workers w = .locked task → task.sessionId = peerSessionId →
      task.chunk.length ≤ (s.sessions peerSessionId).m_readBuffer.space
  | _ => True

/-- The run condition of the connection. -/
def Orderly (pb : Protobuf) (sessionId peerSessionId : SessionId) (s : Connection n) :
    ConnectionEvent n → Prop
  | .sender event => Undisrupted sessionId s.reactor event ∧
      Sends sessionId (fun data => ∃ e, Sent pb e ∧ data = e.encode pb) event
  | .recv _ => True
  | .receiver event => EarliestFirst s.pool event ∧ Finishes peerSessionId s.pool event

/-- The call of the packet handler for an emitted packet, with what was sent. -/
def call (pb : Protobuf) (peerSessionId : SessionId) (e : Emitted) : Delivered PayloadObject where
  sessionId := peerSessionId
  header := (e.packet pb).header
  payload := e.object

/-! ### Packets that are sent -/

section Packets

variable {pb : Protobuf} {e : Emitted}

theorem Sent.decodable (h : Sent pb e) :
    (e.packet pb).Decodable (sessionDataDecoder pb) c_p2pSessionReadBufferSize := by
  obtain ⟨hback, hbeat | ⟨htype, -, hfits⟩⟩ := h
  · have hempty : (e.packet pb).payload = [] := payload_heartBeat pb hbeat
    refine ⟨?_, fun hpayload => absurd hempty hpayload⟩
    rw [hempty]
    decide
  · refine ⟨hfits, fun hpayload => ?_⟩
    have hother : e.isHeartBeat = false := by
      by_contra hbeat
      exact hpayload (payload_heartBeat pb (by simpa using hbeat))
    have hobject := createPayload_object pb hback htype hother
    show (PayloadFactory.createPayload pb e.type.code (e.payload pb)).isSome = true
    rw [hobject]
    exact object_isSome hother

theorem Sent.delivered (h : Sent pb e) (peerSessionId : SessionId) :
    (e.packet pb).delivered (sessionDataDecoder pb) peerSessionId = call pb peerSessionId e := by
  obtain ⟨hback, hsendable⟩ := h
  unfold Packet.delivered call
  congr 1
  show (if e.payload pb = [] then none
    else PayloadFactory.createPayload pb e.type.code (e.payload pb)) = e.object
  cases hbeat : e.isHeartBeat with
  | true =>
    rw [if_pos (payload_heartBeat pb hbeat)]
    cases e with
    | heartBeat => rfl
    | heartBeatReply => rfl
    | _ => cases hbeat
  | false =>
    obtain hheart | ⟨htype, hpayload, -⟩ := hsendable
    · rw [hbeat] at hheart
      cases hheart
    · rw [if_neg hpayload]
      exact createPayload_object pb hback htype hbeat

theorem exists_emitted {messages : List (List Byte)}
    (h : ∀ message ∈ messages, ∃ e, Sent pb e ∧ message = e.encode pb) :
    ∃ emitted : List Emitted, messages = emitted.map (Emitted.encode pb) ∧ ∀ e ∈ emitted, Sent pb e := by
  induction messages with
  | nil => exact ⟨[], rfl, nofun⟩
  | cons message messages ih =>
    obtain ⟨e, hsent, rfl⟩ := h message List.mem_cons_self
    obtain ⟨emitted, rfl, hall⟩ := ih fun m hm => h m (List.mem_cons_of_mem _ hm)
    exact ⟨e :: emitted, rfl, List.forall_mem_cons.mpr ⟨hsent, hall⟩⟩

theorem stream_packets (pb : Protobuf) (emitted : List Emitted) :
    Packet.stream (emitted.map (Emitted.packet pb)) = (emitted.map (Emitted.encode pb)).flatten := by
  unfold Packet.stream
  rw [List.flatMap_def, List.map_map]
  exact congrArg List.flatten (List.map_congr_left fun e _ => (e.encode_eq pb).symm)

/-- More packets may follow. -/
theorem splits_more {packets : List Packet} {q left : List Byte} {k : ℕ}
    (h : Splits packets q k left) (more : List Packet) : Splits (packets ++ more) q k left where
  le_length := by
    rw [List.length_append]
    exact Nat.le_trans h.le_length (Nat.le_add_right _ _)
  consumed := by
    rw [List.take_append_of_le_length h.le_length]
    exact h.consumed
  rest := by
    rw [List.drop_append_of_le_length h.le_length, Packet.stream, List.flatMap_append]
    exact h.rest.trans (List.prefix_append _ _)
  incomplete p hp := by
    rcases Nat.lt_or_ge k packets.length with hlt | hge
    · rw [List.getElem?_append_left hlt] at hp
      exact h.incomplete p hp
    · have hrest := h.rest
      rw [List.drop_eq_nil_of_le hge] at hrest
      rw [List.prefix_nil.mp hrest, p.length_bytes]
      exact Nat.lt_of_lt_of_le (by decide) (Nat.le_add_right _ _)

/-- When everything has been consumed no packet is left. -/
theorem splits_complete {packets : List Packet} {left : List Byte} {k : ℕ}
    (h : Splits packets (Packet.stream packets) k left) : k = packets.length := by
  have hstream : Packet.stream packets =
      Packet.stream (packets.take k) ++ Packet.stream (packets.drop k) := by
    unfold Packet.stream
    rw [← List.flatMap_append, List.take_append_drop]
  have hleft : left = Packet.stream (packets.drop k) := by
    have hconsumed := h.consumed
    rw [hstream] at hconsumed
    exact (List.append_cancel_left hconsumed).symm
  refine Nat.le_antisymm h.le_length (Nat.not_lt.mp fun hlt => ?_)
  have hshort := h.incomplete packets[k] (List.getElem?_eq_getElem hlt)
  rw [hleft, List.drop_eq_getElem_cons hlt, Packet.stream_cons, List.length_append] at hshort
  omega

end Packets

/-! ### The invariant -/

variable {pb : Protobuf} {sessionId peerSessionId : SessionId}

/-- What has been decoded of the first `stored` chunks. -/
structure Decoded (pb : Protobuf) (peerSessionId : SessionId) (s : Connection n)
    (emitted : List Emitted) (stored : ℕ) : Prop where
  m_sessionId : (s.pool.sessions peerSessionId).m_sessionId = peerSessionId
  m_isWaitingDisconnect : (s.pool.sessions peerSessionId).m_isWaitingDisconnect = false
  decoded : ∃ k left,
    (s.pool.sessions peerSessionId).m_readBuffer.Represents c_p2pSessionReadBufferSize left ∧
      Splits (emitted.map (Emitted.packet pb)) (s.received.take stored).flatten k left ∧
      s.handled = (emitted.take k).map (call pb peerSessionId)

/-- The invariant of the two ends: `emitted` are the messages of the session, and `stored` chunks have
been stored. -/
structure Flows (pb : Protobuf) (sessionId peerSessionId : SessionId) (s : Connection n)
    (emitted : List Emitted) (stored : ℕ) : Prop where
  messages : (s.reactor.sessions sessionId).messages = emitted.map (Emitted.encode pb)
  sent : ∀ e ∈ emitted, Sent pb e
  queued : Queued sessionId (fun data => ∃ e, Sent pb e ∧ data = e.encode pb) s.reactor
  holds : Holds c_p2pSessionWriteBufferSize s.reactor sessionId
  received : s.received.flatten <+: (s.reactor.sessions sessionId).accepted
  inOrder : InOrder s.pool peerSessionId
  stores : Stores s.pool peerSessionId s.received stored
  decoded : Decoded pb peerSessionId s emitted stored

section Steps

variable {s : Connection n} {emitted : List Emitted} {stored : ℕ}

/-- The received bytes are the beginning of the stream of packets. -/
theorem Flows.stream (h : Flows pb sessionId peerSessionId s emitted stored)
    (hlive : ¬ (s.reactor.sessions sessionId).Ending) :
    s.received.flatten <+: Packet.stream (emitted.map (Emitted.packet pb)) := by
  obtain hending | ⟨haccepted, -⟩ := h.holds
  · exact absurd hending hlive
  · rw [stream_packets, ← h.messages]
    exact h.received.trans haccepted

/-- A step of the reactor: new messages are the bytes of further packets. -/
theorem Flows.sender (h : Flows pb sessionId peerSessionId s emitted stored) {event : ReactorEvent}
    {reactor : SlaveReactor} (hundisrupted : Undisrupted sessionId s.reactor event)
    (hsends : Sends sessionId (fun data => ∃ e, Sent pb e ∧ data = e.encode pb) event)
    (hstep : s.reactor.step event = some reactor) :
    ∃ emitted', Flows pb sessionId peerSessionId { s with reactor := reactor } emitted' stored := by
  obtain ⟨hqueued, new, hextends, hnew⟩ := step_extends h.queued hsends hstep
  obtain ⟨further, rfl, hfurther⟩ := exists_emitted hnew
  refine ⟨emitted ++ further, ?_, ?_, hqueued, ?_, ?_, h.inOrder, h.stores, ?_⟩
  · rw [List.map_append, ← h.messages]
    exact hextends.messages
  · intro e he
    exact (List.mem_append.mp he).elim (h.sent e) (hfurther e)
  · exact holds_step (by decide) h.holds hundisrupted hstep
  · exact h.received.trans hextends.accepted
  · obtain ⟨hid, hwaiting, k, left, hrep, hsplits, hhandled⟩ := h.decoded
    have hlength := hsplits.le_length
    rw [List.length_map] at hlength
    refine ⟨hid, hwaiting, k, left, hrep, ?_, ?_⟩
    · rw [List.map_append]
      exact splits_more hsplits _
    · rw [List.take_append_of_le_length hlength]
      exact hhandled

/-- `recv` returns the next bytes. -/
theorem Flows.recv (h : Flows pb sessionId peerSessionId s emitted stored) (k : ℕ) :
    Flows pb sessionId peerSessionId { s with
      received := s.received ++ [s.nextChunk sessionId k]
      pool := { s.pool with
        m_tasks := s.pool.m_tasks ++
          [⟨peerSessionId, s.pool.arrivals peerSessionId, s.nextChunk sessionId k⟩]
        arrivals := Function.update s.pool.arrivals peerSessionId
          (s.pool.arrivals peerSessionId + 1) } } emitted stored := by
  refine ⟨h.messages, h.sent, h.queued, h.holds, ?_, h.inOrder.receive _ _, h.stores.receive _, ?_⟩
  · obtain ⟨rest, hrest⟩ := h.received
    have hdrop : (s.reactor.sessions sessionId).accepted.drop s.received.flatten.length = rest := by
      rw [← hrest, List.drop_left]
    show (s.received ++ [s.nextChunk sessionId k]).flatten <+: _
    unfold Connection.nextChunk
    rw [List.flatten_append, List.flatten_singleton, hdrop, ← hrest]
    exact (List.prefix_append_right_inj _).mpr (List.take_prefix k rest)
  · obtain ⟨hid, hwaiting, k', left, hrep, hsplits, hhandled⟩ := h.decoded
    refine ⟨hid, hwaiting, k', left, hrep, ?_, hhandled⟩
    show Splits _ ((s.received ++ [s.nextChunk sessionId k]).take stored).flatten k' left
    rw [List.take_append_of_le_length h.stores.le_length]
    exact hsplits

/-- Steps of the workers that concern other sessions, or store nothing. -/
theorem Flows.frame (h : Flows pb sessionId peerSessionId s emitted stored) {pool : Pool n}
    (hinOrder : InOrder pool peerSessionId) (hstores : Stores pool peerSessionId s.received stored)
    (hsession : pool.sessions peerSessionId = s.pool.sessions peerSessionId) :
    Flows pb sessionId peerSessionId { s with pool := pool } emitted stored := by
  refine ⟨h.messages, h.sent, h.queued, h.holds, h.received, hinOrder, hstores, ?_⟩
  obtain ⟨hid, hwaiting, hdecoded⟩ := h.decoded
  refine ⟨?_, ?_, ?_⟩
  · show (pool.sessions peerSessionId).m_sessionId = _
    rw [hsession]
    exact hid
  · show (pool.sessions peerSessionId).m_isWaitingDisconnect = _
    rw [hsession]
    exact hwaiting
  · show ∃ k left, (pool.sessions peerSessionId).m_readBuffer.Represents _ left ∧ _
    rw [hsession]
    exact hdecoded

/-- **A chunk of the session is stored and decoded**: the handler is called for the packets that are
complete now. -/
theorem Flows.run (h : Flows pb sessionId peerSessionId s emitted stored)
    (hlive : ¬ (s.reactor.sessions sessionId).Ending) {w : Fin n} {task : Task} {pool : Pool n}
    (hlocked : s.pool.workers w = .locked task) (hown : task.sessionId = peerSessionId)
    (hspace : task.chunk.length ≤ (s.pool.sessions peerSessionId).m_readBuffer.space)
    (hinOrder : InOrder pool peerSessionId)
    (hrun : s.pool.runTask (sessionDataDecoder pb) w task = some pool) :
    Flows pb sessionId peerSessionId { s with
      pool := pool
      handled := s.handled ++ handlerCalls pb peerSessionId s.pool (.run w) } emitted (stored + 1) := by
  obtain ⟨hid, hwaiting, k, left, hrep, hsplits, hhandled⟩ := h.decoded
  obtain ⟨-, hget⟩ := h.stores.locked_next h.inOrder hlocked hown
  have hread : c_p2pSessionReadBufferSize < 2 ^ 31 := by decide
  have htake : s.received.take (stored + 1) = s.received.take stored ++ [task.chunk] := by
    rw [List.take_add_one, hget]
    rfl
  have hbegins : (s.received.take stored).flatten ++ task.chunk <+:
      Packet.stream (emitted.map (Emitted.packet pb)) := by
    have hprefix := (List.take_prefix (stored + 1) s.received).flatten.trans (h.stream hlive)
    rwa [htake, List.flatten_append, List.flatten_singleton] at hprefix
  have hfit : left.length + task.chunk.length ≤ c_p2pSessionReadBufferSize - c_reservedSpace := by
    rw [hrep.space_eq hread] at hspace
    have hfits := hrep.fits
    rw [c_reservedSpace] at hfits ⊢
    omega
  obtain ⟨⟨readBuffer, hwrite⟩, k', left', rb', htask, hrep', hsplits'⟩ :=
    task_of_fit (show (sessionDataDecoder pb).withCopy.m_running from rfl) rfl
      (sessionDataDecoder pb).keepsCopy_withCopy hread hread hwaiting hrep (fun p hp => by
      obtain ⟨e, he, rfl⟩ := List.mem_map.mp hp
      exact ⟨(h.sent e he).decodable.fits, (h.sent e he).decodable.nonNull⟩) hsplits hbegins hfit
  have hwritten : ((s.pool.sessions task.sessionId).m_readBuffer.writeData task.chunk).1 ≠ -1 := by
    intro hrejected
    rw [hown] at hrejected
    rw [writeDataToP2PSessionReadBuffer, if_pos hrejected] at hwrite
    cases hwrite
  have hkept : (sessionDataDecoder pb).withCopy.writeAndDecode (s.pool.sessions task.sessionId) task.chunk =
      some ({ s.pool.sessions peerSessionId with m_readBuffer := rb' },
        (((emitted.map (Emitted.packet pb)).drop k).take k').map
          (Packet.delivered (sessionDataDecoder pb) (s.pool.sessions peerSessionId).m_sessionId)) := by
    rw [SessionDataDecoder.addSessionData, if_neg (by rw [hwaiting]; decide)] at htask
    rw [hown]
    exact htask
  -- the task has returned, so no header went round the end of the buffer
  have hdecode : (sessionDataDecoder pb).writeAndDecode (s.pool.sessions task.sessionId) task.chunk =
      some ({ s.pool.sessions peerSessionId with m_readBuffer := rb' },
        (((emitted.map (Emitted.packet pb)).drop k).take k').map
          (Packet.delivered (sessionDataDecoder pb) (s.pool.sessions peerSessionId).m_sessionId)) := by
    obtain ⟨result, hresult, -⟩ := Option.map_eq_some_iff.mp hrun
    rw [hresult, ← writeAndDecode_withCopy (fun _ => rfl) hresult, hkept]
  have hcalls : handlerCalls pb peerSessionId s.pool (.run w) =
      ((emitted.drop k).take k').map (call pb peerSessionId) := by
    unfold handlerCalls
    simp only [hlocked]
    rw [if_pos hown, hdecode, hid, ← List.map_drop, ← List.map_take, List.map_map]
    refine List.map_congr_left fun e he => ?_
    exact (h.sent e (List.mem_of_mem_drop (List.mem_of_mem_take he))).delivered peerSessionId
  unfold Pool.runTask at hrun
  rw [hdecode] at hrun
  cases hrun
  rw [if_neg hwritten, hown] at hinOrder ⊢
  refine ⟨h.messages, h.sent, h.queued, h.holds, h.received, hinOrder,
    h.stores.run h.inOrder hlocked hown _, ?_⟩
  have hsession : Function.update s.pool.sessions peerSessionId
      { s.pool.sessions peerSessionId with m_readBuffer := rb' } peerSessionId =
      { s.pool.sessions peerSessionId with m_readBuffer := rb' } := Function.update_self ..
  refine ⟨(congrArg P2PSession.m_sessionId hsession).trans hid,
    (congrArg P2PSession.m_isWaitingDisconnect hsession).trans hwaiting, k + k', left', ?_, ?_, ?_⟩
  · exact (congrArg P2PSession.m_readBuffer hsession) ▸ hrep'
  · show Splits _ (s.received.take (stored + 1)).flatten (k + k') left'
    rw [htake, List.flatten_append, List.flatten_singleton]
    exact hsplits'
  · show s.handled ++ _ = _
    rw [hhandled, hcalls, List.take_add, List.map_append]

end Steps

/-! ### Runs -/

section Runs

variable {s s' : Connection n}

/-- The session is ending on the sending node, or the connection flows. -/
def Intact (pb : Protobuf) (sessionId peerSessionId : SessionId) (s : Connection n) : Prop :=
  (s.reactor.sessions sessionId).Ending ∨
    ∃ emitted stored, Flows pb sessionId peerSessionId s emitted stored

/-- The steps of the workers. -/
theorem intact_receiver {emitted : List Emitted} {stored : ℕ} {event : PoolEvent n} {pool : Pool n}
    (h : Flows pb sessionId peerSessionId s emitted stored)
    (hlive : ¬ (s.reactor.sessions sessionId).Ending) (hfirst : EarliestFirst s.pool event)
    (hfinishes : Finishes peerSessionId s.pool event)
    (hother : ∀ id chunk, event = .receive id chunk → id ≠ peerSessionId)
    (hstep : s.pool.step (sessionDataDecoder pb) event = some pool) :
    ∃ stored', Flows pb sessionId peerSessionId { s with
      pool := pool
      handled := s.handled ++ handlerCalls pb peerSessionId s.pool event } emitted stored' := by
  have hinOrder := h.inOrder.step hfirst hstep
  have hquiet (hcalls : handlerCalls pb peerSessionId s.pool event = [])
      (hstores : Stores pool peerSessionId s.received stored)
      (hsession : pool.sessions peerSessionId = s.pool.sessions peerSessionId) :
      ∃ stored', Flows pb sessionId peerSessionId { s with
        pool := pool
        handled := s.handled ++ handlerCalls pb peerSessionId s.pool event } emitted stored' := by
    rw [hcalls, List.append_nil]
    exact ⟨stored, h.frame hinOrder hstores hsession⟩
  cases event with
  | receive id chunk =>
    cases hstep
    exact hquiet rfl (h.stores.receive_other (hother id chunk rfl) chunk) rfl
  | dequeue w =>
    unfold Pool.step at hstep
    dsimp only at hstep
    split at hstep
    · next task tasks hidle htasks =>
      cases hstep
      exact hquiet rfl (h.stores.frame rfl rfl (waiting_dequeue hidle htasks)) rfl
    · cases hstep
  | giveUp w =>
    unfold Pool.step at hstep
    dsimp only at hstep
    split at hstep
    · next task hw =>
      cases hstep
      refine hquiet rfl (h.stores.frame rfl rfl (waiting_setWorker fun t hown => ?_)) rfl
      have hne := hfinishes task hw
      rw [hw]
      refine iff_of_false nofun fun heq => hne ?_
      cases heq
      exact hown
    · cases hstep
  | lock w =>
    unfold Pool.step at hstep
    dsimp only at hstep
    split at hstep
    · next task hw =>
      obtain ⟨-, heq⟩ := Option.ite_none_right_eq_some.mp hstep
      cases heq
      refine hquiet rfl (h.stores.frame rfl rfl (waiting_setWorker fun t _ => ?_)) rfl
      rw [hw]
      exact Iff.rfl
    · cases hstep
  | run w =>
    unfold Pool.step at hstep
    dsimp only at hstep
    split at hstep
    · next task hw =>
      by_cases hown : task.sessionId = peerSessionId
      · exact ⟨stored + 1, h.run hlive hw hown (hfinishes task hw hown) hinOrder hstep⟩
      · have hcalls : handlerCalls pb peerSessionId s.pool (.run w) = [] := by
          unfold handlerCalls
          simp only [hw]
          exact if_neg hown
        unfold Pool.runTask at hstep
        obtain ⟨result, -, rfl⟩ := Option.map_eq_some_iff.mp hstep
        have hwritten (written : List ℕ) :
            Function.update s.pool.written task.sessionId written peerSessionId =
              s.pool.written peerSessionId := Function.update_of_ne (Ne.symm hown) ..
        refine hquiet hcalls (h.stores.frame rfl ?_ ?_) (Function.update_of_ne (Ne.symm hown) ..)
        · dsimp only
          split
          · rfl
          · exact hwritten _
        · have hsame (t : Task) (htOwn : t.sessionId = peerSessionId) :
              (Worker.written task).pending = some t ↔ (s.pool.workers w).pending = some t := by
            rw [hw]
            refine iff_of_false nofun fun heq => hown ?_
            cases heq
            exact htOwn
          exact fun t => waiting_setWorker hsame t
    · cases hstep
  | unlock w =>
    unfold Pool.step at hstep
    dsimp only at hstep
    split at hstep
    · next task hw =>
      cases hstep
      refine hquiet rfl (h.stores.frame rfl rfl (waiting_setWorker fun t _ => ?_)) rfl
      rw [hw]
      exact Iff.rfl
    · cases hstep

/-- **Step lemma.** -/
theorem intact_step (h : Intact pb sessionId peerSessionId s) {event : ConnectionEvent n}
    (horderly : Orderly pb sessionId peerSessionId s event)
    (hstep : (connection pb n sessionId peerSessionId).step s event = some s') :
    Intact pb sessionId peerSessionId s' := by
  have hending {reactor : SlaveReactor} {event : ReactorEvent}
      (hstep : s.reactor.step event = some reactor) :
      (s.reactor.sessions sessionId).Ending → (reactor.sessions sessionId).Ending := by
    have hqueued : Queued sessionId (fun _ => True) s.reactor :=
      ⟨fun _ _ _ => trivial, fun _ _ _ => trivial⟩
    have hsends : Sends sessionId (fun _ => True) event := by cases event <;> simp [Sends]
    obtain ⟨-, new, hextends, -⟩ := step_extends hqueued hsends hstep
    exact hextends.ending
  by_cases hlive : (s.reactor.sessions sessionId).Ending
  · refine .inl ?_
    cases event with
    | sender event =>
      obtain ⟨reactor, hreactor, rfl⟩ := Option.map_eq_some_iff.mp hstep
      exact hending hreactor hlive
    | recv k =>
      obtain ⟨-, hsome⟩ := Option.ite_none_right_eq_some.mp hstep
      obtain ⟨pool, -, rfl⟩ := Option.map_eq_some_iff.mp hsome
      exact hlive
    | receiver event =>
      change Connection.step pb sessionId peerSessionId s (.receiver event) = some s' at hstep
      unfold Connection.step at hstep
      split at hstep
      · next heq => cases heq
      · next heq => cases heq
      · split at hstep
        · cases hstep
        · obtain ⟨pool, -, rfl⟩ := Option.map_eq_some_iff.mp hstep
          exact hlive
      · obtain ⟨pool, -, rfl⟩ := Option.map_eq_some_iff.mp hstep
        exact hlive
  · obtain ⟨emitted, stored, hflows⟩ := h.resolve_left hlive
    cases event with
    | sender event =>
      obtain ⟨reactor, hreactor, rfl⟩ := Option.map_eq_some_iff.mp hstep
      obtain ⟨emitted', hflows'⟩ := hflows.sender horderly.1 horderly.2 hreactor
      exact .inr ⟨emitted', stored, hflows'⟩
    | recv k =>
      obtain ⟨-, hsome⟩ := Option.ite_none_right_eq_some.mp hstep
      obtain ⟨pool, hpool, rfl⟩ := Option.map_eq_some_iff.mp hsome
      cases hpool
      exact .inr ⟨emitted, stored, hflows.recv k⟩
    | receiver event =>
      obtain ⟨hfirst, hfinishes⟩ := horderly
      change Connection.step pb sessionId peerSessionId s (.receiver event) = some s' at hstep
      unfold Connection.step at hstep
      split at hstep
      · next heq => cases heq
      · next heq => cases heq
      · next id chunk heq =>
        cases heq
        split at hstep
        · cases hstep
        · next hid =>
          obtain ⟨pool, hpool, rfl⟩ := Option.map_eq_some_iff.mp hstep
          obtain ⟨stored', hflows'⟩ := intact_receiver hflows hlive hfirst hfinishes
            (fun id' chunk' heq => by cases heq; exact hid) hpool
          have hnone : handlerCalls pb peerSessionId s.pool (.receive id chunk) = [] := rfl
          rw [hnone, List.append_nil] at hflows'
          exact .inr ⟨emitted, stored', hflows'⟩
      · next hreceive heq =>
        cases heq
        obtain ⟨pool, hpool, rfl⟩ := Option.map_eq_some_iff.mp hstep
        obtain ⟨stored', hflows'⟩ := intact_receiver hflows hlive hfirst hfinishes
          (fun id chunk heq => (hreceive id chunk heq).elim) hpool
        exact .inr ⟨emitted, stored', hflows'⟩

theorem intact_of_reaches
    (h : (connection pb n sessionId peerSessionId).Reaches (Orderly pb sessionId peerSessionId) s) :
    Intact pb sessionId peerSessionId s := by
  refine h.invariant ?_ fun _ _ _ hs horderly hstep => intact_step hs horderly hstep
  intro s hs
  obtain ⟨hreactor, hreceived, hhandled, hpool⟩ := hs
  obtain ⟨reactor, received, pool, handled⟩ := s
  cases hreactor
  cases hreceived
  cases hhandled
  cases hpool
  refine .inr ⟨[], 0, ⟨rfl, nofun, ⟨nofun, nofun⟩, ?_, List.prefix_rfl, InOrder.init _, Stores.init _,
    rfl, rfl, 0, [], .new (by decide), ?_, rfl⟩⟩
  · exact .of_intact (.idle (.new (by decide)) rfl rfl)
  · exact ⟨Nat.le_refl 0, rfl, List.prefix_rfl, nofun⟩

/-- As long as the session is neither marked nor handed to the disconnect handler, the connection flows. -/
theorem flows_of_reaches
    (h : (connection pb n sessionId peerSessionId).Reaches (Orderly pb sessionId peerSessionId) s)
    (hwaiting : (s.reactor.sessions sessionId).m_isWaitingDisconnect = false)
    (hdisconnect : (s.reactor.sessions sessionId).disconnectHandled = false) :
    ∃ emitted stored, Flows pb sessionId peerSessionId s emitted stored := by
  refine (intact_of_reaches h).resolve_left fun hending => ?_
  cases hending with
  | inl hmarked =>
    rw [hwaiting] at hmarked
    cases hmarked
  | inr hgone =>
    rw [hdisconnect] at hgone
    cases hgone

theorem Flows.handled_begins {emitted : List Emitted} {stored : ℕ}
    (h : Flows pb sessionId peerSessionId s emitted stored) :
    s.handled <+: emitted.map (call pb peerSessionId) := by
  obtain ⟨-, -, k, left, -, -, hhandled⟩ := h.decoded
  rw [hhandled]
  exact (List.take_prefix k emitted).map _

/-- The handler has been called for everything when all bytes are received and stored. -/
theorem Flows.handled_eq {emitted : List Emitted} {stored : ℕ}
    (h : Flows pb sessionId peerSessionId s emitted stored)
    (hreceived : s.received.flatten = (s.reactor.sessions sessionId).messages.flatten)
    (hnone : ∀ t, ¬ Waiting s.pool peerSessionId t) : s.handled = emitted.map (call pb peerSessionId) := by
  obtain ⟨-, -, k, left, -, hsplits, hhandled⟩ := h.decoded
  have hstored : stored = s.received.length := by
    refine Nat.le_antisymm h.stores.le_length (Nat.not_lt.mp fun hlt => ?_)
    obtain ⟨t, ht, -⟩ := h.stores.waiting stored (Nat.le_refl _) hlt
    exact hnone t ht
  have hall : (s.received.take stored).flatten =
      Packet.stream (emitted.map (Emitted.packet pb)) := by
    rw [hstored, List.take_length, hreceived, h.messages, stream_packets]
  rw [hall] at hsplits
  have hk := splits_complete hsplits
  rw [List.length_map] at hk
  rw [hhandled, hk, List.take_length]

end Runs

end DistributedNetwork.Delivery
