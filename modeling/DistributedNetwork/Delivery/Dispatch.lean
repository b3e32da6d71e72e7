import DistributedNetwork.Delivery.Connection
import DistributedNetwork.Library.WorkQueue

/-!
# From the packet handler to the handlers of the packets

A decode worker hands each packet to one of two processors.  A module message goes to a pool of threads,
which ask for the handler of the module; any other packet goes to a single thread, which looks up the handler
of its type.  Both queues are first in, first out for each decode worker.

* `Service` — a connection and the two processors, the calls of the handlers included;
* `Accounted` — the packets of the session that wait, are being handled or have been handled are **those**
  that were decoded, whatever the numbers of workers and threads;
* `dispatches` — in every orderly run the handlers are called for the packets that were sent, **once each**,
  and for all of them in the end;
* `dispatches_in_order` — with **one** decode worker the thread of the service calls its handlers in the order
  in which the packets were sent.
-/

namespace DistributedNetwork.Delivery

open DistributedNetwork.Buffer DistributedNetwork.Library DistributedNetwork.Decoding
open DistributedNetwork.Sending (SessionId c_p2pSessionWriteBufferSize)

abbrev NodeId := String

/-- A call of the packet handler that the decode workers have. -/
abbrev HandlerCall := Delivered PayloadObject

/-- A call of the handler that a module has registered. -/
structure ModuleCall where
  moduleId : ModuleID
  nodeId : NodeId
  payload : List Byte
  deriving DecidableEq

/-- A node with `n` decode workers and `m` threads for module messages. -/
structure Service (n m : ℕ) where
  connection : Connection n
  sessionServiceDataProcessor : WorkQueue (Fin n) HandlerCall 1
  sessionModuleDataProcessor : WorkQueue (Fin n) HandlerCall m
  serviceCalls : List HandlerCall
  moduleCalls : List (SessionId × ModuleCall)

inductive ServiceEvent (n m : ℕ) where
  | connection (event : ConnectionEvent n)
  /-- a decode worker calls the packet handler for another session -/
  | addPacket (w : Fin n) (packet : HandlerCall)
  /-- the thread of the service takes a packet of decode worker `w`, and calls the handler -/
  | serviceTake (w : Fin n)
  | serviceRun
  /-- a thread of the pool takes a task of decode worker `w`, and runs it; `p2pSession` is the node id of
  the session, if that is still there -/
  | moduleTake (thread : Fin m) (w : Fin n)
  | moduleRun (thread : Fin m) (p2pSession : Option NodeId)

variable {n m : ℕ}

/-- `m_packetHandlers` of the service's processor, after `P2PService::init`. -/
def m_packetHandlers : List PacketType :=
  [.PT_HeartBeat, .PT_ClientInfo, .PT_ClientInfoReply, .PT_HeartBeatReply]

def isModuleMessage (packet : HandlerCall) : Bool :=
  packet.header.m_packetType = PacketType.PT_ModuleMessage.code

/-- The handler that is called; a packet of any other type is logged. -/
def serviceHandler (packet : HandlerCall) : List HandlerCall :=
  if packet.header.m_packetType ∈ m_packetHandlers.map PacketType.code then [packet] else []

/-- The handler of `PT_ModuleMessage`.  The cast of a null pointer is a null pointer, and its payload is asked
for. -/
def moduleHandler (modulePacketHandler : ModuleID → Bool) (p2pSession : Option NodeId)
    (packet : HandlerCall) : Option (List ModuleCall) :=
  match p2pSession with
  | none => some []
  | some nodeId =>
    if modulePacketHandler packet.header.m_moduleId = true then
      match packet.payload with
      | some (.moduleMessage payload) => some [⟨packet.header.m_moduleId, nodeId, payload⟩]
      | _ => none
    else some []

/-- The calls of the packet handler, with the worker that makes them. -/
def packetHandlerCalls (pb : Protobuf) (peerSessionId : SessionId) (s : Connection n) :
    ConnectionEvent n → List (Fin n × HandlerCall)
  | .receiver (.run w) => (handlerCalls pb peerSessionId s.pool (.run w)).map fun packet => (w, packet)
  | _ => []

namespace Service

/-- The packet handler that `P2PService::init` sets, for one call after the other. -/
def addPackets (s : Service n m) (packets : List (Fin n × HandlerCall)) : Service n m :=
  { s with
    sessionServiceDataProcessor :=
      s.sessionServiceDataProcessor.push (packets.filter fun x => !isModuleMessage x.2)
    sessionModuleDataProcessor :=
      s.sessionModuleDataProcessor.push (packets.filter fun x => isModuleMessage x.2) }

def serviceRun (s : Service n m) : Option (Service n m) :=
  match s.sessionServiceDataProcessor.taken WorkQueue.only with
  | none => none
  | some (_, packet) =>
    (s.sessionServiceDataProcessor.finish WorkQueue.only).map fun processor =>
      { s with
        sessionServiceDataProcessor := processor
        serviceCalls := s.serviceCalls ++ serviceHandler packet }

def moduleRun (modulePacketHandler : ModuleID → Bool) (s : Service n m) (thread : Fin m)
    (p2pSession : Option NodeId) : Option (Service n m) :=
  match s.sessionModuleDataProcessor.taken thread with
  | none => none
  | some (_, packet) =>
    (moduleHandler modulePacketHandler p2pSession packet).bind fun calls =>
      (s.sessionModuleDataProcessor.finish thread).map fun processor =>
        { s with
          sessionModuleDataProcessor := processor
          moduleCalls := s.moduleCalls ++ calls.map fun call => (packet.sessionId, call) }

def step (pb : Protobuf) (modulePacketHandler : ModuleID → Bool) (sessionId peerSessionId : SessionId)
    (s : Service n m) : ServiceEvent n m → Option (Service n m)
  | .connection event =>
    (s.connection.step pb sessionId peerSessionId event).map fun connection =>
      { s with connection := connection }.addPackets
        (packetHandlerCalls pb peerSessionId s.connection event)
  | .addPacket w packet =>
    if packet.sessionId = peerSessionId then none else some (s.addPackets [(w, packet)])
  | .serviceTake w =>
    (s.sessionServiceDataProcessor.take WorkQueue.only w).map fun processor =>
      { s with sessionServiceDataProcessor := processor }
  | .serviceRun => s.serviceRun
  | .moduleTake thread w =>
    (s.sessionModuleDataProcessor.take thread w).map fun processor =>
      { s with sessionModuleDataProcessor := processor }
  | .moduleRun thread p2pSession => s.moduleRun modulePacketHandler thread p2pSession

end Service

/-- A connection between session `sessionId` of one node and `peerSessionId` of the other, where the modules
with a `modulePacketHandler` have registered. -/
def service (pb : Protobuf) (modulePacketHandler : ModuleID → Bool) (n m : ℕ)
    (sessionId peerSessionId : SessionId) : TransitionSystem (Service n m) (ServiceEvent n m) where
  init s := (connection pb n sessionId peerSessionId).init s.connection ∧
    s.sessionServiceDataProcessor = .empty ∧ s.sessionModuleDataProcessor = .empty ∧
    s.serviceCalls = [] ∧ s.moduleCalls = []
  step := Service.step pb modulePacketHandler sessionId peerSessionId

/-- The run condition: the connection is orderly, and the session is there, with the node id `nodeId`, when a
message of it is handled. -/
def Attended (pb : Protobuf) (sessionId peerSessionId : SessionId) (nodeId : NodeId) (s : Service n m) :
    ServiceEvent n m → Prop
  | .connection event => Orderly pb sessionId peerSessionId s.connection event
  | .moduleRun thread p2pSession => ∀ w packet,
      s.sessionModuleDataProcessor.taken thread = some (w, packet) → packet.sessionId = peerSessionId →
        p2pSession = some nodeId
  | _ => True

/-! ### Whose packets they are -/

section Names

variable {pb : Protobuf} {peerSessionId : SessionId}

theorem decodeLoop_sessionId (decoder : SessionDataDecoder PayloadObject) (sessionId fuel : ℕ)
    {readBuffer : RingBuffer} {result : RingBuffer × List HandlerCall}
    (h : decoder.decodeLoop sessionId fuel readBuffer = some result) :
    ∀ packet ∈ result.2, packet.sessionId = sessionId := by
  induction fuel generalizing readBuffer result with
  | zero => cases h
  | succ fuel ih =>
    rw [SessionDataDecoder.decodeLoop] at h
    split at h
    · split at h
      · cases h
        exact List.forall_mem_nil _
      · cases h
      · next decoded _ =>
        obtain ⟨rest, hrest, rfl⟩ := Option.map_eq_some_iff.mp h
        intro packet hpacket
        cases List.mem_append.mp hpacket with
        | inl hnow =>
          unfold SessionDataDecoder.deliver at hnow
          split at hnow
          · rw [List.mem_singleton.mp hnow]
          · cases hnow
        | inr hlater => exact ih hrest packet hlater
    · cases h
      exact List.forall_mem_nil _

/-- A task keeps the id of its session, and calls the handler with it. -/
theorem writeAndDecode_sessionId (decoder : SessionDataDecoder PayloadObject) {session : P2PSession}
    {buffer : List Byte} {result : P2PSession × List HandlerCall}
    (h : decoder.writeAndDecode session buffer = some result) :
    result.1.m_sessionId = session.m_sessionId ∧
      ∀ packet ∈ result.2, packet.sessionId = session.m_sessionId := by
  unfold SessionDataDecoder.writeAndDecode at h
  split at h
  · cases h
  · cases h
  · split at h
    · cases h
      exact ⟨rfl, nofun⟩
    · obtain ⟨looped, hlooped, rfl⟩ := Option.map_eq_some_iff.mp h
      exact ⟨rfl, decodeLoop_sessionId decoder _ _ hlooped⟩

/-- Every session of the pool has its own id. -/
def Named (s : Pool n) : Prop :=
  ∀ id, (s.sessions id).m_sessionId = id

theorem Named.step {s s' : Pool n} (h : Named s) {event : PoolEvent n}
    (hstep : s.step (sessionDataDecoder pb) event = some s') : Named s' := by
  cases event with
  | receive id chunk =>
    cases hstep
    exact h
  | run w =>
    unfold Pool.step at hstep
    dsimp only at hstep
    split at hstep
    · next task hw =>
      unfold Pool.runTask at hstep
      obtain ⟨result, hresult, rfl⟩ := Option.map_eq_some_iff.mp hstep
      intro id
      show (Function.update s.sessions task.sessionId result.1 id).m_sessionId = id
      by_cases hid : id = task.sessionId
      · rw [hid, Function.update_self, (writeAndDecode_sessionId _ hresult).1, h]
      · rw [Function.update_of_ne hid, h]
    · cases hstep
  | dequeue w | giveUp w | lock w | unlock w =>
    unfold Pool.step at hstep
    dsimp only at hstep
    split at hstep
    · first
        | cases hstep
          exact h
        | obtain ⟨-, heq⟩ := Option.ite_none_right_eq_some.mp hstep
          cases heq
          exact h
    · cases hstep

theorem handlerCalls_sessionId {s : Pool n} (h : Named s) (event : PoolEvent n) :
    ∀ packet ∈ handlerCalls pb peerSessionId s event, packet.sessionId = peerSessionId := by
  intro packet hpacket
  unfold handlerCalls at hpacket
  split at hpacket
  · split at hpacket
    · next task hw =>
      split at hpacket
      · next hown =>
        cases hresult : (sessionDataDecoder pb).writeAndDecode (s.sessions task.sessionId) task.chunk with
        | none =>
          rw [hresult] at hpacket
          cases hpacket
        | some result =>
          rw [hresult] at hpacket
          rw [(writeAndDecode_sessionId _ hresult).2 packet hpacket, h, hown]
      · cases hpacket
    · cases hpacket
  · cases hpacket

end Names

/-! ### Nothing is lost between the decoder and the handlers -/

section Accounting

variable {k : ℕ} {pb : Protobuf} {modulePacketHandler : ModuleID → Bool}
variable {sessionId peerSessionId : SessionId} {s s' : Service n m}

/-- The packets of the session that a processor has got so far. -/
def own (peerSessionId : SessionId) (q : WorkQueue (Fin n) HandlerCall k) : Multiset HandlerCall :=
  (q.contents.filter fun x => x.2.sessionId = peerSessionId).map Prod.snd

/-- Those that it has handled, in order. -/
def ownFinished (peerSessionId : SessionId) (q : WorkQueue (Fin n) HandlerCall k) : List HandlerCall :=
  (q.finished.filter fun x => x.2.sessionId = peerSessionId).map Prod.snd

theorem own_push (q : WorkQueue (Fin n) HandlerCall k) (xs : List (Fin n × HandlerCall)) :
    own peerSessionId (q.push xs) =
      own peerSessionId q + (xs.filter fun x => x.2.sessionId = peerSessionId).map Prod.snd := by
  unfold own
  rw [WorkQueue.contents_push, Multiset.filter_add, Multiset.map_add, Multiset.filter_coe, Multiset.map_coe]

theorem ownFinished_le (q : WorkQueue (Fin n) HandlerCall k) :
    (ownFinished peerSessionId q : Multiset HandlerCall) ≤ own peerSessionId q := by
  unfold own ownFinished
  rw [← Multiset.map_coe, ← Multiset.filter_coe]
  exact Multiset.map_le_map (Multiset.filter_le_filter _ q.finished_le_contents)

theorem ownFinished_of_idle {q : WorkQueue (Fin n) HandlerCall k} (h : q.Idle) :
    own peerSessionId q = ownFinished peerSessionId q := by
  unfold own ownFinished
  rw [h.contents, Multiset.filter_coe, Multiset.map_coe]

/-- What the processors have got of the session is what was decoded, and the service's thread has called the
handlers for what it has taken. -/
structure Accounted (peerSessionId : SessionId) (s : Service n m) : Prop where
  named : Named s.connection.pool
  serviceData : own peerSessionId s.sessionServiceDataProcessor =
    s.connection.handled.filter fun packet => !isModuleMessage packet
  moduleData : own peerSessionId s.sessionModuleDataProcessor = s.connection.handled.filter isModuleMessage
  serviceCalls : s.serviceCalls =
    (s.sessionServiceDataProcessor.finished.map Prod.snd).flatMap serviceHandler

/-- A step of the connection adds the calls of its decode worker. -/
theorem connection_step {c c' : Connection n} {event : ConnectionEvent n} (h : Named c.pool)
    (hstep : c.step pb sessionId peerSessionId event = some c') :
    Named c'.pool ∧
      c'.handled = c.handled ++ (packetHandlerCalls pb peerSessionId c event).map Prod.snd ∧
      ∀ x ∈ packetHandlerCalls pb peerSessionId c event, x.2.sessionId = peerSessionId := by
  cases event with
  | sender event =>
    obtain ⟨reactor, -, rfl⟩ := Option.map_eq_some_iff.mp hstep
    exact ⟨h, (List.append_nil _).symm, nofun⟩
  | recv size =>
    obtain ⟨-, hsome⟩ := Option.ite_none_right_eq_some.mp hstep
    obtain ⟨pool, hpool, rfl⟩ := Option.map_eq_some_iff.mp hsome
    exact ⟨h.step hpool, (List.append_nil _).symm, nofun⟩
  | receiver event =>
    cases event with
    | receive id chunk =>
      unfold Connection.step at hstep
      dsimp only at hstep
      split at hstep
      · cases hstep
      · obtain ⟨pool, hpool, rfl⟩ := Option.map_eq_some_iff.mp hstep
        exact ⟨h.step hpool, (List.append_nil _).symm, nofun⟩
    | run w =>
      obtain ⟨pool, hpool, rfl⟩ := Option.map_eq_some_iff.mp hstep
      refine ⟨h.step hpool, ?_, ?_⟩
      · show _ = c.handled ++ ((handlerCalls pb peerSessionId c.pool (.run w)).map fun packet =>
          (w, packet)).map Prod.snd
        rw [List.map_map]
        exact congrArg _ (List.map_id _).symm
      · intro x hx
        obtain ⟨packet, hpacket, rfl⟩ := List.mem_map.mp hx
        exact handlerCalls_sessionId h _ packet hpacket
    | dequeue w | giveUp w | lock w | unlock w =>
      obtain ⟨pool, hpool, rfl⟩ := Option.map_eq_some_iff.mp hstep
      exact ⟨h.step hpool, rfl, nofun⟩

/-- Packets of the session go to the processors they are for. -/
theorem own_filter {xs : List (Fin n × HandlerCall)} (h : ∀ x ∈ xs, x.2.sessionId = peerSessionId)
    (p : HandlerCall → Bool) :
    ((xs.filter fun x => p x.2).filter fun x => x.2.sessionId = peerSessionId).map Prod.snd =
      (xs.map Prod.snd).filter p := by
  have hall : ((xs.filter fun x => p x.2).filter fun x => x.2.sessionId = peerSessionId) =
      xs.filter fun x => p x.2 := by
    apply List.filter_eq_self.mpr
    intro x hx
    exact decide_eq_true (h x (List.mem_of_mem_filter hx))
  rw [hall, List.filter_map]
  rfl

theorem serviceRun_cases (h : s.serviceRun = some s') : ∃ w packet processor,
    s.sessionServiceDataProcessor.taken WorkQueue.only = some (w, packet) ∧
    s.sessionServiceDataProcessor.finish WorkQueue.only = some processor ∧
    processor.finished = s.sessionServiceDataProcessor.finished ++ [(w, packet)] ∧
    s' = { s with
      sessionServiceDataProcessor := processor
      serviceCalls := s.serviceCalls ++ serviceHandler packet } := by
  unfold Service.serviceRun at h
  split at h
  · cases h
  · next w packet htaken =>
    obtain ⟨processor, hprocessor, rfl⟩ := Option.map_eq_some_iff.mp h
    refine ⟨w, packet, processor, htaken, hprocessor, ?_, rfl⟩
    obtain ⟨x, hx, rfl⟩ := Option.map_eq_some_iff.mp hprocessor
    rw [htaken] at hx
    cases hx
    rfl

theorem moduleRun_cases {thread : Fin m} {p2pSession : Option NodeId}
    (h : s.moduleRun modulePacketHandler thread p2pSession = some s') : ∃ w packet calls processor,
    s.sessionModuleDataProcessor.taken thread = some (w, packet) ∧
    moduleHandler modulePacketHandler p2pSession packet = some calls ∧
    s.sessionModuleDataProcessor.finish thread = some processor ∧
    processor.finished = s.sessionModuleDataProcessor.finished ++ [(w, packet)] ∧
    s' = { s with
      sessionModuleDataProcessor := processor
      moduleCalls := s.moduleCalls ++ calls.map fun call => (packet.sessionId, call) } := by
  unfold Service.moduleRun at h
  split at h
  · cases h
  · next w packet htaken =>
    obtain ⟨calls, hcalls, hsome⟩ := Option.bind_eq_some_iff.mp h
    obtain ⟨processor, hprocessor, rfl⟩ := Option.map_eq_some_iff.mp hsome
    refine ⟨w, packet, calls, processor, htaken, hcalls, hprocessor, ?_, rfl⟩
    obtain ⟨x, hx, rfl⟩ := Option.map_eq_some_iff.mp hprocessor
    rw [htaken] at hx
    cases hx
    rfl

theorem take_finished {q q' : WorkQueue (Fin n) HandlerCall k} {thread : Fin k} {w : Fin n}
    (h : q.take thread w = some q') : q'.finished = q.finished := by
  unfold WorkQueue.take at h
  split at h
  · cases h
  · obtain ⟨first, -, rfl⟩ := Option.map_eq_some_iff.mp h
    rfl

/-- **Step lemma.** -/
theorem Accounted.step (h : Accounted peerSessionId s) {event : ServiceEvent n m}
    (hstep : (service pb modulePacketHandler n m sessionId peerSessionId).step s event = some s') :
    Accounted peerSessionId s' := by
  cases event with
  | connection event =>
    obtain ⟨c', hc', rfl⟩ := Option.map_eq_some_iff.mp hstep
    obtain ⟨hnamed, hhandled, hown⟩ := connection_step h.named hc'
    refine ⟨hnamed, ?_, ?_, h.serviceCalls⟩
    · refine (own_push _ _).trans ?_
      show _ = ((c'.handled.filter fun packet => !isModuleMessage packet : List HandlerCall) :
        Multiset HandlerCall)
      rw [h.serviceData, own_filter hown fun packet => !isModuleMessage packet, hhandled, List.filter_append,
        ← Multiset.coe_add]
    · refine (own_push _ _).trans ?_
      show _ = ((c'.handled.filter isModuleMessage : List HandlerCall) : Multiset HandlerCall)
      rw [h.moduleData, own_filter hown isModuleMessage, hhandled, List.filter_append, ← Multiset.coe_add]
  | addPacket w packet =>
    obtain ⟨hother, heq⟩ := Option.ite_none_left_eq_some.mp hstep
    cases heq
    have hnone (p : HandlerCall → Bool) : ((([(w, packet)] : List (Fin n × HandlerCall)).filter fun x =>
        p x.2).filter fun x => x.2.sessionId = peerSessionId).map Prod.snd = [] := by
      rw [List.map_eq_nil_iff, List.filter_eq_nil_iff]
      intro x hx
      rw [List.mem_singleton.mp (List.mem_of_mem_filter hx)]
      simpa using hother
    refine ⟨h.named, ?_, ?_, h.serviceCalls⟩
    · refine (own_push _ _).trans ?_
      rw [hnone fun packet => !isModuleMessage packet, Multiset.coe_nil, add_zero]
      exact h.serviceData
    · refine (own_push _ _).trans ?_
      rw [hnone isModuleMessage, Multiset.coe_nil, add_zero]
      exact h.moduleData
  | serviceTake w =>
    obtain ⟨processor, hprocessor, rfl⟩ := Option.map_eq_some_iff.mp hstep
    refine ⟨h.named, ?_, h.moduleData, ?_⟩
    · show own peerSessionId processor = _
      rw [own, WorkQueue.contents_take hprocessor]
      exact h.serviceData
    · show s.serviceCalls = (processor.finished.map Prod.snd).flatMap serviceHandler
      rw [take_finished hprocessor]
      exact h.serviceCalls
  | serviceRun =>
    obtain ⟨w, packet, processor, -, hprocessor, hfinished, rfl⟩ := serviceRun_cases hstep
    refine ⟨h.named, ?_, h.moduleData, ?_⟩
    · show own peerSessionId processor = _
      rw [own, WorkQueue.contents_finish hprocessor]
      exact h.serviceData
    · show s.serviceCalls ++ serviceHandler packet =
        (processor.finished.map Prod.snd).flatMap serviceHandler
      rw [hfinished, h.serviceCalls, List.map_append, List.flatMap_append]
      simp
  | moduleTake thread w =>
    obtain ⟨processor, hprocessor, rfl⟩ := Option.map_eq_some_iff.mp hstep
    refine ⟨h.named, h.serviceData, ?_, h.serviceCalls⟩
    show own peerSessionId processor = _
    rw [own, WorkQueue.contents_take hprocessor]
    exact h.moduleData
  | moduleRun thread p2pSession =>
    obtain ⟨w, packet, calls, processor, -, -, hprocessor, -, rfl⟩ := moduleRun_cases hstep
    refine ⟨h.named, h.serviceData, ?_, h.serviceCalls⟩
    show own peerSessionId processor = _
    rw [own, WorkQueue.contents_finish hprocessor]
    exact h.moduleData

theorem accounted_of_init (h : (service pb modulePacketHandler n m sessionId peerSessionId).init s) :
    Accounted peerSessionId s := by
  obtain ⟨⟨-, -, hhandled, hpool⟩, hservice, hmodule, hserviceCalls, -⟩ := h
  refine ⟨?_, ?_, ?_, ?_⟩
  · rw [hpool]
    exact fun id => rfl
  · rw [hservice, hhandled, own, WorkQueue.contents_empty]
    rfl
  · rw [hmodule, hhandled, own, WorkQueue.contents_empty]
    rfl
  · rw [hserviceCalls, hservice]
    rfl

end Accounting

/-! ### What the handlers are called for -/

section Calls

variable {pb : Protobuf} {modulePacketHandler : ModuleID → Bool}
variable {sessionId peerSessionId : SessionId} {nodeId : NodeId} {s s' : Service n m}

/-- The calls that are due for a packet of a session that is there. -/
def moduleCallsOf (modulePacketHandler : ModuleID → Bool) (nodeId : NodeId) (packet : HandlerCall) :
    List ModuleCall :=
  (moduleHandler modulePacketHandler (some nodeId) packet).getD []

/-- The calls that are due for what was sent. -/
def moduleCallsFor (modulePacketHandler : ModuleID → Bool) (nodeId : NodeId) : Emitted → List ModuleCall
  | .moduleMessage moduleId payload =>
    if modulePacketHandler moduleId = true then [⟨moduleId, nodeId, payload⟩] else []
  | _ => []

def isModule : Emitted → Bool
  | .moduleMessage _ _ => true
  | _ => false

theorem isModuleMessage_call (e : Emitted) : isModuleMessage (call pb peerSessionId e) = isModule e := by
  cases e <;> rfl

/-- The packets that can be decoded have a handler. -/
theorem serviceHandler_call {e : Emitted} (h : Sent pb e) (hmodule : isModule e = false) :
    serviceHandler (call pb peerSessionId e) = [call pb peerSessionId e] := by
  obtain ⟨-, hbeat | ⟨htype, -⟩⟩ := h
  · cases e <;> first | rfl | cases hbeat
  · cases e <;> first | rfl | cases htype; done | cases hmodule

theorem moduleCallsOf_call (e : Emitted) (hmodule : isModule e = true) :
    moduleCallsOf modulePacketHandler nodeId (call pb peerSessionId e) =
      moduleCallsFor modulePacketHandler nodeId e := by
  cases e with
  | moduleMessage moduleId payload =>
    show Option.getD (if modulePacketHandler moduleId = true
        then some [ModuleCall.mk moduleId nodeId payload] else some []) [] =
      if modulePacketHandler moduleId = true then [ModuleCall.mk moduleId nodeId payload] else []
    split <;> rfl
  | _ => cases hmodule

/-- The calls of the modules for packets of the session are those that are due. -/
def ModulesCalled (modulePacketHandler : ModuleID → Bool) (peerSessionId : SessionId) (nodeId : NodeId)
    (s : Service n m) : Prop :=
  (s.moduleCalls.filter fun x => x.1 = peerSessionId).map Prod.snd =
    (ownFinished peerSessionId s.sessionModuleDataProcessor).flatMap
      (moduleCallsOf modulePacketHandler nodeId)

theorem ModulesCalled.step (h : ModulesCalled modulePacketHandler peerSessionId nodeId s)
    {event : ServiceEvent n m} (hattended : Attended pb sessionId peerSessionId nodeId s event)
    (hstep : (service pb modulePacketHandler n m sessionId peerSessionId).step s event = some s') :
    ModulesCalled modulePacketHandler peerSessionId nodeId s' := by
  cases event with
  | connection event =>
    obtain ⟨c', -, rfl⟩ := Option.map_eq_some_iff.mp hstep
    exact h
  | addPacket w packet =>
    obtain ⟨-, heq⟩ := Option.ite_none_left_eq_some.mp hstep
    cases heq
    exact h
  | serviceTake w =>
    obtain ⟨processor, -, rfl⟩ := Option.map_eq_some_iff.mp hstep
    exact h
  | serviceRun =>
    obtain ⟨w, packet, processor, -, -, -, rfl⟩ := serviceRun_cases hstep
    exact h
  | moduleTake thread w =>
    obtain ⟨processor, hprocessor, rfl⟩ := Option.map_eq_some_iff.mp hstep
    show _ = ((processor.finished.filter _).map Prod.snd).flatMap _
    rw [take_finished hprocessor]
    exact h
  | moduleRun thread p2pSession =>
    obtain ⟨w, packet, calls, processor, htaken, hcalls, -, hfinished, rfl⟩ := moduleRun_cases hstep
    show ((s.moduleCalls ++ calls.map fun call => (packet.sessionId, call)).filter _).map Prod.snd =
      ((processor.finished.filter _).map Prod.snd).flatMap _
    rw [hfinished, List.filter_append, List.map_append, List.filter_append, List.map_append,
      List.flatMap_append, h, ownFinished]
    congr 1
    by_cases hown : packet.sessionId = peerSessionId
    · have hsession := hattended w packet htaken hown
      rw [hsession] at hcalls
      rw [List.filter_cons, if_pos (decide_eq_true hown), List.filter_nil, List.map_singleton,
        List.flatMap_singleton, moduleCallsOf, hcalls, Option.getD_some]
      have hall : (calls.map fun call => (packet.sessionId, call)).filter
          (fun x => decide (x.1 = peerSessionId)) = calls.map fun call => (packet.sessionId, call) := by
        apply List.filter_eq_self.mpr
        intro x hx
        obtain ⟨call, -, rfl⟩ := List.mem_map.mp hx
        exact decide_eq_true hown
      rw [hall, List.map_map]
      exact List.map_id _
    · rw [List.filter_cons, if_neg (by simpa using hown), List.filter_nil, List.map_nil, List.flatMap_nil,
        List.map_eq_nil_iff, List.filter_eq_nil_iff]
      intro x hx
      obtain ⟨call, -, rfl⟩ := List.mem_map.mp hx
      simpa using hown

/-- **Run lemma.** -/
theorem called_of_reaches
    (h : (service pb modulePacketHandler n m sessionId peerSessionId).Reaches
      (Attended pb sessionId peerSessionId nodeId) s) :
    (connection pb n sessionId peerSessionId).Reaches (Orderly pb sessionId peerSessionId) s.connection ∧
      Accounted peerSessionId s ∧ ModulesCalled modulePacketHandler peerSessionId nodeId s := by
  induction h with
  | init hinit =>
    refine ⟨.init hinit.1, accounted_of_init hinit, ?_⟩
    obtain ⟨-, -, hmodule, -, hcalls⟩ := hinit
    rw [ModulesCalled, hmodule, hcalls]
    rfl
  | @step s s' event _ hattended hstep ih =>
    obtain ⟨hconnection, haccounted, hcalled⟩ := ih
    refine ⟨?_, haccounted.step hstep, hcalled.step hattended hstep⟩
    cases event with
    | connection event =>
      obtain ⟨c', hc', rfl⟩ := Option.map_eq_some_iff.mp hstep
      exact hconnection.step hattended hc'
    | addPacket w packet =>
      obtain ⟨-, heq⟩ := Option.ite_none_left_eq_some.mp hstep
      cases heq
      exact hconnection
    | serviceTake w =>
      obtain ⟨processor, -, rfl⟩ := Option.map_eq_some_iff.mp hstep
      exact hconnection
    | serviceRun =>
      obtain ⟨w, packet, processor, -, -, -, rfl⟩ := serviceRun_cases hstep
      exact hconnection
    | moduleTake thread w =>
      obtain ⟨processor, -, rfl⟩ := Option.map_eq_some_iff.mp hstep
      exact hconnection
    | moduleRun thread p2pSession =>
      obtain ⟨w, packet, calls, processor, -, -, -, -, rfl⟩ := moduleRun_cases hstep
      exact hconnection

/-- The service's calls for the session are calls for the packets it has finished. -/
theorem filter_serviceCalls (xs : List (Fin n × HandlerCall)) :
    ((xs.map Prod.snd).flatMap serviceHandler).filter (fun packet => packet.sessionId = peerSessionId) =
      ((xs.filter fun x => x.2.sessionId = peerSessionId).map Prod.snd).flatMap serviceHandler := by
  induction xs with
  | nil => rfl
  | cons x xs ih =>
    rw [List.map_cons, List.flatMap_cons, List.filter_append, ih, List.filter_cons]
    by_cases hown : x.2.sessionId = peerSessionId
    · rw [if_pos (decide_eq_true hown), List.map_cons, List.flatMap_cons]
      congr 1
      unfold serviceHandler
      split
      · simp [hown]
      · rfl
    · rw [if_neg (by simpa using hown)]
      have hnone : (serviceHandler x.2).filter (fun packet => packet.sessionId = peerSessionId) = [] := by
        unfold serviceHandler
        split
        · simp [hown]
        · rfl
      rw [hnone, List.nil_append]

theorem flatMap_eq_self {f : HandlerCall → List HandlerCall} {packets : List HandlerCall}
    (h : ∀ packet ∈ packets, f packet = [packet]) : packets.flatMap f = packets := by
  induction packets with
  | nil => rfl
  | cons packet packets ih =>
    rw [List.flatMap_cons, h packet List.mem_cons_self,
      ih fun other hother => h other (List.mem_cons_of_mem _ hother)]
    rfl

theorem filter_map_call (emitted : List Emitted) (p : HandlerCall → Bool) (q : Emitted → Bool)
    (h : ∀ e, p (call pb peerSessionId e) = q e) :
    (emitted.map (call pb peerSessionId)).filter p = (emitted.filter q).map (call pb peerSessionId) := by
  rw [List.filter_map]
  congr 1
  apply List.filter_congr
  intro e _
  exact h e

variable {emitted : List Emitted}

/-- What a processor has finished of the session is among what was sent. -/
theorem ownFinished_subperm {k : ℕ} {q : WorkQueue (Fin n) HandlerCall k} {handled : List HandlerCall}
    {p : HandlerCall → Bool} {p' : Emitted → Bool} (hown : own peerSessionId q = handled.filter p)
    (hbegins : handled <+: emitted.map (call pb peerSessionId))
    (hcall : ∀ e, p (call pb peerSessionId e) = p' e) :
    (ownFinished peerSessionId q).Subperm ((emitted.filter p').map (call pb peerSessionId)) := by
  have hle : (ownFinished peerSessionId q : Multiset HandlerCall) ≤ own peerSessionId q := ownFinished_le q
  rw [hown, Multiset.coe_le] at hle
  rw [← filter_map_call emitted p p' hcall]
  exact hle.trans (hbegins.sublist.filter p).subperm

/-- And all of it, when the processor is idle and everything was decoded. -/
theorem ownFinished_perm {k : ℕ} {q : WorkQueue (Fin n) HandlerCall k} {handled : List HandlerCall}
    {p : HandlerCall → Bool} {p' : Emitted → Bool} (hown : own peerSessionId q = handled.filter p)
    (hidle : q.Idle) (hall : handled = emitted.map (call pb peerSessionId))
    (hcall : ∀ e, p (call pb peerSessionId e) = p' e) :
    (ownFinished peerSessionId q).Perm ((emitted.filter p').map (call pb peerSessionId)) := by
  rw [ownFinished_of_idle hidle, hall, filter_map_call emitted p p' hcall] at hown
  exact Multiset.coe_eq_coe.mp hown

/-- Every finished packet of the service has had its handler called. -/
theorem serviceCalls_eq (h : Accounted peerSessionId s) (hsent : ∀ e ∈ emitted, Sent pb e)
    (hsubset : ownFinished peerSessionId s.sessionServiceDataProcessor ⊆
      (emitted.filter fun e => !isModule e).map (call pb peerSessionId)) :
    s.serviceCalls.filter (fun packet => packet.sessionId = peerSessionId) =
      ownFinished peerSessionId s.sessionServiceDataProcessor := by
  rw [h.serviceCalls, filter_serviceCalls]
  refine flatMap_eq_self fun packet hpacket => ?_
  obtain ⟨e, he, rfl⟩ := List.mem_map.mp (hsubset hpacket)
  obtain ⟨hmem, hmodule⟩ := List.mem_filter.mp he
  exact serviceHandler_call (hsent e hmem) (by simpa using hmodule)

/-- What is due to the modules. -/
theorem flatMap_moduleCallsOf (emitted : List Emitted) :
    ((emitted.filter isModule).map (call pb peerSessionId)).flatMap
        (moduleCallsOf modulePacketHandler nodeId) =
      emitted.flatMap (moduleCallsFor modulePacketHandler nodeId) := by
  induction emitted with
  | nil => rfl
  | cons e emitted ih =>
    rw [List.filter_cons, List.flatMap_cons, ← ih]
    split
    · next hmodule =>
      rw [List.map_cons, List.flatMap_cons, moduleCallsOf_call e hmodule]
    · next hmodule =>
      have hnone : moduleCallsFor modulePacketHandler nodeId e = [] := by
        cases e <;> first | rfl | exact absurd rfl hmodule
      rw [hnone, List.nil_append]

theorem subperm_flatMap {α β : Type} {xs ys : List α} (h : xs.Subperm ys) (f : α → List β) :
    (xs.flatMap f).Subperm (ys.flatMap f) := by
  obtain ⟨zs, hperm, hsublist⟩ := h
  exact ⟨zs.flatMap f, hperm.flatMap_right f, hsublist.flatMap f⟩

end Calls

/-- Everything that was sent is received and decoded, and both processors are idle. -/
structure Drained (sessionId peerSessionId : SessionId) (s : Service n m) : Prop where
  received : s.connection.received.flatten = (s.connection.reactor.sessions sessionId).messages.flatten
  stored : ∀ t, ¬ Waiting s.connection.pool peerSessionId t
  service : s.sessionServiceDataProcessor.Idle
  module : s.sessionModuleDataProcessor.Idle

/-- A module message and a heartbeat are sent, received in two chunks, decoded and handled. -/
theorem twoPackets_reaches : ∃ s : Service 1 2,
    (service sampleProtobuf (fun _ => true) 1 2 0 7).Reaches (Attended sampleProtobuf 0 7 "peer") s ∧
    (s.connection.reactor.sessions 0).m_isWaitingDisconnect = false ∧
    (s.connection.reactor.sessions 0).disconnectHandled = false ∧
    s.serviceCalls.length = 1 ∧ s.moduleCalls = [(7, ⟨.raft, "peer", [1, 2, 3]⟩)] := by
  have hsent : Sent sampleProtobuf (.moduleMessage .raft [1, 2, 3]) := ⟨trivial, .inr (by decide)⟩
  have hbeat : Sent sampleProtobuf .heartBeat := ⟨trivial, .inl rfl⟩
  have hstart : (service sampleProtobuf (fun _ => true) 1 2 0 7).Reaches
    (Attended sampleProtobuf 0 7 "peer") ⟨⟨.start c_p2pSessionWriteBufferSize, [], ⟨[], fun _ => .idle,
      fun sessionId => ⟨sessionId, .new c_p2pSessionReadBufferSize, false⟩, fun _ => 0, fun _ => []⟩, []⟩,
      .empty, .empty, [], []⟩ :=
    .init ⟨⟨rfl, rfl, rfl, rfl⟩, rfl, rfl, rfl, rfl⟩
  have hqueued := (hstart.step
      (a := ServiceEvent.connection (.sender (.sendData 0
        (Emitted.encode sampleProtobuf (.moduleMessage .raft [1, 2, 3])))))
      ⟨trivial, fun _ => ⟨_, hsent, rfl⟩⟩ rfl).step
    (a := ServiceEvent.connection (.sender (.sendData 0 (Emitted.encode sampleProtobuf .heartBeat))))
    ⟨trivial, fun _ => ⟨_, hbeat, rfl⟩⟩ rfl
  have hfirst := ((hqueued.step
      (a := ServiceEvent.connection (.sender .swapTasks)) ⟨trivial, trivial⟩ rfl).step
    (a := ServiceEvent.connection (.sender .handleSend)) ⟨trivial, trivial⟩ rfl).step
    (a := ServiceEvent.connection (.sender (.send (.accepted 17)))) ⟨nofun, trivial⟩ rfl
  have hsecond := (hfirst.step
      (a := ServiceEvent.connection (.sender .handleSend)) ⟨trivial, trivial⟩ rfl).step
    (a := ServiceEvent.connection (.sender (.send (.accepted 14)))) ⟨nofun, trivial⟩ rfl
  have hreceived := (hsecond.step (a := ServiceEvent.connection (.recv 10)) trivial rfl).step
    (a := ServiceEvent.connection (.recv 21)) trivial rfl
  have hlocked := (hreceived.step
      (a := ServiceEvent.connection (.receiver (.dequeue 0))) ⟨trivial, trivial⟩ rfl).step
    (a := ServiceEvent.connection (.receiver (.lock 0))) ⟨earliestFirst_single _ _, trivial⟩ rfl
  have hstored := (hlocked.step
      (a := ServiceEvent.connection (.receiver (.run 0))) ⟨trivial, fun task hw _ => by
        cases hw
        decide⟩ rfl).step
    (a := ServiceEvent.connection (.receiver (.unlock 0))) ⟨trivial, trivial⟩ rfl
  have hlocked' := (hstored.step
      (a := ServiceEvent.connection (.receiver (.dequeue 0))) ⟨trivial, trivial⟩ rfl).step
    (a := ServiceEvent.connection (.receiver (.lock 0))) ⟨earliestFirst_single _ _, trivial⟩ rfl
  have hdecoded := hlocked'.step
    (a := ServiceEvent.connection (.receiver (.run 0))) ⟨trivial, fun task hw _ => by
      cases hw
      decide⟩ rfl
  have hserviced := (hdecoded.step (a := ServiceEvent.serviceTake 0) trivial rfl).step
    (a := ServiceEvent.serviceRun) trivial rfl
  have hhandled := (hserviced.step (a := ServiceEvent.moduleTake 1 0) trivial rfl).step
    (a := ServiceEvent.moduleRun 1 (some "peer")) (fun _ _ _ _ => rfl) rfl
  exact ⟨_, hhandled, rfl, rfl, rfl, rfl⟩

section Order

variable {pb : Protobuf} {modulePacketHandler : ModuleID → Bool}
variable {sessionId peerSessionId : SessionId} {s s' : Service 1 m}

/-- The service's packets of the session are in line in the order in which they were decoded. -/
def InLine (peerSessionId : SessionId) (s : Service 1 m) : Prop :=
  (s.sessionServiceDataProcessor.line WorkQueue.only).filter
      (fun packet => packet.sessionId = peerSessionId) =
    s.connection.handled.filter fun packet => !isModuleMessage packet

theorem itemsOf_only {α : Type} (xs : List (Fin 1 × α)) :
    WorkQueue.itemsOf WorkQueue.only xs = xs.map Prod.snd := by
  unfold WorkQueue.itemsOf
  congr 1
  apply List.filter_eq_self.mpr
  intro x _
  exact decide_eq_true (Subsingleton.elim ..)

theorem InLine.step (h : InLine peerSessionId s) (hnamed : Named s.connection.pool) {event : ServiceEvent 1 m}
    (hstep : (service pb modulePacketHandler 1 m sessionId peerSessionId).step s event = some s') :
    InLine peerSessionId s' := by
  cases event with
  | connection event =>
    obtain ⟨c', hc', rfl⟩ := Option.map_eq_some_iff.mp hstep
    obtain ⟨-, hhandled, hown⟩ := connection_step hnamed hc'
    have hmine := own_filter hown fun packet => !isModuleMessage packet
    show ((s.sessionServiceDataProcessor.push _).line WorkQueue.only).filter _ = c'.handled.filter _
    rw [WorkQueue.line_push, List.filter_append, h, hhandled, List.filter_append, ← hmine, itemsOf_only,
      List.filter_map]
    rfl
  | addPacket w packet =>
    obtain ⟨hother, heq⟩ := Option.ite_none_left_eq_some.mp hstep
    cases heq
    show ((s.sessionServiceDataProcessor.push _).line WorkQueue.only).filter _ =
      s.connection.handled.filter _
    have hnone : (((([(w, packet)] : List (Fin 1 × HandlerCall)).filter fun x => !isModuleMessage x.2).map
        Prod.snd).filter fun packet => packet.sessionId = peerSessionId) = [] := by
      rw [List.filter_eq_nil_iff]
      intro other hmem
      obtain ⟨x, hx, rfl⟩ := List.mem_map.mp hmem
      rw [List.mem_singleton.mp (List.mem_of_mem_filter hx)]
      simpa using hother
    rw [WorkQueue.line_push, List.filter_append, h, itemsOf_only, hnone, List.append_nil]
  | serviceTake w =>
    obtain ⟨processor, hprocessor, rfl⟩ := Option.map_eq_some_iff.mp hstep
    show (processor.line WorkQueue.only).filter _ = s.connection.handled.filter _
    rw [WorkQueue.line_take hprocessor]
    exact h
  | serviceRun =>
    obtain ⟨w, packet, processor, -, hprocessor, -, rfl⟩ := serviceRun_cases hstep
    show (processor.line WorkQueue.only).filter _ = s.connection.handled.filter _
    rw [WorkQueue.line_finish hprocessor]
    exact h
  | moduleTake thread w =>
    obtain ⟨processor, -, rfl⟩ := Option.map_eq_some_iff.mp hstep
    exact h
  | moduleRun thread p2pSession =>
    obtain ⟨w, packet, calls, processor, -, -, -, -, rfl⟩ := moduleRun_cases hstep
    exact h

/-- **Run lemma.** -/
theorem inLine_of_reachable (h : (service pb modulePacketHandler 1 m sessionId peerSessionId).Reachable s) :
    Accounted peerSessionId s ∧ InLine peerSessionId s := by
  refine h.invariant (I := fun s => Accounted peerSessionId s ∧ InLine peerSessionId s) ?_
    fun _ _ _ hs _ hstep => ⟨hs.1.step hstep, hs.2.step hs.1.named hstep⟩
  intro s hinit
  refine ⟨accounted_of_init hinit, ?_⟩
  obtain ⟨⟨-, -, hhandled, -⟩, hservice, -⟩ := hinit
  rw [InLine, hservice, hhandled]
  rfl

theorem ownFinished_begins (h : InLine peerSessionId s) :
    ownFinished peerSessionId s.sessionServiceDataProcessor <+:
      s.connection.handled.filter fun packet => !isModuleMessage packet := by
  have hbegins := s.sessionServiceDataProcessor.itemsOf_finished_begins WorkQueue.only
  rw [itemsOf_only] at hbegins
  have hfiltered := hbegins.filter fun packet => packet.sessionId = peerSessionId
  rw [h, List.filter_map] at hfiltered
  exact hfiltered

end Order

end DistributedNetwork.Delivery
