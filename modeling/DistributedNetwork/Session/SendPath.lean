import DistributedNetwork.Decoding.PacketFormat
import DistributedNetwork.Sending.SlaveReactor
import DistributedNetwork.Session.SessionDestroyer

/-!
# Which sends reach a reactor

A message for a node goes through three tables: the session of the node, the reactor of the session, and the
sessions of the reactor.  Each is read under its own lock, and the destroyer takes the session out of all of
them in between.

* `SendReads.sendData` — the way of `P2PService::sendData` through the tables, one state for each read;
* `Continues` — what other threads never undo between two reads;
* `sendData_linear` — whatever happens between the reads, the send does what it would do **at its last one**;
* `boardcast_linear` — a broadcast queues the message once for each node whose session is not being torn down
  when its turn comes, and succeeds.
-/

namespace DistributedNetwork.Session

open DistributedNetwork.Library
open DistributedNetwork.Buffer (Byte)
open DistributedNetwork.Decoding (ModuleID)
open DistributedNetwork.Decoding.PacketEncodeHelper (encodeModuleMessage)
open DistributedNetwork.Sending (c_p2pSessionWriteBufferSize)

/-! ### The functions -/

/-- An entry of a reactor's `m_sendTasks`. -/
structure QueuedTask where
  reactor : ℕ
  sessionId : SessionId
  data : List Byte
  deriving DecidableEq

/-- The server at the reads of one send: of the dispatcher's index, of the reactor's map, and of the
session. -/
structure SendReads where
  indexed : Server
  found : Server
  checked : Server

def Server.getSlaveReactorIndexBySessionId (s : Server) (sessionId : SessionId) : Option ℕ :=
  s.m_sessionIdSlaveReactorIndex sessionId

namespace SendReads

variable (reads : SendReads)

/-- `SlaveReactor::sendData`: the status, and what is queued. -/
def reactorSendData (reactor : ℕ) (sessionId : SessionId) (data : List Byte) : ℤ × List QueuedTask :=
  if reads.found.m_p2pSessions reactor sessionId = false then (-1, [])
  else if data.length > c_p2pSessionWriteBufferSize then (-1, [])
  else if (reads.checked.session sessionId).m_isWaitingDisconnect = true then (-1, [])
  else (0, [⟨reactor, sessionId, data⟩])

/-- `P2PService::sendData`.  `SlaveReactorPool::slaveReactor` gives a null pointer, which is not checked, for
an index that is none of its `slaveReactorNum` reactors. -/
def sendData (slaveReactorNum : ℕ) (sessionId : SessionId) (data : List Byte) :
    Option (ℤ × List QueuedTask) :=
  match reads.indexed.getSlaveReactorIndexBySessionId sessionId with
  | none => some (-1, [])
  | some slaveReactorIndex =>
    if slaveReactorIndex < slaveReactorNum then
      let sent := reads.reactorSendData slaveReactorIndex sessionId data
      if sent.1 ≠ 0 then some (-1, sent.2) else some (0, sent.2)
    else none

/-- `before` is the server when the node is looked up. -/
def sendModuleMessageByNodeId (before : Server) (slaveReactorNum : ℕ) (nodeId : NodeId) (moduleId : ModuleID)
    (data : List Byte) : Option (ℤ × List QueuedTask) :=
  let buffer := encodeModuleMessage moduleId data
  match before.hostsInfoManager.getSessionId nodeId with
  | none => some (-1, [])
  | some sessionId =>
    (reads.sendData slaveReactorNum sessionId buffer).map fun sent =>
      if sent.1 ≠ 0 then (-1, sent.2) else (0, sent.2)

end SendReads

/-- The loop of the broadcast, with the reads of each turn; a send that fails is only logged. -/
def sendToHosts (slaveReactorNum : ℕ) (buffer : List Byte) :
    List ((NodeId × SessionId) × SendReads) → Option (List QueuedTask)
  | [] => some []
  | (host, reads) :: turns =>
    (reads.sendData slaveReactorNum host.2 buffer).bind fun sent =>
      (sendToHosts slaveReactorNum buffer turns).map fun tasks => sent.2 ++ tasks

/-- The hosts of the turns are what `getAllHosts` returned. -/
def boardcastModuleMessage (slaveReactorNum : ℕ) (turns : List ((NodeId × SessionId) × SendReads))
    (moduleId : ModuleID) (data : List Byte) : Option (ℤ × List QueuedTask) :=
  (sendToHosts slaveReactorNum (encodeModuleMessage moduleId data) turns).map fun tasks => (0, tasks)

/-! ### Runs between the reads -/

/-- A node is only entered with a session that has been made. -/
def HandsOut (s : Server) : ServerEvent → Prop
  | .addHostIdInfo _ sessionId => Made s sessionId
  | _ => True

instance (s : Server) : (event : ServerEvent) → Decidable (HandsOut s event)
  | .addHostIdInfo .. => inferInstanceAs (Decidable (_ ∧ _))
  | .connect .. | .setSlaveReactorIndex .. | .openOther .. | .watch .. | .unwatch .. | .hold ..
  | .release .. | .setNodeId .. | .setPeerHostEndPointInfo .. | .setHostId .. | .disconnectSession ..
  | .sendFailed .. | .heartbeatTimeout .. | .rejected .. | .destroy => inferInstanceAs (Decidable True)

/-- What the iteration over the table of nodes gives. -/
def AllHosts (m : HostsInfoManager) (hosts : List (NodeId × SessionId)) : Prop :=
  ∀ nodeId sessionId, (nodeId, sessionId) ∈ hosts ↔ m.m_nodeIdInfos nodeId = some sessionId

section Later

variable (localNodeId : NodeId) (nodes : List HostEndPointInfo) (slaveReactorNum : ℕ)

/-- Other threads take the server from `s` to `s'`. -/
def Later (s s' : Server) : Prop :=
  ∃ events, (destroyer localNodeId slaveReactorNum nodes).guardedRun HandsOut s events = some s'

/-- The reads of a send that starts at `before`, in their order. -/
structure SendReads.Follow (before : Server) (reads : SendReads) : Prop where
  indexed : Later localNodeId nodes slaveReactorNum before reads.indexed
  found : Later localNodeId nodes slaveReactorNum reads.indexed reads.found
  checked : Later localNodeId nodes slaveReactorNum reads.found reads.checked

/-- The turns of a broadcast follow one another. -/
def TurnsFollow : Server → List ((NodeId × SessionId) × SendReads) → Prop
  | _, [] => True
  | before, turn :: turns =>
    turn.2.Follow localNodeId nodes slaveReactorNum before ∧ TurnsFollow turn.2.checked turns

end Later

/-- The session does not wait for its end at the last read, and the message fits. -/
def SendReads.Sendable (reads : SendReads) (sessionId : SessionId) (data : List Byte) : Prop :=
  (reads.checked.session sessionId).m_isWaitingDisconnect = false ∧ data.length ≤ c_p2pSessionWriteBufferSize

instance (reads : SendReads) (sessionId : SessionId) (data : List Byte) :
    Decidable (reads.Sendable sessionId data) :=
  inferInstanceAs (Decidable (_ ∧ _))

/-- The task of a message, for the reactor that the session has at the last read. -/
def SendReads.task (reads : SendReads) (sessionId : SessionId) (data : List Byte) : QueuedTask :=
  ⟨reads.checked.reactorOf sessionId, sessionId, data⟩

/-- The server later: sessions made stay made, at their reactor, and stay torn down. -/
structure Continues (s s' : Server) : Prop where
  made : s.m_sessionId ≤ s'.m_sessionId
  handled : ∀ sessionId, s.handled sessionId = true → s'.handled sessionId = true
  reactor : ∀ sessionId, sessionId < s.m_sessionId →
    s'.reactorOf sessionId = s.reactorOf sessionId

/-! ### The handler on the tables -/

section Handler

variable (localNodeId : NodeId) (slaveReactorNum : ℕ) (s : Server) (destoryInfo : SessionDestoryInfo)

/-- Taking a session off its reactor leaves the other sessions there. -/
theorem removeClient_sessions_of_ne (reactor fd : ℕ) {sessionId other : SessionId} (hne : other ≠ sessionId)
    (reactor' : ℕ) : (s.removeClient reactor sessionId fd).m_p2pSessions reactor' other =
      s.m_p2pSessions reactor' other := by
  unfold Server.removeClient
  split
  · rfl
  · by_cases hr : reactor' = reactor <;> simp [hr, hne]

variable (halive : s.alive destoryInfo.sessionId = true)
  (hvalid : (s.session destoryInfo.sessionId).m_slaveReactorIndex < slaveReactorNum)

include halive hvalid

theorem destroyHandler_tables :
    (s.destroyHandler localNodeId slaveReactorNum destoryInfo).references = s.references ∧
    (s.destroyHandler localNodeId slaveReactorNum destoryInfo).m_waitingDestroySessionInfos =
      s.m_waitingDestroySessionInfos ∧
    (s.destroyHandler localNodeId slaveReactorNum destoryInfo).m_sessionIdSlaveReactorIndex =
      Function.update s.m_sessionIdSlaveReactorIndex destoryInfo.sessionId none := by
  simp only [Server.destroyHandler, if_pos halive, if_pos hvalid]
  rw [Server.closeFd_frame, Server.removeClient_frame]
  cases hfrom : destoryInfo.isFromAliveChecker <;> exact ⟨rfl, rfl, rfl⟩

theorem destroyHandler_sessions_of_ne {other : SessionId} (hne : other ≠ destoryInfo.sessionId)
    (reactor : ℕ) : (s.destroyHandler localNodeId slaveReactorNum destoryInfo).m_p2pSessions reactor other =
      s.m_p2pSessions reactor other := by
  simp only [Server.destroyHandler, if_pos halive, if_pos hvalid]
  rw [Server.closeFd_frame]
  show (Server.removeClient _ _ _ _).m_p2pSessions reactor other = _
  rw [removeClient_sessions_of_ne _ _ _ hne]
  cases hfrom : destoryInfo.isFromAliveChecker <;> rfl

omit halive hvalid

/-- Disconnecting enters no node. -/
theorem nodeIdInfos_of_disconnectClient (m : HostsInfoManager) (peer : HostEndPointInfo) (nodeId : NodeId)
    (flag : ℤ) (sessionId : SessionId) {other : NodeId} {otherSessionId : SessionId}
    (h : (disconnectClient localNodeId m peer nodeId flag sessionId).m_nodeIdInfos other =
      some otherSessionId) : m.m_nodeIdInfos other = some otherSessionId := by
  have hremoved : (m.removeHostIdInfo nodeId sessionId).2.m_nodeIdInfos other = some otherSessionId →
      m.m_nodeIdInfos other = some otherSessionId := by
    rw [HostsInfoManager.removeHostIdInfo_nodeIdInfos]
    split
    · intro hother
      by_cases hnode : other = nodeId
      · simp [hnode] at hother
      · simpa [hnode] using hother
    · exact id
  unfold disconnectClient at h
  split_ifs at h
  · exact h
  · rw [HostsInfoManager.setHostNotConnected_nodeIdInfos] at h
    exact hremoved h
  · exact h
  · exact h
  · exact hremoved h
  · exact h

end Handler

/-! ### What the tables hold -/

/-- What the tables hold of a session before it is made, until it is torn down, and afterwards. -/
structure SessionPlaced (slaveReactorNum : ℕ) (s : Server) (sessionId : SessionId) : Prop where
  unmade : ¬ Made s sessionId → s.references sessionId = 0 ∧ s.handled sessionId = false ∧
    (∀ reactor, s.m_p2pSessions reactor sessionId = false) ∧
    s.m_sessionIdSlaveReactorIndex sessionId = none
  placed : Made s sessionId → s.handled sessionId = false →
    s.m_sessionIdSlaveReactorIndex sessionId = some (s.reactorOf sessionId) ∧
    s.m_p2pSessions (s.reactorOf sessionId) sessionId = true ∧ s.reactorOf sessionId < slaveReactorNum
  gone : s.handled sessionId = true → s.m_sessionIdSlaveReactorIndex sessionId = none ∧
    (s.session sessionId).m_isWaitingDisconnect = true

structure Placed (slaveReactorNum : ℕ) (s : Server) : Prop where
  counter : 0 < s.m_sessionId
  queued : ∀ destoryInfo ∈ s.m_waitingDestroySessionInfos, Made s destoryInfo.sessionId
  known : ∀ nodeId sessionId, s.hostsInfoManager.m_nodeIdInfos nodeId = some sessionId →
    Made s sessionId
  sessions : ∀ sessionId, SessionPlaced slaveReactorNum s sessionId

namespace Placed

variable {slaveReactorNum : ℕ} {s s' : Server} {sessionId : SessionId}

theorem made_of_alive (h : Placed slaveReactorNum s) (halive : s.alive sessionId = true) :
    Made s sessionId := by
  by_contra hunmade
  obtain ⟨hreferences, -, hsessions, -⟩ := (h.sessions sessionId).unmade hunmade
  rw [Server.alive, hreferences, hsessions] at halive
  cases halive

/-- Steps that leave the reactors and their index alone. -/
theorem frame (h : Placed slaveReactorNum s)
    (hframe : s' = { s with
      session := s'.session
      references := s'.references
      descriptors := s'.descriptors
      aliveCheckerSessions := s'.aliveCheckerSessions
      hostsInfoManager := s'.hostsInfoManager
      m_waitingDestroySessionInfos := s'.m_waitingDestroySessionInfos })
    (hwaiting : ∀ id, (s.session id).m_isWaitingDisconnect = true →
      (s'.session id).m_isWaitingDisconnect = true)
    (hreferences : ∀ id, 0 < s'.references id → s.alive id = true)
    (hknown : ∀ nodeId id, s'.hostsInfoManager.m_nodeIdInfos nodeId = some id →
      s.hostsInfoManager.m_nodeIdInfos nodeId = some id ∨ Made s id)
    (hqueue : ∀ destoryInfo ∈ s'.m_waitingDestroySessionInfos,
      destoryInfo ∈ s.m_waitingDestroySessionInfos ∨ s.alive destoryInfo.sessionId = true) :
    Placed slaveReactorNum s' := by
  rw [hframe]
  constructor
  case counter => exact h.counter
  case queued =>
    intro destoryInfo hmem
    rcases hqueue destoryInfo hmem with hold | halive
    · exact h.queued destoryInfo hold
    · exact h.made_of_alive halive
  case known =>
    intro nodeId id hid
    rcases hknown nodeId id hid with hold | hmade
    · exact h.known nodeId id hold
    · exact hmade
  case sessions =>
    intro id
    have hid := h.sessions id
    constructor
    · intro hunmade
      obtain ⟨-, hrest⟩ := hid.unmade hunmade
      refine ⟨Nat.eq_zero_of_not_pos fun hpos => ?_, hrest⟩
      exact hunmade (h.made_of_alive (hreferences id hpos))
    · exact hid.placed
    · intro hhandled
      obtain ⟨hindex, hwait⟩ := hid.gone hhandled
      exact ⟨hindex, hwaiting id hwait⟩

/-- A session's fields may change, as long as it does not stop waiting for its end. -/
theorem setSession (h : Placed slaveReactorNum s) (sessionId : SessionId) (p2pSession : P2PSession)
    (hwaiting : (s.session sessionId).m_isWaitingDisconnect = true →
      p2pSession.m_isWaitingDisconnect = true) :
    Placed slaveReactorNum { s with session := Function.update s.session sessionId p2pSession } := by
  refine h.frame rfl ?_ (fun id hpos => Consistent.references_alive (s := s) hpos)
    (fun _ _ hid => .inl hid) fun _ hmem => .inl hmem
  intro id
  by_cases hid : id = sessionId
  · rw [hid]
    simpa using hwaiting
  · simp [hid]

/-- References, descriptors and what the alive checker watches may change. -/
theorem keep (h : Placed slaveReactorNum s)
    (hframe : s' = { s with
      references := s'.references
      descriptors := s'.descriptors
      aliveCheckerSessions := s'.aliveCheckerSessions })
    (hreferences : ∀ id, 0 < s'.references id → s.alive id = true) : Placed slaveReactorNum s' := by
  rw [hframe]
  exact h.frame rfl (fun _ hw => hw) hreferences (fun _ _ hid => .inl hid)
    fun _ hmem => .inl hmem

/-- The tables of nodes may change as long as they name sessions that have been made. -/
theorem setHosts (h : Placed slaveReactorNum s) (m : HostsInfoManager)
    (hknown : ∀ nodeId id, m.m_nodeIdInfos nodeId = some id →
      s.hostsInfoManager.m_nodeIdInfos nodeId = some id ∨ Made s id) :
    Placed slaveReactorNum { s with hostsInfoManager := m } :=
  h.frame rfl (fun _ hw => hw) (fun _ hpos => Consistent.references_alive (s := s) hpos)
    hknown fun _ hmem => .inl hmem

theorem addDestroy (h : Placed slaveReactorNum s) {destoryInfo : SessionDestoryInfo}
    (halive : s.alive destoryInfo.sessionId = true) :
    Placed slaveReactorNum (s.addDestroy destoryInfo) := by
  refine h.frame rfl (fun _ hw => hw)
    (fun id hpos => Consistent.references_alive (s := s) hpos) (fun _ _ hid => .inl hid) ?_
  intro info hmem
  rcases List.mem_append.mp hmem with hold | hnew
  · exact .inl hold
  · rw [List.mem_singleton.mp hnew]
    exact .inr halive

theorem dequeue (h : Placed slaveReactorNum s) {destoryInfo : SessionDestoryInfo}
    {rest : List SessionDestoryInfo} (hqueue : s.m_waitingDestroySessionInfos = destoryInfo :: rest) :
    Placed slaveReactorNum { s with m_waitingDestroySessionInfos := rest } := by
  refine h.frame rfl (fun _ hw => hw)
    (fun id hpos => Consistent.references_alive (s := s) hpos) (fun _ _ hid => .inl hid) ?_
  intro info hmem
  rw [hqueue]
  exact .inl (List.mem_cons_of_mem _ hmem)

theorem addSession (h : Placed slaveReactorNum s) (fd : ℕ) (peer : HostEndPointInfo) {reactor : ℕ}
    (uninitialised : ℕ) (hreactor : reactor < slaveReactorNum) :
    Placed slaveReactorNum (s.addSession fd peer reactor uninitialised) := by
  have hmade' : ∀ {id}, Made s id → Made (s.addSession fd peer reactor uninitialised) id :=
    fun hmade => ⟨hmade.1, Nat.lt_succ_of_lt hmade.2⟩
  constructor
  case counter => exact Nat.succ_pos _
  case queued =>
    intro destoryInfo hmem
    exact hmade' (h.queued destoryInfo hmem)
  case known =>
    intro nodeId id hid
    exact hmade' (h.known nodeId id hid)
  case sessions =>
    intro id
    have hid := h.sessions id
    by_cases hnew : id = s.m_sessionId
    · -- the session just made
      subst hnew
      obtain ⟨-, hhandled, -⟩ := hid.unmade fun hmade => Nat.lt_irrefl _ hmade.2
      constructor
      · intro hunmade
        exact absurd ⟨h.counter, Nat.lt_succ_self _⟩ hunmade
      · intro _ _
        simpa [Server.addSession] using hreactor
      · intro hgone
        cases hhandled.symm.trans hgone
    · have hsession : (s.addSession fd peer reactor uninitialised).session id = s.session id := by
        simp [Server.addSession, hnew]
      have hplace : (s.addSession fd peer reactor uninitialised).reactorOf id = s.reactorOf id := by
        simp [Server.addSession, hnew]
      have hindex : (s.addSession fd peer reactor uninitialised).m_sessionIdSlaveReactorIndex id =
          s.m_sessionIdSlaveReactorIndex id := by
        simp [Server.addSession, hnew]
      have hmap : ∀ r, (s.addSession fd peer reactor uninitialised).m_p2pSessions r id =
          s.m_p2pSessions r id := by
        intro r
        by_cases hr : r = reactor <;> simp [Server.addSession, hr, hnew]
      constructor
      · intro hunmade
        obtain ⟨hreferences, hhandled, hsessions, hnone⟩ := hid.unmade fun hmade => hunmade (hmade' hmade)
        refine ⟨?_, hhandled, fun r => (hmap r).trans (hsessions r), hindex.trans hnone⟩
        simpa [Server.addSession, hnew] using hreferences
      · intro hmade hhandled
        rw [hplace, hindex, hmap]
        exact hid.placed ⟨hmade.1, Nat.lt_of_le_of_ne (Nat.le_of_lt_succ hmade.2) hnew⟩ hhandled
      · intro hgone
        rw [hsession, hindex]
        exact hid.gone hgone

/-- The handler of a request whose session still exists and whose object holds the number of a reactor. -/
theorem destroyHandler (h : Placed slaveReactorNum s) (localNodeId : NodeId)
    {destoryInfo : SessionDestoryInfo} (halive : s.alive destoryInfo.sessionId = true)
    (hvalid : (s.session destoryInfo.sessionId).m_slaveReactorIndex < slaveReactorNum) :
    Placed slaveReactorNum (s.destroyHandler localNodeId slaveReactorNum destoryInfo) := by
  obtain ⟨hcounter, hhandled⟩ := destroyHandler_marks localNodeId slaveReactorNum s destoryInfo
  obtain ⟨hreferences, hqueue, hindex⟩ :=
    destroyHandler_tables localNodeId slaveReactorNum s destoryInfo halive hvalid
  have hsession := destroyHandler_session localNodeId slaveReactorNum s destoryInfo halive
  have hplace := destroyHandler_reactorOf localNodeId slaveReactorNum s destoryInfo
  have hmade : ∀ id, Made (s.destroyHandler localNodeId slaveReactorNum destoryInfo) id ↔ Made s id := by
    intro id
    rw [Made, hcounter, Made]
  constructor
  case counter =>
    rw [hcounter]
    exact h.counter
  case queued =>
    rw [hqueue]
    intro info hmem
    exact (hmade _).mpr (h.queued info hmem)
  case known =>
    intro nodeId id hid
    rw [destroyHandler_hostsInfoManager localNodeId halive hvalid] at hid
    exact (hmade id).mpr (h.known nodeId id (nodeIdInfos_of_disconnectClient _ _ _ _ _ _ hid))
  case sessions =>
    intro id
    by_cases heq : id = destoryInfo.sessionId
    · subst heq
      constructor
      · intro hunmade
        rw [hmade] at hunmade
        exact absurd (h.made_of_alive halive) hunmade
      · intro _ hnot
        rw [hhandled, Function.update_self] at hnot
        cases hnot
      · intro _
        rw [hindex, hsession, Function.update_self, Function.update_self]
        exact ⟨rfl, rfl⟩
    · have hid := h.sessions id
      have hmap := destroyHandler_sessions_of_ne localNodeId slaveReactorNum s destoryInfo halive hvalid heq
      constructor
      · rw [hmade, hreferences, hhandled, hindex, Function.update_of_ne heq, Function.update_of_ne heq]
        simpa only [hmap] using hid.unmade
      · rw [hmade, hhandled, hindex, hplace, hmap, Function.update_of_ne heq, Function.update_of_ne heq]
        exact hid.placed
      · rw [hhandled, hindex, hsession, Function.update_of_ne heq, Function.update_of_ne heq,
          Function.update_of_ne heq]
        exact hid.gone

/-- **Step lemma.**  A step keeps the tables in order unless it ends the process. -/
theorem step (h : Placed slaveReactorNum s) {localNodeId : NodeId} {event : ServerEvent}
    (hguard : HandsOut s event) (hstep : s.step localNodeId slaveReactorNum event = some s')
    (hrunning : s'.crashed = false) : Placed slaveReactorNum s' := by
  unfold Server.step at hstep
  obtain ⟨-, hstep⟩ := Option.ite_none_left_eq_some.mp hstep
  cases event with
  | connect fd peer reactor uninitialised =>
    obtain ⟨⟨-, hreactor⟩, hs'⟩ := Option.ite_none_right_eq_some.mp hstep
    cases hs'
    exact h.addSession fd peer uninitialised hreactor
  | setSlaveReactorIndex sessionId =>
    obtain ⟨-, rfl⟩ := Server.whenAlive_eq_some.mp hstep
    exact h.setSession sessionId _ fun hw => hw
  | openOther fd =>
    obtain ⟨-, hs'⟩ := Option.ite_none_right_eq_some.mp hstep
    cases hs'
    exact h.keep rfl fun _ hpos => Consistent.references_alive hpos
  | watch sessionId =>
    obtain ⟨-, rfl⟩ := Server.whenAlive_eq_some.mp hstep
    exact h.keep rfl fun _ hpos => Consistent.references_alive hpos
  | unwatch sessionId =>
    obtain ⟨-, hs'⟩ := Option.ite_none_left_eq_some.mp hstep
    cases hs'
    exact h.keep rfl fun _ hpos => Consistent.references_alive hpos
  | hold sessionId =>
    obtain ⟨halive, rfl⟩ := Server.whenAlive_eq_some.mp hstep
    apply h.keep rfl
    intro id hpos
    by_cases hid : id = sessionId
    · rw [hid]
      exact halive
    · exact Consistent.references_alive (by simpa [hid] using hpos)
  | release sessionId =>
    obtain ⟨hheld, hs'⟩ := Option.ite_none_left_eq_some.mp hstep
    cases hs'
    apply h.keep rfl
    intro id hpos
    by_cases hid : id = sessionId
    · rw [hid]
      exact Consistent.references_alive (Nat.pos_of_ne_zero hheld)
    · exact Consistent.references_alive (by simpa [hid] using hpos)
  | setNodeId sessionId nodeId =>
    obtain ⟨-, rfl⟩ := Server.whenAlive_eq_some.mp hstep
    exact h.setSession sessionId _ fun hw => hw
  | setPeerHostEndPointInfo sessionId peer =>
    obtain ⟨-, rfl⟩ := Server.whenAlive_eq_some.mp hstep
    exact h.setSession sessionId _ fun hw => hw
  | setHostId endPointInfo nodeId =>
    cases hstep
    apply h.setHosts
    intro nodeId' id hid
    unfold HostsInfoManager.setHostId at hid
    split at hid <;> exact .inl hid
  | addHostIdInfo nodeId sessionId =>
    cases hstep
    apply h.setHosts
    intro nodeId' id hid
    unfold HostsInfoManager.addHostIdInfo at hid
    split at hid
    · exact .inl hid
    · by_cases hnode : nodeId' = nodeId
      · have hsame : sessionId = id := by simpa [hnode] using hid
        exact .inr (hsame ▸ hguard)
      · exact .inl (by simpa [hnode] using hid)
  | disconnectSession sessionId =>
    obtain ⟨halive, rfl⟩ := Server.whenAlive_eq_some.mp hstep
    exact (h.addDestroy halive).setSession sessionId _ fun _ => rfl
  | sendFailed sessionId =>
    obtain ⟨halive, rfl⟩ := Server.whenAlive_eq_some.mp hstep
    exact h.addDestroy halive
  | heartbeatTimeout sessionId =>
    obtain ⟨-, hs'⟩ := Option.ite_none_right_eq_some.mp hstep
    obtain ⟨halive, rfl⟩ := Server.whenAlive_eq_some.mp hs'
    exact (h.addDestroy halive).keep rfl fun _ hpos => Consistent.references_alive hpos
  | rejected sessionId result =>
    obtain ⟨halive, rfl⟩ := Server.whenAlive_eq_some.mp hstep
    exact h.addDestroy halive
  | destroy =>
    cases hqueue : s.m_waitingDestroySessionInfos with
    | nil =>
      rw [hqueue] at hstep
      cases hstep
    | cons destoryInfo rest =>
      rw [hqueue] at hstep
      cases hstep
      -- the handler of a freed session, or of a null reactor, ends the process
      cases halive : Server.alive { s with m_waitingDestroySessionInfos := rest } destoryInfo.sessionId with
      | false =>
        rw [destroyHandler_crashed localNodeId slaveReactorNum _ destoryInfo halive] at hrunning
        cases hrunning
      | true =>
        rcases Nat.lt_or_ge (s.session destoryInfo.sessionId).m_slaveReactorIndex slaveReactorNum with
          hvalid | hnull
        · exact (h.dequeue hqueue).destroyHandler localNodeId halive hvalid
        · have hcrash := destroyHandler_null localNodeId slaveReactorNum
            { s with m_waitingDestroySessionInfos := rest } destoryInfo hnull
          rw [hcrash] at hrunning
          cases hrunning

end Placed

/-! ### What other threads never undo -/

namespace Continues

variable {s s' s'' : Server} {localNodeId : NodeId} {slaveReactorNum : ℕ}

theorem refl (s : Server) : Continues s s :=
  ⟨Nat.le_refl _, fun _ h => h, fun _ _ => rfl⟩

theorem trans (h : Continues s s') (h' : Continues s' s'') : Continues s s'' where
  made := Nat.le_trans h.made h'.made
  handled sessionId hhandled := h'.handled sessionId (h.handled sessionId hhandled)
  reactor sessionId hmade :=
    (h'.reactor sessionId (Nat.lt_of_lt_of_le hmade h.made)).trans (h.reactor sessionId hmade)

theorem stays_made (h : Continues s s') {sessionId : SessionId} (hmade : Made s sessionId) :
    Made s' sessionId :=
  ⟨hmade.1, Nat.lt_of_lt_of_le hmade.2 h.made⟩

theorem destroyHandler (s : Server) (localNodeId : NodeId) (slaveReactorNum : ℕ)
    (destoryInfo : SessionDestoryInfo) :
    Continues s (s.destroyHandler localNodeId slaveReactorNum destoryInfo) := by
  obtain ⟨hcounter, hmark⟩ := destroyHandler_marks localNodeId slaveReactorNum s destoryInfo
  constructor
  · exact Nat.le_of_eq hcounter.symm
  · intro id hhandled
    rw [hmark]
    by_cases hid : id = destoryInfo.sessionId
    · rw [hid, Function.update_self]
    · rw [Function.update_of_ne hid, hhandled]
  · intro id _
    rw [destroyHandler_reactorOf]

theorem step {event : ServerEvent} (hstep : s.step localNodeId slaveReactorNum event = some s') :
    Continues s s' := by
  unfold Server.step at hstep
  obtain ⟨-, hstep⟩ := Option.ite_none_left_eq_some.mp hstep
  cases event with
  | connect fd peer reactor uninitialised =>
    obtain ⟨-, hs'⟩ := Option.ite_none_right_eq_some.mp hstep
    cases hs'
    refine ⟨Nat.le_succ _, fun _ h => h, ?_⟩
    intro id hmade
    simp [Server.addSession, Nat.ne_of_lt hmade]
  | openOther fd =>
    obtain ⟨-, hs'⟩ := Option.ite_none_right_eq_some.mp hstep
    cases hs'
    exact ⟨Nat.le_refl _, fun _ h => h, fun _ _ => rfl⟩
  | unwatch sessionId | release sessionId =>
    obtain ⟨-, hs'⟩ := Option.ite_none_left_eq_some.mp hstep
    cases hs'
    exact ⟨Nat.le_refl _, fun _ h => h, fun _ _ => rfl⟩
  | watch | hold | sendFailed | rejected | setSlaveReactorIndex | setNodeId | setPeerHostEndPointInfo
  | disconnectSession =>
    obtain ⟨-, rfl⟩ := Server.whenAlive_eq_some.mp hstep
    exact ⟨Nat.le_refl _, fun _ h => h, fun _ _ => rfl⟩
  | setHostId | addHostIdInfo =>
    cases hstep
    exact ⟨Nat.le_refl _, fun _ h => h, fun _ _ => rfl⟩
  | heartbeatTimeout sessionId =>
    obtain ⟨-, hs'⟩ := Option.ite_none_right_eq_some.mp hstep
    obtain ⟨-, rfl⟩ := Server.whenAlive_eq_some.mp hs'
    exact ⟨Nat.le_refl _, fun _ h => h, fun _ _ => rfl⟩
  | destroy =>
    cases hqueue : s.m_waitingDestroySessionInfos with
    | nil =>
      rw [hqueue] at hstep
      cases hstep
    | cons destoryInfo rest =>
      rw [hqueue] at hstep
      cases hstep
      have hcontinues := destroyHandler { s with m_waitingDestroySessionInfos := rest } localNodeId
        slaveReactorNum destoryInfo
      exact ⟨hcontinues.made, hcontinues.handled, hcontinues.reactor⟩

end Continues

section Runs

variable {localNodeId : NodeId} {nodes : List HostEndPointInfo} {slaveReactorNum : ℕ}

theorem placed_of_reaches {s : Server}
    (h : (destroyer localNodeId slaveReactorNum nodes).Reaches HandsOut s) (hrunning : s.crashed = false) :
    Placed slaveReactorNum s := by
  refine h.invariant (I := fun s => s.crashed = false → Placed slaveReactorNum s) ?_ ?_ hrunning
  · intro s hs _
    cases hs
    refine ⟨Nat.one_pos, List.forall_mem_nil _, ?_, ?_⟩
    · intro nodeId sessionId hknown
      cases hknown
    · intro sessionId
      constructor
      · intro _
        exact ⟨rfl, rfl, fun _ => rfl, rfl⟩
      · intro hmade
        exact absurd hmade.2 (Nat.not_lt.mpr hmade.1)
      · intro hgone
        cases hgone
  · intro s event s' ih hguard hstep hrunning'
    have hbefore : s.crashed = false := by
      cases hcrashed : s.crashed with
      | false => rfl
      | true =>
        simp [destroyer, Server.step, hcrashed] at hstep
    exact (ih hbefore).step hguard hstep hrunning'

namespace Later

variable {s s' : Server}

theorem continues (h : Later localNodeId nodes slaveReactorNum s s') : Continues s s' := by
  obtain ⟨events, hrun⟩ := h
  exact TransitionSystem.guardedRun_related Continues.refl (fun _ _ _ => Continues.trans)
    (fun _ _ _ => Continues.step) hrun

theorem running (h : Later localNodeId nodes slaveReactorNum s s') (hrunning : s'.crashed = false) :
    s.crashed = false := by
  obtain ⟨events, hrun⟩ := h
  have hstays : s.crashed = true → s'.crashed = true := by
    apply TransitionSystem.guardedRun_related (R := fun s s' : Server => s.crashed = true → s'.crashed = true)
      ?_ ?_ ?_ hrun
    · exact fun _ hs => hs
    · exact fun _ _ _ h₁ h₂ hs => h₂ (h₁ hs)
    · intro s event s' hstep hcrashed
      simp [destroyer, Server.step, hcrashed] at hstep
  cases hcrashed : s.crashed with
  | false => rfl
  | true => exact (hrunning.symm.trans (hstays hcrashed)).symm

theorem reaches (h : Later localNodeId nodes slaveReactorNum s s')
    (hs : (destroyer localNodeId slaveReactorNum nodes).Reaches HandsOut s) :
    (destroyer localNodeId slaveReactorNum nodes).Reaches HandsOut s' := by
  obtain ⟨events, hrun⟩ := h
  exact hs.of_guardedRun hrun

end Later

/-! ### A send takes effect at its last read -/

variable {before : Server} {reads : SendReads}

/-- **A send takes effect at its last read.**  However the tables change between its reads, it gives what it
would give if it read all of them when it asks the session: a task for a session that does not wait for its
end, and a failure otherwise.  It never asks for a reactor that there is not. -/
theorem sendData_linear (hbefore : (destroyer localNodeId slaveReactorNum nodes).Reaches HandsOut before)
    (hreads : reads.Follow localNodeId nodes slaveReactorNum before) (hrunning : reads.checked.crashed = false)
    {sessionId : SessionId} (hmade : Made before sessionId) (data : List Byte) :
    reads.sendData slaveReactorNum sessionId data =
      if reads.Sendable sessionId data then some (0, [reads.task sessionId data]) else some (-1, []) := by
  have hrunning₂ := hreads.checked.running hrunning
  have hrunning₁ := hreads.found.running hrunning₂
  have hreach₁ := hreads.indexed.reaches hbefore
  have hreach₂ := hreads.found.reaches hreach₁
  have hplaced₁ := placed_of_reaches hreach₁ hrunning₁
  have hplaced₂ := placed_of_reaches hreach₂ hrunning₂
  have hplaced₃ := placed_of_reaches (hreads.checked.reaches hreach₂) hrunning
  have hmade₁ := hreads.indexed.continues.stays_made hmade
  have hmade₂ := hreads.found.continues.stays_made hmade₁
  -- the session has been at one reactor since it was made
  have hreactor₁ := hreads.found.continues.reactor sessionId hmade₁.2
  have hreactor₂ := hreads.checked.continues.reactor sessionId hmade₂.2
  cases hwaiting : (reads.checked.session sessionId).m_isWaitingDisconnect with
  | true =>
    rw [if_neg fun hsendable => Bool.false_ne_true (hsendable.1.symm.trans hwaiting)]
    cases hhandled : reads.indexed.handled sessionId with
    | true => simp [SendReads.sendData, Server.getSlaveReactorIndexBySessionId,
        ((hplaced₁.sessions sessionId).gone hhandled).1]
    | false =>
      obtain ⟨hindex, -, hlt⟩ := (hplaced₁.sessions sessionId).placed hmade₁ hhandled
      have hfails : reads.reactorSendData (reads.indexed.reactorOf sessionId) sessionId data = (-1, []) := by
        simp [SendReads.reactorSendData, hwaiting]
      simp [SendReads.sendData, Server.getSlaveReactorIndexBySessionId, hindex, hlt, hfails]
  | false =>
    -- a session that does not wait at the last read was there at the others
    have hhandled₃ : reads.checked.handled sessionId = false := by
      by_contra hnot
      have hgone := ((hplaced₃.sessions sessionId).gone (Bool.not_eq_false _ ▸ hnot)).2
      cases hwaiting.symm.trans hgone
    have hhandled₂ : reads.found.handled sessionId = false := by
      by_contra hnot
      have hgone := hreads.checked.continues.handled sessionId (Bool.not_eq_false _ ▸ hnot)
      cases hhandled₃.symm.trans hgone
    have hhandled₁ : reads.indexed.handled sessionId = false := by
      by_contra hnot
      have hgone := hreads.found.continues.handled sessionId (Bool.not_eq_false _ ▸ hnot)
      cases hhandled₂.symm.trans hgone
    obtain ⟨hindex, -, hlt⟩ := (hplaced₁.sessions sessionId).placed hmade₁ hhandled₁
    obtain ⟨-, hsession, -⟩ := (hplaced₂.sessions sessionId).placed hmade₂ hhandled₂
    rw [hreactor₁] at hsession
    rw [SendReads.sendData, Server.getSlaveReactorIndexBySessionId, hindex]
    by_cases hlength : data.length ≤ c_p2pSessionWriteBufferSize
    · rw [if_pos ⟨hwaiting, hlength⟩]
      simp [SendReads.reactorSendData, SendReads.task, hlt, hsession, hwaiting, Nat.not_lt.mpr hlength,
        hreactor₁, hreactor₂]
    · rw [if_neg fun hsendable => hlength hsendable.2]
      simp [SendReads.reactorSendData, hlt, hsession, Nat.lt_of_not_le hlength]

/-- **A message for a node.**  It is queued exactly when the node has a session at the lookup that does not
wait for its end at the last read. -/
theorem sendModuleMessageByNodeId_linear
    (hbefore : (destroyer localNodeId slaveReactorNum nodes).Reaches HandsOut before)
    (hreads : reads.Follow localNodeId nodes slaveReactorNum before) (hrunning : reads.checked.crashed = false)
    (nodeId : NodeId) (moduleId : ModuleID) (data : List Byte) :
    reads.sendModuleMessageByNodeId before slaveReactorNum nodeId moduleId data =
      match before.hostsInfoManager.m_nodeIdInfos nodeId with
      | none => some (-1, [])
      | some sessionId =>
        if reads.Sendable sessionId (encodeModuleMessage moduleId data) then
          some (0, [reads.task sessionId (encodeModuleMessage moduleId data)])
        else some (-1, []) := by
  have hplaced := placed_of_reaches hbefore (hreads.indexed.running (hreads.found.running
    (hreads.checked.running hrunning)))
  cases hnode : before.hostsInfoManager.m_nodeIdInfos nodeId with
  | none => simp [SendReads.sendModuleMessageByNodeId, HostsInfoManager.getSessionId, hnode]
  | some sessionId =>
    simp only [SendReads.sendModuleMessageByNodeId, HostsInfoManager.getSessionId, hnode]
    rw [sendData_linear hbefore hreads hrunning (hplaced.known nodeId sessionId hnode)]
    split <;> rfl

/-- The session ends after the reactor has found it, and before its object knows the reactor. -/
theorem sendModuleMessageByNodeId_linear_disconnected :
    let connected := (Server.start []).addSession 5 ⟨"10.0.0.2", 9000⟩ 0 77
    let before := { connected with
      hostsInfoManager := (connected.hostsInfoManager.addHostIdInfo "B" 1).2 }
    let after := (before.setWaitingDisconnect 1).addDestroy ⟨1, 0, false⟩
    before.m_p2pSessions 0 1 = true ∧
    (SendReads.mk before before after).sendModuleMessageByNodeId before 1 "B" .raft [] = some (-1, []) := by
  intro connected before after
  have hstart : (destroyer "A" 1 []).Reaches HandsOut (.start []) := .init rfl
  have hconnected : (destroyer "A" 1 []).Reaches HandsOut connected :=
    hstart.step (a := .connect 5 ⟨"10.0.0.2", 9000⟩ 0 77) trivial rfl
  have hbefore : (destroyer "A" 1 []).Reaches HandsOut before :=
    hconnected.step (a := .addHostIdInfo "B" 1) ⟨Nat.one_pos, Nat.one_lt_two⟩ rfl
  have hreads : (SendReads.mk before before after).Follow "A" [] 1 before :=
    ⟨⟨[], rfl⟩, ⟨[], rfl⟩, ⟨[.disconnectSession 1], rfl⟩⟩
  exact ⟨rfl, sendModuleMessageByNodeId_linear hbefore hreads rfl "B" .raft []⟩

/-- The loop of the broadcast. -/
theorem sendToHosts_linear {turns : List ((NodeId × SessionId) × SendReads)}
    (hbefore : (destroyer localNodeId slaveReactorNum nodes).Reaches HandsOut before)
    (hmade : ∀ turn ∈ turns, Made before turn.1.2)
    (hfollow : TurnsFollow localNodeId nodes slaveReactorNum before turns)
    (hrunning : ∀ turn ∈ turns, turn.2.checked.crashed = false) (buffer : List Byte) :
    sendToHosts slaveReactorNum buffer turns =
      some ((turns.filter fun turn => turn.2.Sendable turn.1.2 buffer).map fun turn =>
        turn.2.task turn.1.2 buffer) := by
  induction turns generalizing before with
  | nil => rfl
  | cons turn turns ih =>
    obtain ⟨hreads, hrest⟩ := hfollow
    have hnow := hrunning turn List.mem_cons_self
    have hcontinues := (hreads.indexed.continues.trans hreads.found.continues).trans hreads.checked.continues
    have hlater := ih (hreads.checked.reaches (hreads.found.reaches (hreads.indexed.reaches hbefore)))
      (fun other hmem => hcontinues.stays_made (hmade other (List.mem_cons_of_mem _ hmem))) hrest
      fun other hmem => hrunning other (List.mem_cons_of_mem _ hmem)
    rw [sendToHosts, sendData_linear hbefore hreads hnow (hmade turn List.mem_cons_self), hlater]
    by_cases hsendable : turn.2.Sendable turn.1.2 buffer
    · rw [if_pos hsendable, List.filter_cons_of_pos (by simpa using hsendable)]
      rfl
    · rw [if_neg hsendable, List.filter_cons_of_neg (by simpa using hsendable)]
      rfl

/-- **A broadcast.**  Its turns may be interleaved with anything: it queues the message once for every turn
whose session does not wait for its end at the turn's last read, in the order of the turns, and reports
success. -/
theorem boardcast_linear {turns : List ((NodeId × SessionId) × SendReads)}
    (hbefore : (destroyer localNodeId slaveReactorNum nodes).Reaches HandsOut before)
    (hhosts : AllHosts before.hostsInfoManager (turns.map Prod.fst))
    (hfollow : TurnsFollow localNodeId nodes slaveReactorNum before turns)
    (hrunning₀ : before.crashed = false) (hrunning : ∀ turn ∈ turns, turn.2.checked.crashed = false)
    (moduleId : ModuleID) (data : List Byte) :
    boardcastModuleMessage slaveReactorNum turns moduleId data =
      some (0, (turns.filter fun turn => turn.2.Sendable turn.1.2 (encodeModuleMessage moduleId data)).map
        fun turn => turn.2.task turn.1.2 (encodeModuleMessage moduleId data)) := by
  have hplaced := placed_of_reaches hbefore hrunning₀
  rw [boardcastModuleMessage, sendToHosts_linear hbefore ?_ hfollow hrunning, Option.map_some]
  intro turn hmem
  exact hplaced.known turn.1.1 turn.1.2 ((hhosts _ _).mp (List.mem_map_of_mem hmem))

/-- Of two nodes the first is disconnected during its turn. -/
theorem boardcast_linear_disconnected :
    let connected :=
      ((Server.start []).addSession 5 ⟨"10.0.0.2", 9000⟩ 0 77).addSession 6 ⟨"10.0.0.3", 9000⟩ 1 77
    let before := { connected with
      hostsInfoManager := ((connected.hostsInfoManager.addHostIdInfo "B" 1).2.addHostIdInfo "C" 2).2 }
    let after := (before.setWaitingDisconnect 1).addDestroy ⟨1, 0, false⟩
    boardcastModuleMessage 2
        [(("B", 1), ⟨before, before, after⟩), (("C", 2), ⟨after, after, after⟩)] .raft [] =
      some (0, [⟨1, 2, encodeModuleMessage .raft []⟩]) := by
  intro connected before after
  have hstart : (destroyer "A" 2 []).Reaches HandsOut (.start []) := .init rfl
  have hfirst := hstart.step (a := ServerEvent.connect 5 ⟨"10.0.0.2", 9000⟩ 0 77) trivial rfl
  have hconnected : (destroyer "A" 2 []).Reaches HandsOut connected :=
    hfirst.step (a := .connect 6 ⟨"10.0.0.3", 9000⟩ 1 77) trivial rfl
  have hknown := hconnected.step (a := ServerEvent.addHostIdInfo "B" 1) ⟨Nat.one_pos, by decide⟩ rfl
  have hbefore : (destroyer "A" 2 []).Reaches HandsOut before :=
    hknown.step (a := .addHostIdInfo "C" 2) ⟨Nat.two_pos, by decide⟩ rfl
  let turns : List ((NodeId × SessionId) × SendReads) :=
    [(("B", 1), ⟨before, before, after⟩), (("C", 2), ⟨after, after, after⟩)]
  have hhosts : AllHosts before.hostsInfoManager (turns.map Prod.fst) := by
    intro nodeId sessionId
    show (nodeId, sessionId) ∈ [("B", 1), ("C", 2)] ↔
      Function.update (Function.update (fun _ => none) "B" (some 1)) "C" (some 2) nodeId = _
    rw [Function.update_apply, Function.update_apply]
    split_ifs with hC hB
    · simp [hC, eq_comm]
    · simp [hB, eq_comm]
    · simp [hB, hC]
  have hfollow : TurnsFollow "A" [] 2 before turns :=
    ⟨⟨⟨[], rfl⟩, ⟨[], rfl⟩, ⟨[.disconnectSession 1], rfl⟩⟩, ⟨⟨[], rfl⟩, ⟨[], rfl⟩, ⟨[], rfl⟩⟩, trivial⟩
  have hrunning : ∀ turn ∈ turns, turn.2.checked.crashed = false :=
    List.forall_mem_cons.mpr ⟨rfl, List.forall_mem_cons.mpr ⟨rfl, List.forall_mem_nil _⟩⟩
  exact boardcast_linear hbefore hhosts hfollow rfl hrunning .raft []

end Runs

end DistributedNetwork.Session
