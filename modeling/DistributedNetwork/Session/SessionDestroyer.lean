import DistributedNetwork.Library.TransitionSystem
import DistributedNetwork.Session.HostsInfoManager

/-!
# Tearing sessions down

Requests to destroy a session come from the reactor, from failed sends, from the alive checker and
from the handshake.  They wait in one queue, are not deduplicated, and hold the session **weakly**.

* `Server` — the sessions, who references them, the kernel's descriptors and the tables;
* `destroyHandler` — what the destroyer's thread does with one request;
* `Harmless` — the states in which a request for a session that is already torn down does nothing;
* `teardown_idempotent` — while every such request is `Harmless`, and every first one finds the number of
  the session's reactor, a session's descriptor is closed once and by its first request; this is **exactly**
  what the requests need;
* `teardown_repeated` — without it the handler dereferences a freed session, closes the descriptor of
  another one, dereferences the null pointer that the pool returns for an uninitialised number, or leaves
  the session in its reactor.
-/

namespace DistributedNetwork.Session

open DistributedNetwork.Library

/-! ### Descriptors -/

/-- Who opened a descriptor: a session's socket, or any other file of the process. -/
inductive Owner where
  | session (sessionId : SessionId)
  | other
  deriving DecidableEq

/-- The kernel's side: the owner of each open descriptor, and the descriptors each reactor polls. -/
structure Descriptors where
  owner : ℕ → Option Owner
  polled : ℕ → ℕ → Bool

namespace Descriptors

/-- `epoll_ctl` with `EPOLL_CTL_DEL`: it fails on a descriptor the reactor does not poll. -/
def epollDel (d : Descriptors) (reactor fd : ℕ) : Option Descriptors :=
  if d.polled reactor fd = true then
    some { d with
      polled := Function.update d.polled reactor (Function.update (d.polled reactor) fd false) }
  else none

def openOther (d : Descriptors) (fd : ℕ) : Descriptors :=
  { d with owner := Function.update d.owner fd (some .other) }

/-- `close`: it fails on a descriptor that is not open, and ends the polling of one that is. -/
def close (d : Descriptors) (fd : ℕ) : Option (Owner × Descriptors) :=
  (d.owner fd).map fun owner =>
    (owner, { d with
      owner := Function.update d.owner fd none
      polled := fun reactor => Function.update (d.polled reactor) fd false })

end Descriptors

/-! ### The state -/

structure P2PSession where
  m_fd : ℕ
  m_nodeId : NodeId
  m_peerHostEndPointInfo : HostEndPointInfo
  m_isWaitingDisconnect : Bool
  m_slaveReactorIndex : ℕ

structure SessionDestoryInfo where
  sessionId : SessionId
  flag : ℤ
  isFromAliveChecker : Bool
  deriving DecidableEq

structure Server where
  /-- the factory's counter -/
  m_sessionId : SessionId
  /-- the object of each session made so far, with its last contents once it is freed -/
  session : SessionId → P2PSession
  /-- the reactor that a session is registered with; the object knows it a little later -/
  reactorOf : SessionId → ℕ
  /-- strong references outside the reactors: send tasks, locked weak pointers, callbacks -/
  references : SessionId → ℕ
  descriptors : Descriptors
  m_p2pSessions : ℕ → SessionId → Bool
  /-- the alive checker's `m_sessions` -/
  aliveCheckerSessions : SessionId → Bool
  m_sessionIdSlaveReactorIndex : SessionId → Option ℕ
  hostsInfoManager : HostsInfoManager
  m_waitingDestroySessionInfos : List SessionDestoryInfo
  /-- the destroy handler has run for the session -/
  handled : SessionId → Bool
  /-- the owners of the descriptors that the session's requests have closed, in order -/
  closed : SessionId → List Owner
  /-- a null pointer was dereferenced -/
  crashed : Bool

namespace Server

/-- The object exists: a weak pointer to it can be locked. -/
def alive (s : Server) (sessionId : SessionId) : Bool :=
  0 < s.references sessionId || s.m_p2pSessions (s.reactorOf sessionId) sessionId

def setWaitingDisconnect (s : Server) (sessionId : SessionId) : Server :=
  let p2pSession := { s.session sessionId with m_isWaitingDisconnect := true }
  { s with session := Function.update s.session sessionId p2pSession }

def setNodeId (s : Server) (sessionId : SessionId) (nodeId : NodeId) : Server :=
  let p2pSession := { s.session sessionId with m_nodeId := nodeId }
  { s with session := Function.update s.session sessionId p2pSession }

def setPeerHostEndPointInfo (s : Server) (sessionId : SessionId) (peer : HostEndPointInfo) :
    Server :=
  let p2pSession := { s.session sessionId with m_peerHostEndPointInfo := peer }
  { s with session := Function.update s.session sessionId p2pSession }

/-- `P2PSession::setSlaveReactorIndex`, which the thread that registers a session calls afterwards. -/
def setSlaveReactorIndex (s : Server) (sessionId : SessionId) : Server :=
  let p2pSession := { s.session sessionId with m_slaveReactorIndex := s.reactorOf sessionId }
  { s with session := Function.update s.session sessionId p2pSession }

/-- `SessionAliveChecker::removeSession`. -/
def removeSession (s : Server) (sessionId : SessionId) : Server :=
  { s with aliveCheckerSessions := Function.update s.aliveCheckerSessions sessionId false }

/-- `SlaveReactor::removeClient`: the session stays in the reactor's map when `epoll_ctl` fails. -/
def removeClient (s : Server) (reactor : ℕ) (sessionId : SessionId) (fd : ℕ) : Server :=
  match s.descriptors.epollDel reactor fd with
  | none => s
  | some descriptors =>
    { s with
      descriptors := descriptors
      m_p2pSessions := Function.update s.m_p2pSessions reactor
        (Function.update (s.m_p2pSessions reactor) sessionId false) }

def removeSessionIdSlaveReactorRelation (s : Server) (sessionId : SessionId) : Server :=
  { s with
    m_sessionIdSlaveReactorIndex := Function.update s.m_sessionIdSlaveReactorIndex sessionId none }

/-- `Socket::close` on behalf of a session; a failure is only logged. -/
def closeFd (s : Server) (sessionId : SessionId) (fd : ℕ) : Server :=
  match s.descriptors.close fd with
  | none => s
  | some (owner, descriptors) =>
    { s with
      descriptors := descriptors
      closed := Function.update s.closed sessionId (s.closed sessionId ++ [owner]) }

/-- The destroyer's handler.  The null check logs `p2pSession->sessionId()` through the null pointer, and the
pool returns a null pointer for a number it does not know. -/
def destroyHandler (localNodeId : NodeId) (slaveReactorNum : ℕ) (s : Server)
    (destoryInfo : SessionDestoryInfo) : Server :=
  let sessionId := destoryInfo.sessionId
  let s₀ := { s with handled := Function.update s.handled sessionId true }
  if s.alive sessionId = true then
    let p2pSession := s.session sessionId
    let s₁ := s₀.setWaitingDisconnect sessionId
    let s₂ := if destoryInfo.isFromAliveChecker = false then s₁.removeSession sessionId else s₁
    if p2pSession.m_slaveReactorIndex < slaveReactorNum then
      let s₃ := s₂.removeClient p2pSession.m_slaveReactorIndex sessionId p2pSession.m_fd
      let s₄ := { s₃ with
        hostsInfoManager := disconnectClient localNodeId s₃.hostsInfoManager
          p2pSession.m_peerHostEndPointInfo p2pSession.m_nodeId destoryInfo.flag sessionId }
      let s₅ := s₄.removeSessionIdSlaveReactorRelation sessionId
      s₅.closeFd sessionId p2pSession.m_fd
    else { s₂ with crashed := true }
  else { s₀ with crashed := true }

def addDestroy (s : Server) (destoryInfo : SessionDestoryInfo) : Server :=
  { s with m_waitingDestroySessionInfos := s.m_waitingDestroySessionInfos ++ [destoryInfo] }

/-- A new socket becomes a session: made by the factory, dispatched and polled by a reactor.  The
caller still holds its pointer, and `m_slaveReactorIndex` is what the memory held before. -/
def addSession (s : Server) (fd : ℕ) (peer : HostEndPointInfo) (reactor uninitialised : ℕ) : Server :=
  { s with
    m_sessionId := s.m_sessionId + 1
    session := Function.update s.session s.m_sessionId ⟨fd, "", peer, false, uninitialised⟩
    reactorOf := Function.update s.reactorOf s.m_sessionId reactor
    references := Function.update s.references s.m_sessionId 1
    descriptors :=
      ⟨Function.update s.descriptors.owner fd (some (.session s.m_sessionId)),
       Function.update s.descriptors.polled reactor
        (Function.update (s.descriptors.polled reactor) fd true)⟩
    m_p2pSessions := Function.update s.m_p2pSessions reactor
      (Function.update (s.m_p2pSessions reactor) s.m_sessionId true)
    m_sessionIdSlaveReactorIndex :=
      Function.update s.m_sessionIdSlaveReactorIndex s.m_sessionId (some reactor) }

end Server

/-! ### The steps of the other threads -/

inductive ServerEvent where
  /-- a connection is accepted or made, and handed to a reactor -/
  | connect (fd : ℕ) (peer : HostEndPointInfo) (reactor uninitialised : ℕ)
  | setSlaveReactorIndex (sessionId : SessionId)
  /-- the process opens a descriptor that is no session's -/
  | openOther (fd : ℕ)
  /-- `SessionAliveChecker::addSession` -/
  | watch (sessionId : SessionId)
  /-- the alive checker drops a session that no longer exists -/
  | unwatch (sessionId : SessionId)
  /-- a thread copies a pointer or locks a weak one -/
  | hold (sessionId : SessionId)
  | release (sessionId : SessionId)
  | setNodeId (sessionId : SessionId) (nodeId : NodeId)
  | setPeerHostEndPointInfo (sessionId : SessionId) (peer : HostEndPointInfo)
  | setHostId (endPointInfo : HostEndPointInfo) (nodeId : NodeId)
  | addHostIdInfo (nodeId : NodeId) (sessionId : SessionId)
  /-- `SlaveReactor::disconnectSession` -/
  | disconnectSession (sessionId : SessionId)
  /-- a send in `handleSend` fails with `ECONNRESET` or `EPIPE` -/
  | sendFailed (sessionId : SessionId)
  | heartbeatTimeout (sessionId : SessionId)
  /-- the handshake ends the session with this result -/
  | rejected (sessionId : SessionId) (result : ℤ)
  /-- the destroyer's thread handles the next request -/
  | destroy
  deriving DecidableEq

namespace Server

def whenAlive (s : Server) (sessionId : SessionId) (s' : Server) : Option Server :=
  if s.alive sessionId = true then some s' else none

def step (localNodeId : NodeId) (slaveReactorNum : ℕ) (s : Server) (event : ServerEvent) : Option Server :=
  if s.crashed = true then none
  else match event with
  | .connect fd peer reactor uninitialised =>
    if s.descriptors.owner fd = none ∧ reactor < slaveReactorNum then
      some (s.addSession fd peer reactor uninitialised)
    else none
  | .setSlaveReactorIndex sessionId => s.whenAlive sessionId (s.setSlaveReactorIndex sessionId)
  | .openOther fd =>
    if s.descriptors.owner fd = none then some { s with descriptors := s.descriptors.openOther fd }
    else none
  | .watch sessionId =>
    s.whenAlive sessionId
      { s with aliveCheckerSessions := Function.update s.aliveCheckerSessions sessionId true }
  | .unwatch sessionId =>
    if s.alive sessionId = true then none else some (s.removeSession sessionId)
  | .hold sessionId =>
    s.whenAlive sessionId
      { s with references := Function.update s.references sessionId (s.references sessionId + 1) }
  | .release sessionId =>
    if s.references sessionId = 0 then none
    else some
      { s with references := Function.update s.references sessionId (s.references sessionId - 1) }
  | .setNodeId sessionId nodeId =>
    s.whenAlive sessionId (s.setNodeId sessionId nodeId)
  | .setPeerHostEndPointInfo sessionId peer =>
    s.whenAlive sessionId (s.setPeerHostEndPointInfo sessionId peer)
  | .setHostId endPointInfo nodeId =>
    some { s with hostsInfoManager := (s.hostsInfoManager.setHostId endPointInfo nodeId).2 }
  | .addHostIdInfo nodeId sessionId =>
    some { s with hostsInfoManager := (s.hostsInfoManager.addHostIdInfo nodeId sessionId).2 }
  | .disconnectSession sessionId =>
    s.whenAlive sessionId ((s.setWaitingDisconnect sessionId).addDestroy ⟨sessionId, 0, false⟩)
  | .sendFailed sessionId => s.whenAlive sessionId (s.addDestroy ⟨sessionId, 0, false⟩)
  | .heartbeatTimeout sessionId =>
    if s.aliveCheckerSessions sessionId = true then
      s.whenAlive sessionId ((s.removeSession sessionId).addDestroy ⟨sessionId, 0, true⟩)
    else none
  | .rejected sessionId result => s.whenAlive sessionId (s.addDestroy ⟨sessionId, result, false⟩)
  | .destroy =>
    match s.m_waitingDestroySessionInfos with
    | [] => none
    | destoryInfo :: rest =>
      some (destroyHandler localNodeId slaveReactorNum { s with m_waitingDestroySessionInfos := rest }
        destoryInfo)

end Server

/-- A server without sessions, whose nodes file lists `nodes`. -/
def Server.start (nodes : List HostEndPointInfo) : Server where
  m_sessionId := 1
  session _ := ⟨0, "", ⟨"", 0⟩, false, 0⟩
  reactorOf _ := 0
  references _ := 0
  descriptors := ⟨fun _ => none, fun _ _ => false⟩
  m_p2pSessions _ _ := false
  aliveCheckerSessions _ := false
  m_sessionIdSlaveReactorIndex _ := none
  hostsInfoManager := .init nodes
  m_waitingDestroySessionInfos := []
  handled _ := false
  closed _ := []
  crashed := false

def destroyer (localNodeId : NodeId) (slaveReactorNum : ℕ) (nodes : List HostEndPointInfo) :
    TransitionSystem Server ServerEvent where
  init s := s = .start nodes
  step := Server.step localNodeId slaveReactorNum

/-! ### When a request does nothing -/

/-- **A request that does nothing.**  The object is still referenced, its descriptor number has not
been opened again, and neither the alive checker nor the tables know the session or its peer. -/
structure Harmless (localNodeId : NodeId) (s : Server) (destoryInfo : SessionDestoryInfo) : Prop where
  alive : s.alive destoryInfo.sessionId = true
  fd_closed : s.descriptors.owner (s.session destoryInfo.sessionId).m_fd = none
  unwatched : destoryInfo.isFromAliveChecker = false →
    s.aliveCheckerSessions destoryInfo.sessionId = false
  tables : NothingToDisconnect localNodeId s.hostsInfoManager
    (s.session destoryInfo.sessionId).m_peerHostEndPointInfo
    (s.session destoryInfo.sessionId).m_nodeId destoryInfo.flag destoryInfo.sessionId

/-- The object of the session knows its reactor. -/
def KnowsReactor (s : Server) (sessionId : SessionId) : Prop :=
  (s.session sessionId).m_slaveReactorIndex = s.reactorOf sessionId

/-- The run condition: the first request for a session comes after `setSlaveReactorIndex`, or finds the
number of its reactor in the memory all the same, and a later one is harmless. -/
def Undisturbed (localNodeId : NodeId) (s : Server) : ServerEvent → Prop
  | .destroy => ∀ destoryInfo rest, s.m_waitingDestroySessionInfos = destoryInfo :: rest →
      (s.handled destoryInfo.sessionId = false → KnowsReactor s destoryInfo.sessionId) ∧
      (s.handled destoryInfo.sessionId = true → Harmless localNodeId s destoryInfo)
  | _ => True

/-! ### The handler's steps -/

namespace Server

variable (s : Server) (sessionId : SessionId)

theorem setWaitingDisconnect_eq_self (h : (s.session sessionId).m_isWaitingDisconnect = true) :
    s.setWaitingDisconnect sessionId = s := by
  have hsame : { s.session sessionId with m_isWaitingDisconnect := true } = s.session sessionId := by
    rw [← h]
  unfold setWaitingDisconnect
  simp only [hsame, Function.update_eq_self]

theorem removeSession_eq_self (h : s.aliveCheckerSessions sessionId = false) :
    s.removeSession sessionId = s := by
  unfold removeSession
  rw [← h, Function.update_eq_self]

theorem removeSessionIdSlaveReactorRelation_eq_self
    (h : s.m_sessionIdSlaveReactorIndex sessionId = none) :
    s.removeSessionIdSlaveReactorRelation sessionId = s := by
  unfold removeSessionIdSlaveReactorRelation
  rw [← h, Function.update_eq_self]

theorem removeClient_eq_self {reactor fd : ℕ} (h : s.descriptors.polled reactor fd = false) :
    s.removeClient reactor sessionId fd = s := by
  simp [removeClient, Descriptors.epollDel, h]

theorem closeFd_eq_self {fd : ℕ} (h : s.descriptors.owner fd = none) :
    s.closeFd sessionId fd = s := by
  simp [closeFd, Descriptors.close, h]

theorem removeClient_owner (reactor fd : ℕ) :
    (s.removeClient reactor sessionId fd).descriptors.owner = s.descriptors.owner := by
  unfold removeClient Descriptors.epollDel
  split_ifs <;> rfl

theorem closeFd_owner (fd : ℕ) :
    (s.closeFd sessionId fd).descriptors.owner = Function.update s.descriptors.owner fd none := by
  cases h : s.descriptors.owner fd with
  | none => rw [closeFd_eq_self s sessionId h, ← h, Function.update_eq_self]
  | some owner =>
    unfold closeFd Descriptors.close
    rw [h]
    rfl

/-- Taking a session off its reactor touches the descriptors and the reactor's map only. -/
theorem removeClient_frame (reactor fd : ℕ) :
    s.removeClient reactor sessionId fd =
      { s with
        descriptors := (s.removeClient reactor sessionId fd).descriptors
        m_p2pSessions := (s.removeClient reactor sessionId fd).m_p2pSessions } := by
  unfold removeClient
  split <;> rfl

/-- Closing touches the descriptors only, and the record of what was closed. -/
theorem closeFd_frame (fd : ℕ) :
    s.closeFd sessionId fd =
      { s with
        descriptors := (s.closeFd sessionId fd).descriptors
        closed := (s.closeFd sessionId fd).closed } := by
  unfold closeFd
  split <;> rfl

end Server

section Handler

open Server

variable (localNodeId : NodeId) (slaveReactorNum : ℕ) (s : Server) (destoryInfo : SessionDestoryInfo)

theorem destroyHandler_crashed (h : s.alive destoryInfo.sessionId = false) :
    (s.destroyHandler localNodeId slaveReactorNum destoryInfo).crashed = true := by
  simp [destroyHandler, h]

/-- The pool has no reactor of that number. -/
theorem destroyHandler_null
    (h : slaveReactorNum ≤ (s.session destoryInfo.sessionId).m_slaveReactorIndex) :
    (s.destroyHandler localNodeId slaveReactorNum destoryInfo).crashed = true := by
  cases halive : s.alive destoryInfo.sessionId with
  | false => exact destroyHandler_crashed localNodeId slaveReactorNum s destoryInfo halive
  | true =>
    simp only [destroyHandler, if_pos halive]
    rw [if_neg (Nat.not_lt.mpr h)]

/-- The handler makes no session and marks the one of the request, whatever else it meets. -/
theorem destroyHandler_marks :
    (s.destroyHandler localNodeId slaveReactorNum destoryInfo).m_sessionId = s.m_sessionId ∧
    (s.destroyHandler localNodeId slaveReactorNum destoryInfo).handled =
      Function.update s.handled destoryInfo.sessionId true := by
  cases halive : s.alive destoryInfo.sessionId with
  | false =>
    rw [destroyHandler, if_neg (Bool.eq_false_iff.mp halive)]
    exact ⟨rfl, rfl⟩
  | true =>
    simp only [destroyHandler, if_pos halive]
    split
    · rw [closeFd_frame, removeClient_frame]
      cases hfrom : destoryInfo.isFromAliveChecker <;> exact ⟨rfl, rfl⟩
    · cases hfrom : destoryInfo.isFromAliveChecker <;> exact ⟨rfl, rfl⟩

/-- The handler marks the session, whatever its reactor is. -/
theorem destroyHandler_session (h : s.alive destoryInfo.sessionId = true) :
    (s.destroyHandler localNodeId slaveReactorNum destoryInfo).session =
      Function.update s.session destoryInfo.sessionId
        { s.session destoryInfo.sessionId with m_isWaitingDisconnect := true } := by
  simp only [destroyHandler, if_pos h]
  split
  · rw [closeFd_frame, removeClient_frame]
    show Server.session (if _ then _ else _) = _
    split <;> rfl
  · show Server.session (if _ then _ else _) = _
    split <;> rfl

theorem destroyHandler_reactorOf :
    (s.destroyHandler localNodeId slaveReactorNum destoryInfo).reactorOf = s.reactorOf := by
  by_cases h : s.alive destoryInfo.sessionId = true
  · simp only [destroyHandler, if_pos h]
    split
    · rw [closeFd_frame, removeClient_frame]
      show Server.reactorOf (if _ then _ else _) = _
      split <;> rfl
    · show Server.reactorOf (if _ then _ else _) = _
      split <;> rfl
  · simp [destroyHandler, h]

variable {slaveReactorNum : ℕ} {s : Server} {destoryInfo : SessionDestoryInfo}

section Pooled

variable (h : s.alive destoryInfo.sessionId = true)
  (hvalid : (s.session destoryInfo.sessionId).m_slaveReactorIndex < slaveReactorNum)

include h hvalid

theorem destroyHandler_owner :
    (s.destroyHandler localNodeId slaveReactorNum destoryInfo).descriptors.owner =
      Function.update s.descriptors.owner (s.session destoryInfo.sessionId).m_fd none := by
  simp only [destroyHandler, if_pos h, if_pos hvalid, closeFd_owner, removeSessionIdSlaveReactorRelation,
    removeClient_owner]
  split <;> rfl

theorem destroyHandler_aliveCheckerSessions :
    (s.destroyHandler localNodeId slaveReactorNum destoryInfo).aliveCheckerSessions =
      if destoryInfo.isFromAliveChecker = false then
        Function.update s.aliveCheckerSessions destoryInfo.sessionId false
      else s.aliveCheckerSessions := by
  simp only [destroyHandler, if_pos h, if_pos hvalid]
  rw [closeFd_frame, removeClient_frame]
  show Server.aliveCheckerSessions (if _ then _ else _) = _
  split <;> rfl

theorem destroyHandler_hostsInfoManager :
    (s.destroyHandler localNodeId slaveReactorNum destoryInfo).hostsInfoManager =
      disconnectClient localNodeId s.hostsInfoManager
        (s.session destoryInfo.sessionId).m_peerHostEndPointInfo
        (s.session destoryInfo.sessionId).m_nodeId destoryInfo.flag destoryInfo.sessionId := by
  simp only [destroyHandler, if_pos h, if_pos hvalid]
  rw [closeFd_frame, removeClient_frame]
  show disconnectClient _ (Server.hostsInfoManager (if _ then _ else _)) _ _ _ _ = _
  split <;> rfl

/-- A reactor that does not poll the descriptor keeps its sessions, and so do all others. -/
theorem destroyHandler_wrongReactor
    (hunpolled : s.descriptors.polled (s.session destoryInfo.sessionId).m_slaveReactorIndex
      (s.session destoryInfo.sessionId).m_fd = false) :
    (s.destroyHandler localNodeId slaveReactorNum destoryInfo).m_p2pSessions = s.m_p2pSessions := by
  simp only [destroyHandler, if_pos h, if_pos hvalid]
  rw [closeFd_frame]
  cases hfrom : destoryInfo.isFromAliveChecker <;>
    simp [removeClient, Descriptors.epollDel, setWaitingDisconnect, removeSession, hunpolled,
      removeSessionIdSlaveReactorRelation]

/-- **The first request.**  A session that its reactor polls is taken off the reactor, and its
descriptor is closed. -/
theorem destroyHandler_registered {owner : Owner}
    (hpolled : s.descriptors.polled (s.session destoryInfo.sessionId).m_slaveReactorIndex
      (s.session destoryInfo.sessionId).m_fd = true)
    (howner : s.descriptors.owner (s.session destoryInfo.sessionId).m_fd = some owner) :
    s.destroyHandler localNodeId slaveReactorNum destoryInfo =
      let sessionId := destoryInfo.sessionId
      let p2pSession := s.session sessionId
      let reactor := p2pSession.m_slaveReactorIndex
      { s with
        handled := Function.update s.handled sessionId true
        session := Function.update s.session sessionId
          { p2pSession with m_isWaitingDisconnect := true }
        aliveCheckerSessions :=
          (s.destroyHandler localNodeId slaveReactorNum destoryInfo).aliveCheckerSessions
        descriptors :=
          ⟨Function.update s.descriptors.owner p2pSession.m_fd none,
           fun reactor => Function.update (s.descriptors.polled reactor) p2pSession.m_fd false⟩
        m_p2pSessions := Function.update s.m_p2pSessions reactor
          (Function.update (s.m_p2pSessions reactor) sessionId false)
        hostsInfoManager := (s.destroyHandler localNodeId slaveReactorNum destoryInfo).hostsInfoManager
        m_sessionIdSlaveReactorIndex :=
          Function.update s.m_sessionIdSlaveReactorIndex sessionId none
        closed := Function.update s.closed sessionId (s.closed sessionId ++ [owner]) } := by
  have hsame : ∀ reactor, Function.update (Function.update s.descriptors.polled
      (s.session destoryInfo.sessionId).m_slaveReactorIndex
      (Function.update (s.descriptors.polled (s.session destoryInfo.sessionId).m_slaveReactorIndex)
        (s.session destoryInfo.sessionId).m_fd false) reactor)
      (s.session destoryInfo.sessionId).m_fd false =
      Function.update (s.descriptors.polled reactor) (s.session destoryInfo.sessionId).m_fd false := by
    intro reactor
    by_cases hr : reactor = (s.session destoryInfo.sessionId).m_slaveReactorIndex
    · rw [hr, Function.update_self, Function.update_idem]
    · rw [Function.update_of_ne hr]
  cases hfrom : destoryInfo.isFromAliveChecker <;>
    simp [destroyHandler, h, hvalid, hfrom, removeClient, Descriptors.epollDel, setWaitingDisconnect,
      removeSession, hpolled, closeFd, Descriptors.close, removeSessionIdSlaveReactorRelation,
      howner, hsame]

end Pooled

end Handler

/-! ### The invariant -/

/-- The factory has given this number to a session. -/
def Made (s : Server) (sessionId : SessionId) : Prop :=
  0 < sessionId ∧ sessionId < s.m_sessionId

/-- What a session owns until its first request is handled, and what is left of it afterwards. -/
structure SessionConsistent (slaveReactorNum : ℕ) (s : Server) (sessionId : SessionId) : Prop where
  unmade : ¬ Made s sessionId →
    s.handled sessionId = false ∧ s.closed sessionId = [] ∧ s.alive sessionId = false
  registered : Made s sessionId → s.handled sessionId = false →
    s.descriptors.owner (s.session sessionId).m_fd = some (.session sessionId) ∧
    s.descriptors.polled (s.reactorOf sessionId) (s.session sessionId).m_fd = true ∧
    s.m_p2pSessions (s.reactorOf sessionId) sessionId = true ∧
    s.closed sessionId = []
  handled : s.handled sessionId = true →
    s.closed sessionId = [.session sessionId] ∧
    (s.session sessionId).m_isWaitingDisconnect = true ∧
    s.m_sessionIdSlaveReactorIndex sessionId = none ∧ KnowsReactor s sessionId
  pooled : Made s sessionId → s.reactorOf sessionId < slaveReactorNum

structure Consistent (slaveReactorNum : ℕ) (s : Server) : Prop where
  running : s.crashed = false
  counter : 0 < s.m_sessionId
  queued : ∀ destoryInfo ∈ s.m_waitingDestroySessionInfos, Made s destoryInfo.sessionId
  polled : ∀ reactor fd, s.descriptors.polled reactor fd = true →
    ∃ sessionId, Made s sessionId ∧ s.descriptors.owner fd = some (.session sessionId) ∧
      s.reactorOf sessionId = reactor
  sessions : ∀ sessionId, SessionConsistent slaveReactorNum s sessionId

theorem Server.whenAlive_eq_some {s s₁ s₂ : Server} {sessionId : SessionId} :
    s.whenAlive sessionId s₁ = some s₂ ↔ s.alive sessionId = true ∧ s₁ = s₂ := by
  rw [Server.whenAlive, Option.ite_none_right_eq_some, Option.some.injEq]

theorem Server.alive_of_registered {s : Server} {sessionId : SessionId}
    (h : s.m_p2pSessions (s.reactorOf sessionId) sessionId = true) : s.alive sessionId = true := by
  simp [Server.alive, h]

/-- The session is torn down: its own descriptor has been closed, once and no other with it, and its reactor
does not hold it any more. -/
structure TornDown (s : Server) (sessionId : SessionId) : Prop where
  running : s.crashed = false
  closed : s.closed sessionId = [.session sessionId]
  fd_closed : s.descriptors.owner (s.session sessionId).m_fd = none
  removed : s.m_p2pSessions (s.reactorOf sessionId) sessionId = false

namespace Consistent

variable {slaveReactorNum : ℕ} {s s' : Server}

theorem made_of_alive (h : Consistent slaveReactorNum s) {sessionId : SessionId}
    (ha : s.alive sessionId = true) : Made s sessionId := by
  by_contra hmade
  have hdead := ((h.sessions sessionId).unmade hmade).2.2
  rw [ha] at hdead
  cases hdead

/-- Steps that leave the descriptors and the reactors alone, enqueue requests for sessions that
exist, and change of a session neither its descriptor nor what it knows of its reactor. -/
theorem frame (h : Consistent slaveReactorNum s)
    (hframe : s' = { s with
      session := s'.session
      references := s'.references
      aliveCheckerSessions := s'.aliveCheckerSessions
      hostsInfoManager := s'.hostsInfoManager
      m_waitingDestroySessionInfos := s'.m_waitingDestroySessionInfos })
    (hfd : ∀ id, (s'.session id).m_fd = (s.session id).m_fd)
    (hreactor : ∀ id, KnowsReactor s id → (s'.session id).m_slaveReactorIndex = s.reactorOf id)
    (hwaiting : ∀ id, (s.session id).m_isWaitingDisconnect = true →
      (s'.session id).m_isWaitingDisconnect = true)
    (hreferences : ∀ id, 0 < s'.references id → s.alive id = true)
    (hqueue : ∀ destoryInfo ∈ s'.m_waitingDestroySessionInfos,
      destoryInfo ∈ s.m_waitingDestroySessionInfos ∨ s.alive destoryInfo.sessionId = true) :
    Consistent slaveReactorNum s' := by
  rw [hframe]
  constructor
  case running => exact h.running
  case counter => exact h.counter
  case queued =>
    intro destoryInfo hmem
    rcases hqueue destoryInfo hmem with hold | halive
    · exact h.queued destoryInfo hold
    · exact h.made_of_alive halive
  case polled => exact h.polled
  case sessions =>
    intro id
    have hid := h.sessions id
    constructor
    · intro hmade
      obtain ⟨hhandled, hclosed, hdead⟩ := hid.unmade hmade
      refine ⟨hhandled, hclosed, ?_⟩
      have hnone : s'.references id = 0 := by
        by_contra hpos
        rw [hreferences id (by omega)] at hdead
        cases hdead
      rw [Server.alive, Bool.or_eq_false_iff] at hdead
      show (decide (0 < s'.references id) || s.m_p2pSessions (s.reactorOf id) id) = false
      rw [hnone, hdead.2]
      rfl
    · intro hmade hhandled
      show s.descriptors.owner (s'.session id).m_fd = _ ∧
        s.descriptors.polled (s.reactorOf id) (s'.session id).m_fd = _ ∧ _
      rw [hfd id]
      exact hid.registered hmade hhandled
    · intro hhandled
      obtain ⟨hclosed, hwait, hrelation, hknows⟩ := hid.handled hhandled
      exact ⟨hclosed, hwaiting id hwait, hrelation, hreactor id hknows⟩
    · exact hid.pooled

theorem references_alive {id : SessionId} (h : 0 < s.references id) : s.alive id = true := by
  simp [Server.alive, h]

/-- A session's fields other than its descriptor may change, if it does not forget its reactor. -/
theorem setSession (h : Consistent slaveReactorNum s) (sessionId : SessionId) (p2pSession : P2PSession)
    (hfd : p2pSession.m_fd = (s.session sessionId).m_fd)
    (hreactor : KnowsReactor s sessionId → p2pSession.m_slaveReactorIndex = s.reactorOf sessionId)
    (hwaiting : (s.session sessionId).m_isWaitingDisconnect = true →
      p2pSession.m_isWaitingDisconnect = true) :
    Consistent slaveReactorNum
      { s with session := Function.update s.session sessionId p2pSession } := by
  refine h.frame rfl ?_ ?_ ?_ (fun _ hpos => references_alive (s := s) hpos) (fun _ hmem => .inl hmem)
  all_goals
    intro id
    by_cases hid : id = sessionId
    · rw [hid]
      simpa using by assumption
    · simp [hid, KnowsReactor]

/-- Steps that touch the alive checker and the tables only. -/
theorem keep (h : Consistent slaveReactorNum s)
    (hframe : s' = { s with
      aliveCheckerSessions := s'.aliveCheckerSessions
      hostsInfoManager := s'.hostsInfoManager }) : Consistent slaveReactorNum s' := by
  rw [hframe]
  exact h.frame rfl (fun _ => rfl) (fun _ hknows => hknows) (fun _ hw => hw)
    (fun _ hpos => references_alive (s := s) hpos) (fun _ hmem => .inl hmem)

theorem setReferences (h : Consistent slaveReactorNum s) {references : SessionId → ℕ}
    (hreferences : ∀ id, 0 < references id → s.alive id = true) :
    Consistent slaveReactorNum { s with references := references } :=
  h.frame rfl (fun _ => rfl) (fun _ hknows => hknows) (fun _ hw => hw) hreferences (fun _ hmem => .inl hmem)

theorem addDestroy (h : Consistent slaveReactorNum s) {destoryInfo : SessionDestoryInfo}
    (ha : s.alive destoryInfo.sessionId = true) : Consistent slaveReactorNum (s.addDestroy destoryInfo) := by
  refine h.frame rfl (fun _ => rfl) (fun _ hknows => hknows) (fun _ hw => hw)
    (fun _ hpos => references_alive (s := s) hpos) ?_
  intro info hmem
  rcases List.mem_append.mp hmem with hold | hnew
  · exact .inl hold
  · rw [List.mem_singleton.mp hnew]
    exact .inr ha

/-- A registered session exists: its reactor's map still holds it. -/
theorem alive_of_unhandled (h : Consistent slaveReactorNum s) {sessionId : SessionId}
    (hmade : Made s sessionId) (hhandled : s.handled sessionId = false) : s.alive sessionId = true :=
  Server.alive_of_registered ((h.sessions sessionId).registered hmade hhandled).2.2.1

theorem addSession (h : Consistent slaveReactorNum s) {fd : ℕ} (peer : HostEndPointInfo)
    {reactor : ℕ} (uninitialised : ℕ) (hfd : s.descriptors.owner fd = none)
    (hreactor : reactor < slaveReactorNum) :
    Consistent slaveReactorNum (s.addSession fd peer reactor uninitialised) := by
  have hmade' : ∀ {id}, Made s id → Made (s.addSession fd peer reactor uninitialised) id :=
    fun hmade => ⟨hmade.1, Nat.lt_succ_of_lt hmade.2⟩
  constructor
  case running => exact h.running
  case counter => exact Nat.succ_pos _
  case queued =>
    intro destoryInfo hmem
    exact hmade' (h.queued destoryInfo hmem)
  case polled =>
    intro reactor' fd' hpolled
    show ∃ sessionId, Made (s.addSession fd peer reactor uninitialised) sessionId ∧
      Function.update s.descriptors.owner fd (some (.session s.m_sessionId)) fd' = _ ∧
      Function.update s.reactorOf s.m_sessionId reactor sessionId = reactor'
    have hold (hstill : s.descriptors.polled reactor' fd' = true) (hne : fd' ≠ fd) :
        ∃ sessionId, Made (s.addSession fd peer reactor uninitialised) sessionId ∧
          Function.update s.descriptors.owner fd (some (.session s.m_sessionId)) fd' =
            some (.session sessionId) ∧
          Function.update s.reactorOf s.m_sessionId reactor sessionId = reactor' := by
      obtain ⟨sessionId, hmade, howner, hregistered⟩ := h.polled reactor' fd' hstill
      refine ⟨sessionId, hmade' hmade, ?_, ?_⟩
      · rw [Function.update_of_ne hne, howner]
      · rw [Function.update_of_ne (Nat.ne_of_lt hmade.2), hregistered]
    by_cases hfd' : fd' = fd
    · by_cases hr : reactor' = reactor
      · refine ⟨s.m_sessionId, ⟨h.counter, Nat.lt_succ_self _⟩, ?_, ?_⟩
        · rw [hfd', Function.update_self]
        · rw [Function.update_self, hr]
      · -- no reactor polls a descriptor that is not open
        have hstill : s.descriptors.polled reactor' fd' = true := by
          simpa [Server.addSession, hr] using hpolled
        obtain ⟨sessionId, -, howner, -⟩ := h.polled reactor' fd' hstill
        rw [hfd', hfd] at howner
        cases howner
    · refine hold ?_ hfd'
      by_cases hr : reactor' = reactor
      · simpa [Server.addSession, hr, hfd'] using hpolled
      · simpa [Server.addSession, hr] using hpolled
  case sessions =>
    intro id
    have hid := h.sessions id
    by_cases hnew : id = s.m_sessionId
    · -- the session just made
      obtain ⟨hhandled, hclosed, -⟩ := hid.unmade fun hmade => absurd hnew (Nat.ne_of_lt hmade.2)
      subst hnew
      constructor
      · intro hunmade
        exact absurd ⟨h.counter, Nat.lt_succ_self _⟩ hunmade
      · intro _ _
        simpa [Server.addSession] using hclosed
      · intro hh
        rw [show (s.addSession fd peer reactor uninitialised).handled s.m_sessionId =
          s.handled s.m_sessionId from rfl, hhandled] at hh
        cases hh
      · intro _
        simpa [Server.addSession] using hreactor
    · have hsession : (s.addSession fd peer reactor uninitialised).session id = s.session id := by
        simp [Server.addSession, hnew]
      have hregistered : (s.addSession fd peer reactor uninitialised).reactorOf id = s.reactorOf id := by
        simp [Server.addSession, hnew]
      have hmap : ∀ r, (s.addSession fd peer reactor uninitialised).m_p2pSessions r id =
          s.m_p2pSessions r id := by
        intro r
        by_cases hr : r = reactor
        · simp [Server.addSession, hr, hnew]
        · simp [Server.addSession, hr]
      have hold : Made (s.addSession fd peer reactor uninitialised) id → Made s id :=
        fun hmade => ⟨hmade.1, Nat.lt_of_le_of_ne (Nat.le_of_lt_succ hmade.2) hnew⟩
      constructor
      · intro hmade
        obtain ⟨hhandled, hclosed, hdead⟩ := hid.unmade fun hold => hmade (hmade' hold)
        refine ⟨hhandled, hclosed, ?_⟩
        rw [Server.alive, hregistered, hmap, ← hdead, Server.alive]
        simp [Server.addSession, hnew]
      · intro hmade hhandled
        obtain ⟨howner, hpolled, hp2p, hclosed⟩ := hid.registered (hold hmade) hhandled
        have hother : (s.session id).m_fd ≠ fd := by
          intro he
          rw [he, hfd] at howner
          cases howner
        rw [hsession, hregistered, hmap]
        refine ⟨?_, ?_, hp2p, hclosed⟩
        · simpa [Server.addSession, hother] using howner
        · by_cases hr : s.reactorOf id = reactor
          · simpa [Server.addSession, hr, hother] using hpolled
          · simpa [Server.addSession, hr] using hpolled
      · intro hhandled
        obtain ⟨hclosed, hwait, hrelation, hknows⟩ := hid.handled hhandled
        rw [KnowsReactor, hsession, hregistered]
        exact ⟨hclosed, hwait, by simpa [Server.addSession, hnew] using hrelation, hknows⟩
      · intro hmade
        rw [hregistered]
        exact hid.pooled (hold hmade)

theorem openOther (h : Consistent slaveReactorNum s) {fd : ℕ} (hfd : s.descriptors.owner fd = none) :
    Consistent slaveReactorNum { s with descriptors := s.descriptors.openOther fd } := by
  have howner : ∀ {fd' owner}, s.descriptors.owner fd' = some owner →
      (s.descriptors.openOther fd).owner fd' = some owner := by
    intro fd' owner hopen
    have hne : fd' ≠ fd := by
      intro he
      rw [he, hfd] at hopen
      cases hopen
    simpa [Descriptors.openOther, hne] using hopen
  constructor
  case running => exact h.running
  case counter => exact h.counter
  case queued => exact h.queued
  case polled =>
    intro reactor fd' hpolled
    obtain ⟨sessionId, hmade, hopen, hregistered⟩ := h.polled reactor fd' hpolled
    exact ⟨sessionId, hmade, howner hopen, hregistered⟩
  case sessions =>
    intro id
    have hid := h.sessions id
    refine ⟨hid.unmade, ?_, hid.handled, hid.pooled⟩
    intro hmade hhandled
    obtain ⟨hown, hrest⟩ := hid.registered hmade hhandled
    exact ⟨howner hown, hrest⟩

/-- The first request of a session that knows its reactor keeps the invariant: it is the session's own
descriptor that is closed, so no other session loses anything. -/
theorem destroy_first (h : Consistent slaveReactorNum s) (localNodeId : NodeId)
    {destoryInfo : SessionDestoryInfo} (hmade : Made s destoryInfo.sessionId)
    (hhandled : s.handled destoryInfo.sessionId = false)
    (hknows : KnowsReactor s destoryInfo.sessionId) :
    Consistent slaveReactorNum (s.destroyHandler localNodeId slaveReactorNum destoryInfo) := by
  obtain ⟨howner, hpolled, hp2p, hclosed⟩ := (h.sessions _).registered hmade hhandled
  have hpooled := (h.sessions _).pooled hmade
  rw [KnowsReactor] at hknows
  rw [← hknows] at hpolled hpooled
  rw [destroyHandler_registered localNodeId (h.alive_of_unhandled hmade hhandled) hpooled hpolled howner]
  constructor
  case running => exact h.running
  case counter => exact h.counter
  case queued => exact h.queued
  case polled =>
    intro reactor fd hstill
    by_cases hfd : fd = (s.session destoryInfo.sessionId).m_fd
    · simp [hfd] at hstill
    · obtain ⟨id, hmade', hopen, hregistered⟩ := h.polled reactor fd (by simpa [hfd] using hstill)
      exact ⟨id, hmade', by simpa [hfd] using hopen, hregistered⟩
  case sessions =>
    intro id
    by_cases hid : id = destoryInfo.sessionId
    · subst hid
      constructor
      · intro hunmade
        exact absurd hmade hunmade
      · intro _ hnot
        simp at hnot
      · intro _
        simp [hclosed, KnowsReactor, hknows]
      · exact (h.sessions _).pooled
    · have hc := h.sessions id
      have hmap : ∀ r, Function.update s.m_p2pSessions (s.session destoryInfo.sessionId).m_slaveReactorIndex
          (Function.update (s.m_p2pSessions (s.session destoryInfo.sessionId).m_slaveReactorIndex)
            destoryInfo.sessionId false) r id = s.m_p2pSessions r id := by
        intro r
        by_cases hr : r = (s.session destoryInfo.sessionId).m_slaveReactorIndex
        · rw [hr, Function.update_self, Function.update_of_ne hid]
        · rw [Function.update_of_ne hr]
      constructor
      · intro hunmade
        obtain ⟨hnot, hnil, hdead⟩ := hc.unmade hunmade
        refine ⟨by simpa [hid] using hnot, by simpa [hid] using hnil, ?_⟩
        show (decide (0 < s.references id) || Function.update s.m_p2pSessions _ _ (s.reactorOf id) id) = false
        rw [hmap]
        exact hdead
      · intro hold hnot
        obtain ⟨hown, hpoll, hregistered, hnil⟩ := hc.registered hold (by simpa [hid] using hnot)
        have hfd : (s.session id).m_fd ≠ (s.session destoryInfo.sessionId).m_fd := by
          intro he
          rw [he, howner, Option.some.injEq, Owner.session.injEq] at hown
          exact hid hown.symm
        refine ⟨?_, ?_, (hmap _).trans hregistered, ?_⟩
        · simpa [hid, hfd] using hown
        · simpa [hid, hfd] using hpoll
        · simpa [hid] using hnil
      · intro hdone
        obtain ⟨honce, hwait, hrelation, hknows'⟩ := hc.handled (by simpa [hid] using hdone)
        exact ⟨by simpa [hid] using honce, by simpa [hid] using hwait,
          by simpa [hid] using hrelation, by simpa [hid, KnowsReactor] using hknows'⟩
      · exact hc.pooled

theorem tornDown_first (h : Consistent slaveReactorNum s) (localNodeId : NodeId)
    {destoryInfo : SessionDestoryInfo} (hmade : Made s destoryInfo.sessionId)
    (hhandled : s.handled destoryInfo.sessionId = false)
    (hknows : KnowsReactor s destoryInfo.sessionId) :
    TornDown (s.destroyHandler localNodeId slaveReactorNum destoryInfo) destoryInfo.sessionId := by
  have hafter := h.destroy_first localNodeId hmade hhandled hknows
  have hmark : (s.destroyHandler localNodeId slaveReactorNum destoryInfo).handled
      destoryInfo.sessionId = true := by
    rw [(destroyHandler_marks localNodeId slaveReactorNum s destoryInfo).2, Function.update_self]
  have halive := h.alive_of_unhandled hmade hhandled
  obtain ⟨howner, hpolled, -, -⟩ := (h.sessions _).registered hmade hhandled
  have hpooled := (h.sessions _).pooled hmade
  rw [KnowsReactor] at hknows
  rw [← hknows] at hpolled hpooled
  refine ⟨hafter.running, ((hafter.sessions _).handled hmark).1, ?_, ?_⟩
  · rw [destroyHandler_owner localNodeId halive hpooled,
      destroyHandler_session localNodeId slaveReactorNum s destoryInfo halive, Function.update_self,
      Function.update_self]
  · rw [destroyHandler_registered localNodeId halive hpooled hpolled howner]
    simp [hknows]

/-- **A first request for a session that does not know its reactor** crashes the process or leaves the
session in its reactor. -/
theorem destroy_first_fails (h : Consistent slaveReactorNum s) (localNodeId : NodeId)
    {destoryInfo : SessionDestoryInfo} (hmade : Made s destoryInfo.sessionId)
    (hhandled : s.handled destoryInfo.sessionId = false)
    (hknows : ¬ KnowsReactor s destoryInfo.sessionId) :
    (s.destroyHandler localNodeId slaveReactorNum destoryInfo).crashed = true ∨
      (s.destroyHandler localNodeId slaveReactorNum destoryInfo).m_p2pSessions
        (s.reactorOf destoryInfo.sessionId) destoryInfo.sessionId = true := by
  obtain ⟨howner, -, hregistered, -⟩ := (h.sessions _).registered hmade hhandled
  rcases Nat.lt_or_ge (s.session destoryInfo.sessionId).m_slaveReactorIndex slaveReactorNum with
    hvalid | hnull
  · right
    have hunpolled : s.descriptors.polled (s.session destoryInfo.sessionId).m_slaveReactorIndex
        (s.session destoryInfo.sessionId).m_fd = false := by
      by_contra hpolled
      obtain ⟨id, -, hown, hreactor⟩ := h.polled _ _ (by simpa using hpolled)
      rw [howner, Option.some.injEq, Owner.session.injEq] at hown
      rw [← hown] at hreactor
      exact hknows hreactor.symm
    rw [destroyHandler_wrongReactor localNodeId (h.alive_of_unhandled hmade hhandled) hvalid hunpolled]
    exact hregistered
  · exact .inl (destroyHandler_null localNodeId slaveReactorNum s destoryInfo hnull)

/-- **A later request has no effect exactly when it is harmless.** -/
theorem destroyHandler_eq_self_iff (h : Consistent slaveReactorNum s) (localNodeId : NodeId)
    {destoryInfo : SessionDestoryInfo} (hmade : Made s destoryInfo.sessionId)
    (hhandled : s.handled destoryInfo.sessionId = true) :
    s.destroyHandler localNodeId slaveReactorNum destoryInfo = s ↔ Harmless localNodeId s destoryInfo := by
  obtain ⟨-, hwaiting, hrelation, hknows⟩ := (h.sessions destoryInfo.sessionId).handled hhandled
  have hvalid : (s.session destoryInfo.sessionId).m_slaveReactorIndex < slaveReactorNum := by
    rw [hknows]
    exact (h.sessions _).pooled hmade
  constructor
  · intro hsame
    have halive : s.alive destoryInfo.sessionId = true := by
      by_contra hdead
      have hcrash := destroyHandler_crashed localNodeId slaveReactorNum s destoryInfo (by simpa using hdead)
      rw [hsame, h.running] at hcrash
      cases hcrash
    constructor
    · exact halive
    · have howner := destroyHandler_owner localNodeId halive hvalid
      rw [hsame] at howner
      rw [howner, Function.update_self]
    · intro hfrom
      have hwatched := destroyHandler_aliveCheckerSessions localNodeId halive hvalid
      rw [hsame, if_pos hfrom] at hwatched
      rw [hwatched, Function.update_self]
    · have htables := destroyHandler_hostsInfoManager localNodeId halive hvalid
      rw [hsame] at htables
      exact disconnectClient_eq_self_iff.mp htables.symm
  · intro hharmless
    have hunpolled : s.descriptors.polled (s.session destoryInfo.sessionId).m_slaveReactorIndex
        (s.session destoryInfo.sessionId).m_fd = false := by
      by_contra hpolled
      obtain ⟨_, -, hopen, -⟩ := h.polled _ _ (by simpa using hpolled)
      rw [hharmless.fd_closed] at hopen
      cases hopen
    have hmark : Function.update s.handled destoryInfo.sessionId true = s.handled := by
      rw [← hhandled, Function.update_eq_self]
    have hwatch : (if destoryInfo.isFromAliveChecker = false then
        s.removeSession destoryInfo.sessionId else s) = s := by
      split
      · next hfrom => exact s.removeSession_eq_self _ (hharmless.unwatched hfrom)
      · rfl
    simp only [Server.destroyHandler, if_pos hharmless.alive, if_pos hvalid, hmark,
      s.setWaitingDisconnect_eq_self _ hwaiting, hwatch, s.removeClient_eq_self _ hunpolled,
      disconnectClient_eq_self_iff.mpr hharmless.tables,
      s.removeSessionIdSlaveReactorRelation_eq_self _ hrelation,
      s.closeFd_eq_self _ hharmless.fd_closed]

/-- Taking a request out of the queue. -/
theorem dequeue (h : Consistent slaveReactorNum s) {destoryInfo : SessionDestoryInfo}
    {rest : List SessionDestoryInfo}
    (hqueue : s.m_waitingDestroySessionInfos = destoryInfo :: rest) :
    Consistent slaveReactorNum { s with m_waitingDestroySessionInfos := rest } := by
  refine h.frame rfl (fun _ => rfl) (fun _ hknows => hknows) (fun _ hw => hw)
    (fun _ hpos => references_alive (s := s) hpos) ?_
  intro info hmem
  rw [hqueue]
  exact .inl (List.mem_cons_of_mem _ hmem)

/-- **Step lemma.**  An undisturbed step keeps the invariant. -/
theorem step (h : Consistent slaveReactorNum s) {localNodeId : NodeId} {event : ServerEvent}
    (hguard : Undisturbed localNodeId s event)
    (hstep : s.step localNodeId slaveReactorNum event = some s') :
    Consistent slaveReactorNum s' := by
  unfold Server.step at hstep
  rw [if_neg (by rw [h.running]; nofun)] at hstep
  cases event with
  | connect fd peer reactor uninitialised =>
    obtain ⟨⟨hfd, hreactor⟩, hs'⟩ := Option.ite_none_right_eq_some.mp hstep
    cases hs'
    exact h.addSession peer uninitialised hfd hreactor
  | setSlaveReactorIndex sessionId =>
    obtain ⟨-, rfl⟩ := Server.whenAlive_eq_some.mp hstep
    exact h.setSession sessionId _ rfl (fun _ => rfl) (fun hw => hw)
  | openOther fd =>
    obtain ⟨hfd, hs'⟩ := Option.ite_none_right_eq_some.mp hstep
    cases hs'
    exact h.openOther hfd
  | watch sessionId =>
    obtain ⟨-, rfl⟩ := Server.whenAlive_eq_some.mp hstep
    exact h.keep rfl
  | unwatch sessionId =>
    obtain ⟨-, hs'⟩ := Option.ite_none_left_eq_some.mp hstep
    cases hs'
    exact h.keep rfl
  | hold sessionId =>
    obtain ⟨halive, rfl⟩ := Server.whenAlive_eq_some.mp hstep
    apply h.setReferences
    intro id hpos
    by_cases hid : id = sessionId
    · rw [hid]
      exact halive
    · exact references_alive (by simpa [hid] using hpos)
  | release sessionId =>
    obtain ⟨hheld, hs'⟩ := Option.ite_none_left_eq_some.mp hstep
    cases hs'
    apply h.setReferences
    intro id hpos
    by_cases hid : id = sessionId
    · rw [hid]
      exact references_alive (Nat.pos_of_ne_zero hheld)
    · exact references_alive (by simpa [hid] using hpos)
  | setNodeId sessionId nodeId =>
    obtain ⟨-, rfl⟩ := Server.whenAlive_eq_some.mp hstep
    exact h.setSession sessionId _ rfl (fun hknows => hknows) (fun hw => hw)
  | setPeerHostEndPointInfo sessionId peer =>
    obtain ⟨-, rfl⟩ := Server.whenAlive_eq_some.mp hstep
    exact h.setSession sessionId _ rfl (fun hknows => hknows) (fun hw => hw)
  | setHostId endPointInfo nodeId =>
    cases hstep
    exact h.keep rfl
  | addHostIdInfo nodeId sessionId =>
    cases hstep
    exact h.keep rfl
  | disconnectSession sessionId =>
    obtain ⟨halive, rfl⟩ := Server.whenAlive_eq_some.mp hstep
    exact (h.addDestroy halive).setSession sessionId _ rfl (fun hknows => hknows) (fun _ => rfl)
  | sendFailed sessionId =>
    obtain ⟨halive, rfl⟩ := Server.whenAlive_eq_some.mp hstep
    exact h.addDestroy halive
  | heartbeatTimeout sessionId =>
    obtain ⟨-, hs'⟩ := Option.ite_none_right_eq_some.mp hstep
    obtain ⟨halive, rfl⟩ := Server.whenAlive_eq_some.mp hs'
    exact (h.addDestroy halive).keep rfl
  | rejected sessionId result =>
    obtain ⟨halive, rfl⟩ := Server.whenAlive_eq_some.mp hstep
    exact h.addDestroy halive
  | destroy =>
    cases hqueue : s.m_waitingDestroySessionInfos with
    | nil =>
      rw [hqueue] at hstep
      cases hstep
    | cons destoryInfo rest =>
      rw [hqueue] at hstep
      cases hstep
      have hrest := h.dequeue hqueue
      have hmade := h.queued destoryInfo (by rw [hqueue]; exact List.mem_cons_self)
      obtain ⟨hfirst, hlater⟩ := hguard destoryInfo rest hqueue
      cases hhandled : s.handled destoryInfo.sessionId with
      | false => exact hrest.destroy_first localNodeId hmade hhandled (hfirst hhandled)
      | true =>
        have hharmless := hlater hhandled
        rw [(hrest.destroyHandler_eq_self_iff localNodeId hmade hhandled).mpr
          ⟨hharmless.alive, hharmless.fd_closed, hharmless.unwatched, hharmless.tables⟩]
        exact hrest

end Consistent

/-- **Run lemma.** -/
theorem consistent_of_reaches {localNodeId : NodeId} {slaveReactorNum : ℕ} {nodes : List HostEndPointInfo}
    {s : Server} (h : (destroyer localNodeId slaveReactorNum nodes).Reaches (Undisturbed localNodeId) s) :
    Consistent slaveReactorNum s := by
  refine h.invariant ?_ fun _ _ _ hs hguard hstep => hs.step hguard hstep
  intro s hs
  cases hs
  constructor
  · rfl
  · exact Nat.one_pos
  · nofun
  · nofun
  · intro id
    have hunmade : ¬ Made (.start nodes) id := fun hmade => Nat.not_lt.mpr hmade.1 hmade.2
    exact ⟨fun _ => ⟨rfl, rfl, rfl⟩, fun hmade => absurd hmade hunmade, nofun,
      fun hmade => absurd hmade hunmade⟩

/-! ### Teardown is idempotent -/

/-- **Teardown is idempotent while later requests are harmless, and only then.**  In every run whose
first requests find the reactor of their session and whose later requests are harmless, a handled session
has had its own descriptor closed, once, and no other; the next request to be handled, if it is its
session's first, finds the object alive and tears the session down **exactly** when the object knows its
reactor; if it is not, it has no effect **exactly** when it is harmless. -/
theorem teardown_idempotent {localNodeId : NodeId} {slaveReactorNum : ℕ} {nodes : List HostEndPointInfo}
    {s : Server} (h : (destroyer localNodeId slaveReactorNum nodes).Reaches (Undisturbed localNodeId) s) :
    s.crashed = false ∧
    (∀ sessionId, s.closed sessionId =
      if s.handled sessionId = true then [.session sessionId] else []) ∧
    ∀ destoryInfo rest, s.m_waitingDestroySessionInfos = destoryInfo :: rest →
      let before := { s with m_waitingDestroySessionInfos := rest }
      let after := before.destroyHandler localNodeId slaveReactorNum destoryInfo
      (s.handled destoryInfo.sessionId = false →
        s.alive destoryInfo.sessionId = true ∧
        (TornDown after destoryInfo.sessionId ↔ KnowsReactor s destoryInfo.sessionId)) ∧
      (s.handled destoryInfo.sessionId = true →
        (after = before ↔ Harmless localNodeId s destoryInfo)) := by
  have hs := consistent_of_reaches h
  refine ⟨hs.running, ?_, ?_⟩
  · intro sessionId
    have hid := hs.sessions sessionId
    cases hhandled : s.handled sessionId with
    | true => simpa using (hid.handled hhandled).1
    | false =>
      by_cases hmade : Made s sessionId
      · simpa using (hid.registered hmade hhandled).2.2.2
      · simpa using (hid.unmade hmade).2.1
  · intro destoryInfo rest hqueue
    have hrest := hs.dequeue hqueue
    have hmade := hs.queued destoryInfo (by rw [hqueue]; exact List.mem_cons_self)
    refine ⟨?_, ?_⟩
    · intro hhandled
      have halive := hs.alive_of_unhandled hmade hhandled
      refine ⟨halive, ?_, ?_⟩
      · intro htorn
        by_contra hknows
        rcases hrest.destroy_first_fails localNodeId hmade hhandled hknows with hcrashed | hleft
        · rw [htorn.running] at hcrashed
          cases hcrashed
        · have hremoved := htorn.removed
          rw [destroyHandler_reactorOf] at hremoved
          rw [hremoved] at hleft
          cases hleft
      · intro hknows
        exact hrest.tornDown_first localNodeId hmade hhandled hknows
    · intro hhandled
      rw [hrest.destroyHandler_eq_self_iff localNodeId hmade hhandled]
      exact ⟨fun hh => ⟨hh.alive, hh.fd_closed, hh.unwatched, hh.tables⟩,
        fun hh => ⟨hh.alive, hh.fd_closed, hh.unwatched, hh.tables⟩⟩

/-- Two sends of one batch fail; the second request finds the object still held and its descriptor
closed, and has no effect. -/
theorem teardown_idempotent_twice : ∃ s : Server, s.closed 1 = [.session 1] ∧
    s.m_waitingDestroySessionInfos = [⟨1, 0, false⟩] ∧
    ({ s with m_waitingDestroySessionInfos := [] } : Server).destroyHandler "A" 4 ⟨1, 0, false⟩ =
      { s with m_waitingDestroySessionInfos := [] } := by
  have hstart : (destroyer "A" 4 []).Reaches (Undisturbed "A") (.start []) := .init rfl
  have hconnect := hstart.step (a := ServerEvent.connect 5 ⟨"10.0.0.2", 9000⟩ 3 77) trivial rfl
  have hindex := hconnect.step (a := ServerEvent.setSlaveReactorIndex 1) trivial rfl
  have hfirst := hindex.step (a := ServerEvent.sendFailed 1) trivial rfl
  have hsecond := hfirst.step (a := ServerEvent.sendFailed 1) trivial rfl
  have hdestroy := hsecond.step (a := ServerEvent.destroy) (by
    intro destoryInfo rest hqueue
    cases hqueue
    exact ⟨fun _ => rfl, nofun⟩) rfl
  obtain ⟨-, hclosed, hnext⟩ := teardown_idempotent hdestroy
  refine ⟨_, hclosed 1, rfl, ?_⟩
  refine ((hnext ⟨1, 0, false⟩ [] rfl).2 rfl).mpr ⟨rfl, rfl, fun _ => rfl, fun _ => nofun, ?_⟩
  intro _ host hhost
  cases hhost

/-- **Teardown is not idempotent.**  Two sends of one batch fail.  When the second request is handled
the object may be gone, and the handler dereferences the null pointer; or another session may have
got the descriptor, and it is closed.  When the first request is handled before `setSlaveReactorIndex`, the
pool may have no reactor of the uninitialised number, or another one, and the session stays in its own. -/
theorem teardown_repeated :
    (∃ s, (destroyer "A" 4 []).Reachable s ∧ s.crashed = true) ∧
    (∃ s, (destroyer "A" 4 []).Reachable s ∧ s.closed 1 = [.session 1, .session 2]) ∧
    (∃ s, (destroyer "A" 4 []).Reachable s ∧ s.crashed = true ∧ s.closed 1 = []) ∧
    ∃ s, (destroyer "A" 4 []).Reachable s ∧ s.closed 1 = [.session 1] ∧ s.m_p2pSessions 3 1 = true := by
  have hstart : (destroyer "A" 4 []).Reachable (.start []) := .init rfl
  have hfreed : ((destroyer "A" 4 []).run (.start []) [.connect 5 ⟨"10.0.0.2", 9000⟩ 3 77,
      .setSlaveReactorIndex 1, .sendFailed 1, .sendFailed 1, .destroy, .release 1, .destroy]).map
      (fun s => s.crashed) = some true := by
    decide
  have hreused : ((destroyer "A" 4 []).run (.start []) [.connect 5 ⟨"10.0.0.2", 9000⟩ 3 77,
      .setSlaveReactorIndex 1, .sendFailed 1, .sendFailed 1, .destroy,
      .connect 5 ⟨"10.0.0.3", 9000⟩ 0 77, .destroy]).map
      (fun s => s.closed 1) = some [.session 1, .session 2] := by
    decide
  have hnull : ((destroyer "A" 4 []).run (.start []) [.connect 5 ⟨"10.0.0.2", 9000⟩ 3 77,
      .disconnectSession 1, .destroy]).map (fun s => (s.crashed, s.closed 1)) = some (true, []) := by
    decide
  have hwrong : ((destroyer "A" 4 []).run (.start []) [.connect 5 ⟨"10.0.0.2", 9000⟩ 3 0,
      .disconnectSession 1, .destroy]).map (fun s => (s.closed 1, s.m_p2pSessions 3 1)) =
      some ([.session 1], true) := by
    decide
  obtain ⟨s₁, hrun₁, hs₁⟩ := Option.map_eq_some_iff.mp hfreed
  obtain ⟨s₂, hrun₂, hs₂⟩ := Option.map_eq_some_iff.mp hreused
  obtain ⟨s₃, hrun₃, hs₃⟩ := Option.map_eq_some_iff.mp hnull
  obtain ⟨s₄, hrun₄, hs₄⟩ := Option.map_eq_some_iff.mp hwrong
  rw [Prod.mk.injEq] at hs₃ hs₄
  exact ⟨⟨s₁, .of_run hstart hrun₁, hs₁⟩, ⟨s₂, .of_run hstart hrun₂, hs₂⟩,
    ⟨s₃, .of_run hstart hrun₃, hs₃⟩, ⟨s₄, .of_run hstart hrun₄, hs₄⟩⟩

end DistributedNetwork.Session
