import Mathlib.Data.List.AList
import Mathlib.Data.List.Nodup
import Mathlib.Algebra.Group.Int.Defs
import DistributedNetwork.Library.TransitionSystem
import DistributedNetwork.Session.SessionDestroyer

/-!
# One node and its connector

Every half second the connector goes through a **copy** of the configured endpoints and opens a connection
to each one at which no node is known and which is not in `m_connectingHosts`.  What is entered there is
erased when the connection fails or takes too long; once the connection is there its timestamp is `-1`, and
only `setHostConnected` erases it.

* `Node.connectHost`, `Node.checkHost`, `Node.setTimestamp`, `Node.expire` — one pass, entry by entry;
* `Node.onClientInfo`, `Node.onClientInfoReply`, `Node.destroy` — what the other threads do with the tables,
  also for a session that is torn down and whose object is still referenced;
* `hostsConnector` — any interleaving of the pass with the handlers and with teardowns.

Three places have no defined outcome, `Node.crashed`: the first timeout erases inside a loop over the
container, a request for a session without an object dereferences a null pointer, and a reply `-4` asserts
that there is another session.
-/

namespace DistributedNetwork.Connecting

open DistributedNetwork.Library
open DistributedNetwork.Session (NodeId SessionId HostEndPointInfo HostsInfoManager
  SessionDestoryInfo disconnectClient)

def c_connectTimeout : ℤ := 20 * 1000

/-- The node's id, the keys of `m_hosts` in the order of its iteration, and the node that listens at an
endpoint. -/
structure Configuration where
  nodeId : NodeId
  nodes : List HostEndPointInfo
  nodup : nodes.Nodup
  nodeAt : HostEndPointInfo → NodeId

/-- A session.  `clientInfoHost` is the endpoint that its `ClientInfo` named, `peer` the node at the other
end of its connection. -/
structure P2PSession where
  m_fd : ℕ
  m_nodeId : NodeId
  m_peerHostEndPointInfo : HostEndPointInfo
  isInitiator : Bool
  clientInfoHost : HostEndPointInfo
  peer : NodeId
  deriving DecidableEq

/-- Where the connector's thread stands in its pass. -/
inductive Position where
  | idle
  /-- in the loop over its copy of the hosts -/
  | connecting (hosts : List (HostEndPointInfo × NodeId))
  /-- in the loop over `m_connectingHosts`, with what `select` has left in `wset` -/
  | checking (wset : List ℕ) (hosts : List HostEndPointInfo)
  deriving DecidableEq

structure Node where
  hostsInfoManager : HostsInfoManager
  m_connectingHosts : HostEndPointInfo → Option (ℕ × ℤ)
  /-- where the socket of a number was last connected to -/
  remote : ℕ → HostEndPointInfo
  /-- the factory's counter -/
  m_sessionId : SessionId
  /-- the sessions that are registered with a reactor -/
  sessions : AList fun _ : SessionId => P2PSession
  /-- the sessions that are torn down and whose objects are still referenced -/
  leftover : AList fun _ : SessionId => P2PSession
  m_waitingDestroySessionInfos : List SessionDestoryInfo
  position : Position
  /-- the session that `m_connectHandler` has got and whose timestamp is still to be set -/
  handedOut : Option (HostEndPointInfo × SessionId)
  crashed : Bool

/-- What comes of an attempt to connect.  `handled` says that `m_connectHandler` has kept the session. -/
inductive ConnectResult where
  | createFailed
  /-- the receive buffer cannot be set: the pass ends -/
  | bufferFailed
  | connected (fd timestamp : ℕ) (handled : Bool)
  | inProgress (fd timestamp : ℕ)
  | failed
  deriving DecidableEq

/-- What the socket's `SO_ERROR` says. -/
inductive CheckResult where
  | connected (handled : Bool)
  | error
  deriving DecidableEq

inductive NodeEvent where
  | beginPass
  | connectHost (result : ConnectResult)
  /-- `select` returns with these descriptors, or fails -/
  | select (ready : Option (List ℕ))
  | checkHost (result : CheckResult)
  | setTimestamp
  | expire (now : ℕ)
  /-- a node connects to this one -/
  | accept (fd : ℕ) (peer : NodeId)
  | clientInfo (sessionId : SessionId)
  | clientInfoReply (sessionId : SessionId) (result : ℤ)
  /-- the reactor or the alive checker gives the session up -/
  | disconnect (sessionId : SessionId) (isFromAliveChecker : Bool)
  | destroy
  /-- the last reference to the object of a torn down session goes -/
  | free (sessionId : SessionId)
  deriving DecidableEq

namespace Node

/-! ### The tables of the node -/

def setConnecting (n : Node) (endPointInfo : HostEndPointInfo) (fd : ℕ) (timestamp : ℤ) : Node :=
  { n with
    m_connectingHosts := Function.update n.m_connectingHosts endPointInfo (some (fd, timestamp)) }

def eraseConnecting (n : Node) (endPointInfo : HostEndPointInfo) : Node :=
  { n with m_connectingHosts := Function.update n.m_connectingHosts endPointInfo none }

/-- `HostsConnector::setHostConnected`. -/
def setHostConnected (n : Node) (endPointInfo : HostEndPointInfo) : ℤ × Node :=
  match n.m_connectingHosts endPointInfo with
  | none => (-1, n)
  | some _ => (0, n.eraseConnecting endPointInfo)

def setSession (n : Node) (sessionId : SessionId) (session : P2PSession) : Node :=
  { n with sessions := n.sessions.insert sessionId session }

def addSession (n : Node) (session : P2PSession) : Node :=
  { n.setSession n.m_sessionId session with m_sessionId := n.m_sessionId + 1 }

def addDestroy (n : Node) (destoryInfo : SessionDestoryInfo) : Node :=
  { n with m_waitingDestroySessionInfos := n.m_waitingDestroySessionInfos ++ [destoryInfo] }

/-! ### The connector's pass -/

/-- The tests with which the pass skips a host: its node id in the copy, and `m_connectingHosts`. -/
def skips (n : Node) (host : HostEndPointInfo × NodeId) : Bool :=
  host.2 ≠ "" || (n.m_connectingHosts host.1).isSome

/-- A session is made for a connected socket and handed to `m_connectHandler`. -/
def handOut (c : Configuration) (n : Node) (endPointInfo : HostEndPointInfo) (fd : ℕ) (handled : Bool) :
    Node :=
  let session : P2PSession := ⟨fd, "", endPointInfo, true, endPointInfo, c.nodeAt (n.remote fd)⟩
  -- a session that the handler does not keep is freed
  let n' := if handled = true then n.addSession session else { n with m_sessionId := n.m_sessionId + 1 }
  { n' with handedOut := some (endPointInfo, n.m_sessionId) }

/-- The socket is entered and connected. -/
def startConnect (n : Node) (endPointInfo : HostEndPointInfo) (fd timestamp : ℕ) : Node :=
  { n.setConnecting endPointInfo fd timestamp with
    remote := Function.update n.remote fd endPointInfo }

/-- The body of the loop over the copy. -/
def connectHost (c : Configuration) (n : Node) (host : HostEndPointInfo × NodeId)
    (result : ConnectResult) : Node :=
  if n.skips host = true then n
  else match result with
    | .createFailed => n
    | .bufferFailed => { n with position := .idle }
    | .connected fd timestamp handled =>
      (n.startConnect host.1 fd timestamp).handOut c host.1 fd handled
    | .inProgress fd timestamp => n.startConnect host.1 fd timestamp
    -- entered and erased again
    | .failed => n.eraseConnecting host.1

/-- `select` only waits for the sockets whose timestamp is not `-1`. -/
def Selects (c : Configuration) (n : Node) (ready : List ℕ) : Prop :=
  ∀ fd ∈ ready, ∃ h ∈ c.nodes, ∃ entry ∈ n.m_connectingHosts h, entry.1 = fd ∧ entry.2 ≠ -1

instance (c : Configuration) (n : Node) (ready : List ℕ) : Decidable (n.Selects c ready) :=
  inferInstanceAs (Decidable (∀ fd ∈ ready, ∃ h ∈ c.nodes, _))

/-- The body of the loop over `m_connectingHosts`: the test is on the number of the socket. -/
def checkHost (c : Configuration) (n : Node) (wset : List ℕ) (endPointInfo : HostEndPointInfo)
    (result : CheckResult) : Node :=
  match n.m_connectingHosts endPointInfo with
  | none => n
  | some (fd, _) =>
    if fd ∈ wset then
      match result with
      | .error => n.eraseConnecting endPointInfo
      | .connected handled => n.handOut c endPointInfo fd handled
    else n

/-- `m_connectingHosts[host].second = -1`: a host that is not there is entered. -/
def setTimestamp (n : Node) (endPointInfo : HostEndPointInfo) : Node :=
  let fd := match n.m_connectingHosts endPointInfo with
    | none => 0
    | some (fd, _) => fd
  { n.setConnecting endPointInfo fd (-1) with handedOut := none }

/-- The time since the entry was made, in 64 bits. -/
def expired (now : ℕ) (timestamp : ℤ) : Bool :=
  timestamp ≠ -1 && c_connectTimeout ≤ (now - timestamp) % 2 ^ 64

/-- An entry has taken too long. -/
def Expires (c : Configuration) (n : Node) (now : ℕ) : Prop :=
  ∃ h ∈ c.nodes, ∃ entry ∈ n.m_connectingHosts h, expired now entry.2 = true

instance (c : Configuration) (n : Node) (now : ℕ) : Decidable (n.Expires c now) :=
  inferInstanceAs (Decidable (∃ h ∈ c.nodes, ∃ entry ∈ n.m_connectingHosts h, _))

/-- The loop over the timeouts.  An entry that has taken too long is erased, and the loop goes on from the
node of the container that was freed with it. -/
def expire (c : Configuration) (n : Node) (now : ℕ) : Node :=
  if n.Expires c now then { n with crashed := true } else { n with position := .idle }

/-! ### The handlers -/

/-- The object of a session, which a weak pointer still gives. -/
def object (n : Node) (sessionId : SessionId) : Option P2PSession :=
  (n.sessions.lookup sessionId).or (n.leftover.lookup sessionId)

/-- A handler sets the node id of the object of its session. -/
def setNodeId (n : Node) (sessionId : SessionId) (nodeId : NodeId) : Node :=
  match n.sessions.lookup sessionId with
  | some session => n.setSession sessionId { session with m_nodeId := nodeId }
  | none =>
    match n.leftover.lookup sessionId with
    | some session =>
      { n with leftover := n.leftover.insert sessionId { session with m_nodeId := nodeId } }
    | none => n

/-- `PT_ClientInfo`'s handler. -/
def onClientInfo (c : Configuration) (n : Node) (sessionId : SessionId) (session : P2PSession) : Node :=
  let n' := n.setNodeId sessionId session.peer
  if session.peer = c.nodeId then n'
  else { n' with hostsInfoManager := (n'.hostsInfoManager.addHostIdInfo session.peer sessionId).2 }

/-- The part of `PT_ClientInfoReply`'s handler that records a connection. -/
def recordHost (n : Node) (endPointInfo : HostEndPointInfo) (nodeId : NodeId) (sessionId : SessionId) :
    Node :=
  let hosts := n.hostsInfoManager.setHostId endPointInfo nodeId
  if hosts.1 = -1 then n
  else
    let connected := { n with hostsInfoManager := hosts.2 }.setHostConnected endPointInfo
    if connected.1 = -1 then connected.2
    else { connected.2 with
      hostsInfoManager := (connected.2.hostsInfoManager.addHostIdInfo nodeId sessionId).2 }

/-- `PT_ClientInfoReply`'s handler.  The reply repeats the endpoint that the `ClientInfo` named. -/
def onClientInfoReply (c : Configuration) (n : Node) (sessionId : SessionId) (session : P2PSession)
    (result : ℤ) : Node :=
  let nodeId := session.peer
  let peerHost := session.clientInfoHost
  let n := n.setNodeId sessionId nodeId
  if result ≠ 0 then
    if result = -4 then
      -- the two assertions of the branch
      match n.hostsInfoManager.getSessionId nodeId with
      | none => { n with crashed := true }
      | some anotherSessionId =>
        match n.sessions.lookup anotherSessionId with
        | none => { n with crashed := true }
        | some another =>
          (n.setSession anotherSessionId { another with m_peerHostEndPointInfo := peerHost }).addDestroy
            ⟨sessionId, result, false⟩
    else n.addDestroy ⟨sessionId, result, false⟩
  else
    match n.hostsInfoManager.getSessionId nodeId with
    | some _ =>
      if c.nodeId < nodeId then n.addDestroy ⟨sessionId, -4, false⟩ else n
    | none => n.recordHost session.m_peerHostEndPointInfo nodeId sessionId

/-- The destroyer handles a request while the object is referenced: the tables, then the socket.  For a
session that is torn down already it does the same again. -/
def destroy (c : Configuration) (n : Node) (destoryInfo : SessionDestoryInfo) (session : P2PSession) :
    Node :=
  { n with
    hostsInfoManager := disconnectClient c.nodeId n.hostsInfoManager session.m_peerHostEndPointInfo
      session.m_nodeId destoryInfo.flag destoryInfo.sessionId
    sessions := n.sessions.erase destoryInfo.sessionId
    leftover := n.leftover.insert destoryInfo.sessionId session }

/-! ### Steps -/

/-- The copy that a pass starts with. -/
def getHosts (c : Configuration) (n : Node) : List (HostEndPointInfo × NodeId) :=
  c.nodes.map fun h => (h, ((n.hostsInfoManager.m_hosts h).map Prod.fst).getD "")

/-- A step of a node that has not crashed. -/
def act (c : Configuration) (n : Node) : NodeEvent → Option Node
  | .beginPass =>
    if n.position = .idle then some { n with position := .connecting (n.getHosts c) } else none
  | .connectHost result =>
    match n.position, n.handedOut with
    | .connecting (host :: rest), none =>
      some ({ n with position := .connecting rest }.connectHost c host result)
    | _, _ => none
  | .select ready =>
    match n.position, n.handedOut with
    | .connecting [], none =>
      match ready with
      | none => some { n with position := .idle }
      | some ready =>
        if n.Selects c ready then some { n with position := .checking ready c.nodes } else none
    | _, _ => none
  | .checkHost result =>
    match n.position, n.handedOut with
    | .checking wset (h :: rest), none =>
      some ({ n with position := .checking wset rest }.checkHost c wset h result)
    | _, _ => none
  | .setTimestamp => n.handedOut.map fun host => n.setTimestamp host.1
  | .expire now =>
    match n.position, n.handedOut with
    | .checking _ [], none => some (n.expire c now)
    | _, _ => none
  | .accept fd peer => some (n.addSession ⟨fd, "", ⟨"", 0⟩, false, ⟨"", 0⟩, peer⟩)
  | .clientInfo sessionId => (n.object sessionId).map fun session => n.onClientInfo c sessionId session
  | .clientInfoReply sessionId result =>
    (n.object sessionId).bind fun session =>
      -- only the initiator sends a `ClientInfo`
      if session.isInitiator = true then some (n.onClientInfoReply c sessionId session result) else none
  | .disconnect sessionId isFromAliveChecker =>
    (n.object sessionId).map fun _ => n.addDestroy ⟨sessionId, 0, isFromAliveChecker⟩
  | .destroy =>
    match n.m_waitingDestroySessionInfos with
    | [] => none
    | destoryInfo :: rest =>
      match n.object destoryInfo.sessionId with
      | some session => some ({ n with m_waitingDestroySessionInfos := rest }.destroy c destoryInfo session)
      -- the branch of the null pointer dereferences it
      | none => some { n with m_waitingDestroySessionInfos := rest, crashed := true }
  | .free sessionId =>
    (n.leftover.lookup sessionId).map fun _ => { n with leftover := n.leftover.erase sessionId }

def step (c : Configuration) (n : Node) (event : NodeEvent) : Option Node :=
  if n.crashed = true then none else n.act c event

def start (c : Configuration) : Node where
  hostsInfoManager := .init c.nodes
  m_connectingHosts _ := none
  remote _ := ⟨"", 0⟩
  m_sessionId := 1
  sessions := ∅
  leftover := ∅
  m_waitingDestroySessionInfos := []
  position := .idle
  handedOut := none
  crashed := false

end Node

/-- A node, started without sessions. -/
def hostsConnector (c : Configuration) : TransitionSystem Node NodeEvent where
  init n := n = .start c
  step := Node.step c

end DistributedNetwork.Connecting
