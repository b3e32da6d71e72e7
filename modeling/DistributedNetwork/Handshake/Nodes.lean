import Mathlib.Data.String.Basic
import DistributedNetwork.Handshake.Phases
import DistributedNetwork.Session.SessionDestroyer

/-!
# Two nodes that connect to each other

Each node connects to the endpoints of its nodes file, accepts connections, and answers `ClientInfo`
with `ClientInfoReply`.  A connection is two sessions, one on each node; what travels to a session
waits in its `received` queue, the end of the stream included.

* `Network.connect`, `Network.onClientInfo`, `Network.onClientInfoReply`, `Network.destroy` — the
  handlers, as the code computes them;
* `handshake` — any interleaving of connector passes, deliveries and destroy requests.

A step that would end the process (a failed assertion, a null pointer) is not enabled.
-/

namespace DistributedNetwork.Handshake

open DistributedNetwork.Library
open DistributedNetwork.Session (NodeId SessionId HostEndPointInfo HostsInfoManager
  SessionDestoryInfo disconnectClient)

/-- The configuration of the two nodes: their ids differ, and each lists the endpoint of the other. -/
structure Cluster where
  nodeId : Side → NodeId
  endPoint : Side → HostEndPointInfo
  nodes : Side → List HostEndPointInfo
  nodeId_ne : nodeId .A ≠ nodeId .B
  nodeId_nonempty : ∀ x, nodeId x ≠ ""
  ip_nonempty : ∀ x, (endPoint x).m_ip ≠ ""
  listed : ∀ x, endPoint x.other ∈ nodes x

inductive Packet where
  | clientInfo (peerHost : HostEndPointInfo) (nodeId : NodeId)
  | clientInfoReply (peerHost : HostEndPointInfo) (nodeId : NodeId) (result : ℤ)
  /-- the other end has closed its socket -/
  | closed
  deriving DecidableEq

/-- One end of a connection; `peer` is the session at the other end. -/
structure P2PSession where
  m_nodeId : NodeId
  m_peerHostEndPointInfo : HostEndPointInfo
  m_isWaitingDisconnect : Bool
  isInitiator : Bool
  peer : SessionId
  received : List Packet
  deriving DecidableEq

structure Node where
  hostsInfoManager : HostsInfoManager
  m_connectingHosts : HostEndPointInfo → Bool
  m_sessionId : SessionId
  sessions : SessionId → Option P2PSession
  m_waitingDestroySessionInfos : List SessionDestoryInfo

namespace Node

/-- The connector's test: no node is known at the endpoint, and no connection to it is pending. -/
def mayConnect (n : Node) (endPointInfo : HostEndPointInfo) : Bool :=
  match n.hostsInfoManager.m_hosts endPointInfo with
  | none => false
  | some host => host.1 = "" && !n.m_connectingHosts endPointInfo

def setSession (n : Node) (sessionId : SessionId) (session : P2PSession) : Node :=
  { n with sessions := Function.update n.sessions sessionId (some session) }

/-- Something arrives for a session; what arrives for a closed one is lost. -/
def receive (n : Node) (sessionId : SessionId) (packet : Packet) : Node :=
  match n.sessions sessionId with
  | none => n
  | some session => n.setSession sessionId { session with received := session.received ++ [packet] }

def addDestroy (n : Node) (destoryInfo : SessionDestoryInfo) : Node :=
  { n with m_waitingDestroySessionInfos := n.m_waitingDestroySessionInfos ++ [destoryInfo] }

def addSession (n : Node) (session : P2PSession) : Node :=
  { n with
    m_sessionId := n.m_sessionId + 1
    sessions := Function.update n.sessions n.m_sessionId (some session) }

def setConnecting (n : Node) (endPointInfo : HostEndPointInfo) : Node :=
  { n with m_connectingHosts := Function.update n.m_connectingHosts endPointInfo true }

/-- `HostsConnector::setHostConnected`. -/
def setHostConnected (n : Node) (endPointInfo : HostEndPointInfo) : ℤ × Node :=
  if n.m_connectingHosts endPointInfo = true then
    (0, { n with m_connectingHosts := Function.update n.m_connectingHosts endPointInfo false })
  else (-1, n)

/-- The part of `PT_ClientInfoReply`'s handler that records a connection. -/
def recordHost (n : Node) (endPointInfo : HostEndPointInfo) (nodeId : NodeId)
    (sessionId : SessionId) : Node :=
  let hosts := n.hostsInfoManager.setHostId endPointInfo nodeId
  if hosts.1 = -1 then n
  else
    let n₁ := { n with hostsInfoManager := hosts.2 }
    let connected := n₁.setHostConnected endPointInfo
    if connected.1 = -1 then n₁
    else
      let n₂ := connected.2
      { n₂ with hostsInfoManager := (n₂.hostsInfoManager.addHostIdInfo nodeId sessionId).2 }

/-- The result that answers a `ClientInfo`, and the table it leaves. -/
def replyTo (localNodeId : NodeId) (n : Node) (nodeId : NodeId) (sessionId : SessionId) :
    ℤ × HostsInfoManager :=
  if nodeId = localNodeId then (-2, n.hostsInfoManager)
  else
    let added := n.hostsInfoManager.addHostIdInfo nodeId sessionId
    if added.1 = -1 then (-3, added.2) else (0, added.2)

end Node

abbrev Network := Side → Node

namespace Network

def sendData (s : Network) (x : Side) (sessionId : SessionId) (packet : Packet) : ℤ × Network :=
  match (s x).sessions sessionId with
  | none => (-1, s)
  | some session =>
    if session.m_isWaitingDisconnect = true then (-1, s)
    else (0, Function.update s x.other ((s x.other).receive session.peer packet))

/-- The connector opens a connection, which the other node accepts, and sends `ClientInfo`. -/
def connect (c : Cluster) (s : Network) (x : Side) : Network :=
  let peerHost := c.endPoint x.other
  let near := (s x).m_sessionId
  let far := (s x.other).m_sessionId
  let n := (s x).setConnecting peerHost
  let s₁ : Network := Function.update s x (n.addSession ⟨"", peerHost, false, true, far, []⟩)
  let s₂ : Network := Function.update s₁ x.other
    ((s x.other).addSession ⟨"", ⟨"", 0⟩, false, false, near, []⟩)
  (s₂.sendData x near (.clientInfo peerHost (c.nodeId x))).2

/-- `PT_ClientInfo`'s handler. -/
def onClientInfo (c : Cluster) (s : Network) (x : Side) (sessionId : SessionId)
    (session : P2PSession) (peerHost : HostEndPointInfo) (nodeId : NodeId) : Network :=
  let n := (s x).setSession sessionId { session with m_nodeId := nodeId }
  let reply := n.replyTo (c.nodeId x) nodeId sessionId
  let s₁ : Network := Function.update s x { n with hostsInfoManager := reply.2 }
  (s₁.sendData x sessionId (.clientInfoReply peerHost (c.nodeId x) reply.1)).2

/-- `PT_ClientInfoReply`'s handler. -/
def onClientInfoReply (c : Cluster) (s : Network) (x : Side) (sessionId : SessionId)
    (session : P2PSession) (peerHost : HostEndPointInfo) (nodeId : NodeId) (result : ℤ) :
    Option Network :=
  let n := (s x).setSession sessionId { session with m_nodeId := nodeId }
  if result ≠ 0 then
    if result = -4 then
      -- both assertions of the branch
      (n.hostsInfoManager.getSessionId nodeId).bind fun anotherSessionId =>
        (n.sessions anotherSessionId).map fun another =>
          Function.update s x ((n.setSession anotherSessionId
            { another with m_peerHostEndPointInfo := peerHost }).addDestroy
              ⟨sessionId, result, false⟩)
    else some (Function.update s x (n.addDestroy ⟨sessionId, result, false⟩))
  else
    match n.hostsInfoManager.getSessionId nodeId with
    | some _ =>
      if c.nodeId x < nodeId then
        some (Function.update s x (n.addDestroy ⟨sessionId, -4, false⟩))
      else some (Function.update s x n)
    | none =>
      some (Function.update s x (n.recordHost session.m_peerHostEndPointInfo nodeId sessionId))

/-- The next thing that waits for a session is taken: the end of the stream by the reactor, a packet by
its handler, unless the session is already waiting to be disconnected. -/
def deliver (c : Cluster) (s : Network) (x : Side) (sessionId : SessionId) : Option Network :=
  match (s x).sessions sessionId with
  | none => none
  | some session =>
    match session.received with
    | [] => none
    | packet :: rest =>
      let session := { session with received := rest }
      let s' : Network := Function.update s x ((s x).setSession sessionId session)
      match packet with
      | .closed =>
        let n := (s x).setSession sessionId { session with m_isWaitingDisconnect := true }
        some (Function.update s x (n.addDestroy ⟨sessionId, 0, false⟩))
      | .clientInfo peerHost nodeId =>
        if session.m_isWaitingDisconnect = true then some s'
        else some (s'.onClientInfo c x sessionId session peerHost nodeId)
      | .clientInfoReply peerHost nodeId result =>
        if session.m_isWaitingDisconnect = true then some s'
        else s'.onClientInfoReply c x sessionId session peerHost nodeId result

/-- The destroyer handles the next request: the tables, then the socket. -/
def destroy (c : Cluster) (s : Network) (x : Side) : Option Network :=
  match (s x).m_waitingDestroySessionInfos with
  | [] => none
  | destoryInfo :: rest =>
    ((s x).sessions destoryInfo.sessionId).map fun session =>
      let n := { s x with
        m_waitingDestroySessionInfos := rest
        hostsInfoManager := disconnectClient (c.nodeId x) (s x).hostsInfoManager
          session.m_peerHostEndPointInfo session.m_nodeId destoryInfo.flag destoryInfo.sessionId
        sessions := Function.update (s x).sessions destoryInfo.sessionId none }
      Function.update (Function.update s x n) x.other ((s x.other).receive session.peer .closed)

end Network

inductive HandshakeEvent where
  | connect (x : Side)
  | deliver (x : Side) (sessionId : SessionId)
  | destroy (x : Side)
  deriving DecidableEq

def Network.step (c : Cluster) (s : Network) : HandshakeEvent → Option Network
  | .connect x =>
    if (s x).mayConnect (c.endPoint x.other) = true then some (s.connect c x) else none
  | .deliver x sessionId => s.deliver c x sessionId
  | .destroy x => s.destroy c x

def Network.start (c : Cluster) : Network := fun x =>
  { hostsInfoManager := .init (c.nodes x)
    m_connectingHosts := fun _ => false
    m_sessionId := 1
    sessions := fun _ => none
    m_waitingDestroySessionInfos := [] }

/-- The two nodes, started without sessions.  A pass of the connector is one step: it copies `m_hosts`, tests
the peer and opens the connection, and no reply is handled in between. -/
def handshake (c : Cluster) : TransitionSystem Network HandshakeEvent where
  init s := s = .start c
  step := Network.step c

/-! ### What the two nodes should agree on -/

/-- Nothing is under way and no session waits to be destroyed. -/
structure Quiescent (s : Network) : Prop where
  received : ∀ x sessionId session, (s x).sessions sessionId = some session → session.received = []
  requests : ∀ x, (s x).m_waitingDestroySessionInfos = []

/-- **Agreement.**  One connection is live, opened by `x`; both tables name its ends, and `x` has the
peer's id at the peer's endpoint. -/
def Agreement (c : Cluster) (s : Network) : Prop :=
  ∃ x near far, ∃ opener acceptor : P2PSession,
    (s x).sessions near = some opener ∧ (s x.other).sessions far = some acceptor ∧
    opener.isInitiator = true ∧ opener.peer = far ∧ acceptor.isInitiator = false ∧
    acceptor.peer = near ∧
    (∀ sessionId, (s x).sessions sessionId ≠ none → sessionId = near) ∧
    (∀ sessionId, (s x.other).sessions sessionId ≠ none → sessionId = far) ∧
    (s x).hostsInfoManager.getSessionId (c.nodeId x.other) = some near ∧
    (s x.other).hostsInfoManager.getSessionId (c.nodeId x) = some far ∧
    ∃ host, (s x).hostsInfoManager.m_hosts (c.endPoint x.other) = some host ∧
      host.1 = c.nodeId x.other

/-- The run condition: a reply `0` that finds an entry for its sender is delivered to the node with the
smaller id. -/
def Unignored (c : Cluster) (s : Network) : HandshakeEvent → Prop
  | .deliver x sessionId => ∀ session peerHost nodeId rest,
      (s x).sessions sessionId = some session →
      session.received = .clientInfoReply peerHost nodeId 0 :: rest →
      session.m_isWaitingDisconnect = false →
      (s x).hostsInfoManager.getSessionId nodeId ≠ none → c.nodeId x < nodeId
  | _ => True

end DistributedNetwork.Handshake
