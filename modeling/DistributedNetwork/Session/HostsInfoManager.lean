import Mathlib.Logic.Function.Basic
import Mathlib.Tactic.Common
import Mathlib.Data.Int.Notation

/-!
# The tables of `HostsInfoManager`

Two tables record who is connected: `m_hosts` maps a configured endpoint to the node id that answered
there (empty while nobody has), and `m_nodeIdInfos` maps a node id to the session that reaches it.

* `disconnectClient` — what a torn down session does to the tables, by the flag of its request;
* `NothingToDisconnect` — **exactly** the states in which it changes neither table;
* `disconnectClient_stale_iff` — a session that is no longer its node's current one: its node entry is
  safe, but the entry of its endpoint is cleared whoever is connected there.
-/

namespace DistributedNetwork.Session

abbrev NodeId := String
abbrev SessionId := ℕ

structure HostEndPointInfo where
  m_ip : String
  m_port : UInt16
  deriving DecidableEq

structure HostsInfoManager where
  m_hosts : HostEndPointInfo → Option (NodeId × UInt64)
  m_nodeIdInfos : NodeId → Option SessionId

namespace HostsInfoManager

/-- The entry of an endpoint at which no node is connected. -/
def notConnected : NodeId × UInt64 := ("", -1)

/-- The tables after the nodes file has been read. -/
def init (nodes : List HostEndPointInfo) : HostsInfoManager where
  m_hosts endPointInfo := if endPointInfo ∈ nodes then some notConnected else none
  m_nodeIdInfos _ := none

def setHostId (m : HostsInfoManager) (endPointInfo : HostEndPointInfo) (nodeId : NodeId) :
    ℤ × HostsInfoManager :=
  match m.m_hosts endPointInfo with
  | none => (-1, m)
  | some host =>
    (0, { m with m_hosts := Function.update m.m_hosts endPointInfo (some (nodeId, host.2)) })

def addHostIdInfo (m : HostsInfoManager) (nodeId : NodeId) (sessionId : SessionId) :
    ℤ × HostsInfoManager :=
  match m.m_nodeIdInfos nodeId with
  | some _ => (-1, m)
  | none => (0, { m with m_nodeIdInfos := Function.update m.m_nodeIdInfos nodeId (some sessionId) })

def removeHostIdInfo (m : HostsInfoManager) (nodeId : NodeId) (sessionId : SessionId) :
    ℤ × HostsInfoManager :=
  match m.m_nodeIdInfos nodeId with
  | none => (-1, m)
  | some current =>
    if sessionId ≠ current then (-1, m)
    else (0, { m with m_nodeIdInfos := Function.update m.m_nodeIdInfos nodeId none })

def setHostNotConnected (m : HostsInfoManager) (endPointInfo : HostEndPointInfo) :
    ℤ × HostsInfoManager :=
  match m.m_hosts endPointInfo with
  | none => (-1, m)
  | some _ => (0, { m with m_hosts := Function.update m.m_hosts endPointInfo (some notConnected) })

def getSessionId (m : HostsInfoManager) (nodeId : NodeId) : Option SessionId :=
  m.m_nodeIdInfos nodeId

/-! ### What each operation does to the two tables -/

theorem removeHostIdInfo_hosts (m : HostsInfoManager) (nodeId : NodeId) (sessionId : SessionId) :
    (m.removeHostIdInfo nodeId sessionId).2.m_hosts = m.m_hosts := by
  unfold removeHostIdInfo
  split
  · rfl
  · split <;> rfl

theorem setHostNotConnected_nodeIdInfos (m : HostsInfoManager) (endPointInfo : HostEndPointInfo) :
    (m.setHostNotConnected endPointInfo).2.m_nodeIdInfos = m.m_nodeIdInfos := by
  unfold setHostNotConnected
  split <;> rfl

/-- Removal is keyed by node **and** session: another session's entry stays. -/
theorem removeHostIdInfo_nodeIdInfos (m : HostsInfoManager) (nodeId : NodeId)
    (sessionId : SessionId) :
    (m.removeHostIdInfo nodeId sessionId).2.m_nodeIdInfos =
      if m.m_nodeIdInfos nodeId = some sessionId then Function.update m.m_nodeIdInfos nodeId none
      else m.m_nodeIdInfos := by
  unfold removeHostIdInfo
  split
  · next h => simp [h]
  · next current h =>
    by_cases hs : sessionId = current
    · simp [h, hs]
    · rw [if_pos hs, if_neg (by rw [h]; simpa using fun he : current = sessionId => hs he.symm)]

theorem setHostNotConnected_hosts (m : HostsInfoManager) (endPointInfo : HostEndPointInfo) :
    (m.setHostNotConnected endPointInfo).2.m_hosts =
      Function.update m.m_hosts endPointInfo ((m.m_hosts endPointInfo).map fun _ => notConnected) := by
  unfold setHostNotConnected
  split
  · next h => rw [h, Option.map_none, ← h, Function.update_eq_self]
  · next h => rw [h]; rfl

theorem ext_tables {m m' : HostsInfoManager} (hhosts : m.m_hosts = m'.m_hosts)
    (hnodes : m.m_nodeIdInfos = m'.m_nodeIdInfos) : m = m' := by
  cases m
  cases m'
  cases hhosts
  cases hnodes
  rfl

end HostsInfoManager

/-! ### Disconnecting -/

/-- What a torn down session does to the tables.  Flags `0` and `-1` are a lost connection, the others
are the results of a handshake. -/
def disconnectClient (localNodeId : NodeId) (m : HostsInfoManager)
    (hostEndPointInfo : HostEndPointInfo) (nodeId : NodeId) (flag : ℤ) (sessionId : SessionId) :
    HostsInfoManager :=
  if flag = 0 ∨ flag = -1 then
    if nodeId = localNodeId then m
    else ((m.removeHostIdInfo nodeId sessionId).2.setHostNotConnected hostEndPointInfo).2
  else if flag = -2 then m
  else if flag = -3 then m
  else if flag = -4 then (m.removeHostIdInfo nodeId sessionId).2
  else m

/-- The flag makes `disconnectClient` take the session out of `m_nodeIdInfos`. -/
def RemovesNode (localNodeId nodeId : NodeId) (flag : ℤ) : Prop :=
  (flag = 0 ∨ flag = -1) ∧ nodeId ≠ localNodeId ∨ flag = -4

/-- The flag makes `disconnectClient` mark the endpoint as not connected. -/
def ClearsHost (localNodeId nodeId : NodeId) (flag : ℤ) : Prop :=
  (flag = 0 ∨ flag = -1) ∧ nodeId ≠ localNodeId

instance (localNodeId nodeId : NodeId) (flag : ℤ) :
    Decidable (RemovesNode localNodeId nodeId flag) :=
  inferInstanceAs (Decidable (_ ∨ _))

instance (localNodeId nodeId : NodeId) (flag : ℤ) :
    Decidable (ClearsHost localNodeId nodeId flag) :=
  inferInstanceAs (Decidable (_ ∧ _))

theorem disconnectClient_nodeIdInfos (localNodeId : NodeId) (m : HostsInfoManager)
    (hostEndPointInfo : HostEndPointInfo) (nodeId : NodeId) (flag : ℤ) (sessionId : SessionId) :
    (disconnectClient localNodeId m hostEndPointInfo nodeId flag sessionId).m_nodeIdInfos =
      if RemovesNode localNodeId nodeId flag ∧ m.m_nodeIdInfos nodeId = some sessionId then
        Function.update m.m_nodeIdInfos nodeId none
      else m.m_nodeIdInfos := by
  unfold disconnectClient RemovesNode
  by_cases hlost : flag = 0 ∨ flag = -1
  · have hflag : flag ≠ -4 := by omega
    by_cases hlocal : nodeId = localNodeId
    · simp [hlost, hlocal, hflag]
    · simp [hlost, hlocal, HostsInfoManager.setHostNotConnected_nodeIdInfos,
        HostsInfoManager.removeHostIdInfo_nodeIdInfos]
  · by_cases hflag : flag = -4
    · simp [hflag, HostsInfoManager.removeHostIdInfo_nodeIdInfos]
    · simp [hlost, hflag]

theorem disconnectClient_hosts (localNodeId : NodeId) (m : HostsInfoManager)
    (hostEndPointInfo : HostEndPointInfo) (nodeId : NodeId) (flag : ℤ) (sessionId : SessionId) :
    (disconnectClient localNodeId m hostEndPointInfo nodeId flag sessionId).m_hosts =
      if ClearsHost localNodeId nodeId flag then
        Function.update m.m_hosts hostEndPointInfo
          ((m.m_hosts hostEndPointInfo).map fun _ => HostsInfoManager.notConnected)
      else m.m_hosts := by
  unfold disconnectClient ClearsHost
  by_cases hlost : flag = 0 ∨ flag = -1
  · by_cases hlocal : nodeId = localNodeId
    · simp [hlost, hlocal]
    · simp [hlost, hlocal, HostsInfoManager.setHostNotConnected_hosts,
        HostsInfoManager.removeHostIdInfo_hosts]
  · by_cases hflag : flag = -4
    · simp [hflag, HostsInfoManager.removeHostIdInfo_hosts]
    · simp [hlost, hflag]

/-- The tables hold nothing that `disconnectClient` would change. -/
structure NothingToDisconnect (localNodeId : NodeId) (m : HostsInfoManager)
    (hostEndPointInfo : HostEndPointInfo) (nodeId : NodeId) (flag : ℤ) (sessionId : SessionId) :
    Prop where
  node : RemovesNode localNodeId nodeId flag → m.m_nodeIdInfos nodeId ≠ some sessionId
  host : ClearsHost localNodeId nodeId flag → ∀ host, m.m_hosts hostEndPointInfo = some host →
    host = HostsInfoManager.notConnected

/-- **`disconnectClient` leaves the tables alone exactly when they hold nothing of the session.** -/
theorem disconnectClient_eq_self_iff {localNodeId : NodeId} {m : HostsInfoManager}
    {hostEndPointInfo : HostEndPointInfo} {nodeId : NodeId} {flag : ℤ} {sessionId : SessionId} :
    disconnectClient localNodeId m hostEndPointInfo nodeId flag sessionId = m ↔
      NothingToDisconnect localNodeId m hostEndPointInfo nodeId flag sessionId := by
  constructor
  · intro h
    have hnodes := disconnectClient_nodeIdInfos localNodeId m hostEndPointInfo nodeId flag sessionId
    have hhosts := disconnectClient_hosts localNodeId m hostEndPointInfo nodeId flag sessionId
    rw [h] at hnodes hhosts
    constructor
    · intro hr hn
      rw [if_pos ⟨hr, hn⟩] at hnodes
      have hnone := congrFun hnodes nodeId
      rw [hn, Function.update_self] at hnone
      cases hnone
    · intro hc host hhost
      rw [if_pos hc] at hhosts
      have hself := congrFun hhosts hostEndPointInfo
      rw [Function.update_self, hhost] at hself
      exact Option.some.inj hself
  · intro h
    apply HostsInfoManager.ext_tables
    · rw [disconnectClient_hosts]
      split
      · next hc =>
        rw [Function.update_eq_self_iff]
        cases hm : m.m_hosts hostEndPointInfo with
        | none => rfl
        | some host => rw [h.host hc host hm]; rfl
      · rfl
    · rw [disconnectClient_nodeIdInfos, if_neg fun hn => h.node hn.1 hn.2]

/-! ### Stale sessions -/

/-- **A stale session is torn down without a trace if and only if** its request is not that of a lost
connection, or nobody is connected at its endpoint.  The endpoint is not checked against the session. -/
theorem disconnectClient_stale_iff {localNodeId : NodeId} {m : HostsInfoManager}
    {hostEndPointInfo : HostEndPointInfo} {nodeId : NodeId} {flag : ℤ} {sessionId current : SessionId}
    (hnode : nodeId ≠ localNodeId) (hcurrent : m.m_nodeIdInfos nodeId = some current)
    (hstale : sessionId ≠ current) :
    disconnectClient localNodeId m hostEndPointInfo nodeId flag sessionId = m ↔
      (flag = 0 ∨ flag = -1 → ∀ host, m.m_hosts hostEndPointInfo = some host →
        host = HostsInfoManager.notConnected) := by
  rw [disconnectClient_eq_self_iff]
  constructor
  · intro h hlost
    exact h.host ⟨hlost, hnode⟩
  · intro h
    constructor
    · intro _ hentry
      rw [hcurrent, Option.some.injEq] at hentry
      exact hstale hentry.symm
    · intro hclears
      exact h hclears.1

/-- Node `A` after session `1` to node `B` has replaced session `0`. -/
def reconnected : HostsInfoManager :=
  (((HostsInfoManager.init [⟨"10.0.0.2", 9000⟩]).setHostId ⟨"10.0.0.2", 9000⟩ "B").2.addHostIdInfo
    "B" 1).2

/-- An accepted session carries no configured endpoint. -/
theorem disconnectClient_stale_accepted :
    disconnectClient "A" reconnected ⟨"", 0⟩ "B" 0 0 = reconnected := by
  have hcurrent : reconnected.m_nodeIdInfos "B" = some 1 := rfl
  exact (disconnectClient_stale_iff (by decide) hcurrent (by decide)).mpr fun _ host hhost => by
    cases hhost

/-- The late request of session `0` marks the endpoint of session `1` as not connected. -/
theorem disconnectClient_stale_disturbs : reconnected.m_nodeIdInfos "B" = some 1 ∧
    reconnected.m_hosts ⟨"10.0.0.2", 9000⟩ = some ("B", -1) ∧
    (disconnectClient "A" reconnected ⟨"10.0.0.2", 9000⟩ "B" 0 0).m_hosts ⟨"10.0.0.2", 9000⟩ =
      some ("", -1) := by
  decide

end DistributedNetwork.Session
