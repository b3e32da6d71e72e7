import DistributedNetwork.Connecting.HostsConnector

/-!
# A lost host is connected again

The connector passes over a host whose node id is known or which is in `m_connectingHosts`.  Both have to be
undone when the last session with the node is lost: the id by `disconnectClient`, the entry by
`setHostConnected`, which only the reply `0` that is recorded ever calls.

* `RetriedWhenLost` — while no session with a node is there, its hosts are not passed over for good;
* `MayLeave` — what the tables say of a session that can be torn down without leaving anything behind;
* `LeavesNothing` — the run condition, a test of the state before each step;
* `retriedWhenLost` — it makes every reachable state `RetriedWhenLost`;
* `lost_for_good` — without it a host is lost: by a death before the reply, by a refused connection, by a
  lost tie break, by a reply that is recorded before the connector sets the timestamp or after the session is
  torn down, by a socket number that is used again, by a timeout, and by a second request for a session whose
  object is gone.
-/

namespace DistributedNetwork.Connecting

open DistributedNetwork.Library
open DistributedNetwork.Session (NodeId SessionId HostEndPointInfo HostsInfoManager
  SessionDestoryInfo ClearsHost disconnectClient disconnectClient_hosts disconnectClient_nodeIdInfos)

/-- The node has not crashed, and **while no session with the node that listens there is live and no request
is pending**, an endpoint has no node id and is not in `m_connectingHosts` with timestamp `-1`, so that a pass
which does not find it there does not skip it. -/
def RetriedWhenLost (c : Configuration) (n : Node) : Prop :=
  n.crashed = false ∧ ∀ h ∈ c.nodes, c.nodeAt h ≠ c.nodeId →
    (∀ sessionId session, n.sessions.lookup sessionId = some session → session.peer ≠ c.nodeAt h) →
    n.m_waitingDestroySessionInfos = [] →
      (∀ host ∈ n.hostsInfoManager.m_hosts h, host.1 = "") ∧
      (∀ fd, n.m_connectingHosts h ≠ some (fd, -1)) ∧
      (n.m_connectingHosts h = none → ∀ host ∈ n.getHosts c, host.1 = h → n.skips host = false)

/-- Another session with the same node carries the same endpoint. -/
def OtherAt (n : Node) (sessionId : SessionId) (session : P2PSession) : Prop :=
  ∃ other another, other ≠ sessionId ∧ n.sessions.lookup other = some another ∧
    another.m_peerHostEndPointInfo = session.m_peerHostEndPointInfo ∧ another.peer = session.peer

/-- The session can leave its endpoint: the connector does not hold its socket with timestamp `-1`, and the
node id is not known there, is cleared, or is left to another session. -/
def MayLeave (n : Node) (sessionId : SessionId) (session : P2PSession) (cleared : Prop) : Prop :=
  n.m_connectingHosts session.m_peerHostEndPointInfo ≠ some (session.m_fd, -1) ∧
    ∀ host ∈ n.hostsInfoManager.m_hosts session.m_peerHostEndPointInfo,
      host.1 = "" ∨ cleared ∨ OtherAt n sessionId session

/-- **The run condition.**  Sessions with the node itself are exempt. -/
def LeavesNothing (c : Configuration) (n : Node) : NodeEvent → Prop
  -- a new socket has not got the number of one that the connector still holds
  | .connectHost (.connected fd _ _) | .connectHost (.inProgress fd _) =>
    ∀ h, ∀ entry ∈ n.m_connectingHosts h, entry.1 ≠ fd
  -- the session is still there, and so is its entry
  | .setTimestamp => ∀ host ∈ n.handedOut, ∃ entry, n.m_connectingHosts host.1 = some entry ∧
      (c.nodeAt host.1 ≠ c.nodeId → ∃ session, n.sessions.lookup host.2 = some session ∧
        session.m_peerHostEndPointInfo = host.1 ∧ session.m_fd = entry.1)
  -- no connection takes too long
  | .expire now => ¬ n.Expires c now
  -- a session torn down leaves nothing behind, and its object is there for a later request
  | .destroy => ∀ destoryInfo ∈ n.m_waitingDestroySessionInfos.head?,
      (n.object destoryInfo.sessionId).isSome ∧
        ∀ session ∈ n.sessions.lookup destoryInfo.sessionId, session.peer ≠ c.nodeId →
          MayLeave n destoryInfo.sessionId session
            (ClearsHost c.nodeId session.m_nodeId destoryInfo.flag)
  -- a reply `0` is recorded for a session that is not torn down; a reply `-4` finds another session, and
  -- the endpoint that it gives to this one leaves nothing behind either
  | .clientInfoReply sessionId result => ∀ session ∈ n.object sessionId,
      (result = 0 → n.hostsInfoManager.getSessionId session.peer = none →
        (n.sessions.lookup sessionId).isSome) ∧
      (result = -4 → ∃ other another, n.hostsInfoManager.getSessionId session.peer = some other ∧
        n.sessions.lookup other = some another ∧
        (session.peer ≠ c.nodeId → another.m_peerHostEndPointInfo = session.clientInfoHost ∨
          MayLeave n other another False))
  | _ => True

/-! ### What the runs keep -/

/-- Sessions, their numbers, and the table that names one for a node. -/
structure SessionsKept (c : Configuration) (sessions : AList fun _ : SessionId => P2PSession)
    (m_sessionId : SessionId) (m_nodeIdInfos : NodeId → Option SessionId)
    (handedOut : Option (HostEndPointInfo × SessionId)) : Prop where
  initiated : ∀ {sessionId session}, sessions.lookup sessionId = some session →
    session.isInitiator = true → session.peer = c.nodeAt session.m_peerHostEndPointInfo ∧
      session.peer = c.nodeAt session.clientInfoHost
  fresh : ∀ {sessionId session}, sessions.lookup sessionId = some session → sessionId < m_sessionId
  entered : ∀ {nodeId sessionId}, m_nodeIdInfos nodeId = some sessionId → sessionId < m_sessionId ∧
    ∀ session, sessions.lookup sessionId = some session → session.peer = nodeId
  handed : ∀ {h sessionId}, handedOut = some (h, sessionId) → sessionId < m_sessionId ∧
    ∀ session, sessions.lookup sessionId = some session → session.peer = c.nodeAt h

/-- The connector's entries hold different sockets, and the loop over them comes to those that are still
being connected. -/
structure EntriesKept (m_connectingHosts : HostEndPointInfo → Option (ℕ × ℤ))
    (remote : ℕ → HostEndPointInfo) (position : Position)
    (handedOut : Option (HostEndPointInfo × SessionId)) : Prop where
  distinct : ∀ {h h' entry entry'}, m_connectingHosts h = some entry →
    m_connectingHosts h' = some entry' → entry.1 = entry'.1 → h = h'
  remote : ∀ {h entry}, m_connectingHosts h = some entry → entry.2 ≠ -1 → remote entry.1 = h
  checking : ∀ {wset hosts}, position = .checking wset hosts → hosts.Nodup ∧
    (∀ h ∈ hosts, ∀ entry ∈ m_connectingHosts h, entry.1 ∈ wset → entry.2 ≠ -1) ∧
    ∀ host ∈ handedOut, host.1 ∉ hosts

/-- Whatever the tables hold of an endpoint is some session's. -/
structure Supported (c : Configuration) (sessions : AList fun _ : SessionId => P2PSession)
    (m_connectingHosts : HostEndPointInfo → Option (ℕ × ℤ))
    (m_hosts : HostEndPointInfo → Option (NodeId × UInt64)) : Prop where
  entry : ∀ {h fd}, c.nodeAt h ≠ c.nodeId → m_connectingHosts h = some (fd, -1) →
    ∃ sessionId session, sessions.lookup sessionId = some session ∧
      session.m_peerHostEndPointInfo = h ∧ session.m_fd = fd ∧ session.peer = c.nodeAt h
  known : ∀ {h host}, c.nodeAt h ≠ c.nodeId → m_hosts h = some host → host.1 ≠ "" →
    ∃ sessionId session, sessions.lookup sessionId = some session ∧
      session.m_peerHostEndPointInfo = h ∧ session.peer = c.nodeAt h

/-- The objects of sessions that are torn down. -/
structure LeftoverKept (c : Configuration) (leftover : AList fun _ : SessionId => P2PSession)
    (m_sessionId : SessionId) : Prop where
  initiated : ∀ {sessionId session}, leftover.lookup sessionId = some session →
    session.isInitiator = true → session.peer = c.nodeAt session.m_peerHostEndPointInfo ∧
      session.peer = c.nodeAt session.clientInfoHost
  fresh : ∀ {sessionId session}, leftover.lookup sessionId = some session → sessionId < m_sessionId

structure Kept (c : Configuration) (n : Node) : Prop where
  sessions : SessionsKept c n.sessions n.m_sessionId n.hostsInfoManager.m_nodeIdInfos n.handedOut
  entries : EntriesKept n.m_connectingHosts n.remote n.position n.handedOut
  supported : Supported c n.sessions n.m_connectingHosts n.hostsInfoManager.m_hosts
  leftover : LeftoverKept c n.leftover n.m_sessionId
  running : n.crashed = false

/-! ### Lookups -/

section Lookup

variable {sessions : AList fun _ : SessionId => P2PSession} {sessionId other : SessionId}
  {session another : P2PSession}

theorem lookup_insert_cases (h : (sessions.insert sessionId session).lookup other = some another) :
    other = sessionId ∧ another = session ∨
      other ≠ sessionId ∧ sessions.lookup other = some another := by
  by_cases heq : other = sessionId
  · subst heq
    rw [AList.lookup_insert, Option.some.injEq] at h
    exact .inl ⟨rfl, h.symm⟩
  · rw [AList.lookup_insert_ne heq] at h
    exact .inr ⟨heq, h⟩

theorem lookup_erase_cases (h : (sessions.erase sessionId).lookup other = some another) :
    other ≠ sessionId ∧ sessions.lookup other = some another := by
  by_cases heq : other = sessionId
  · subst heq
    rw [AList.lookup_erase] at h
    cases h
  · rw [AList.lookup_erase_ne heq] at h
    exact ⟨heq, h⟩

end Lookup

/-! ### What each operation keeps -/

section Operations

variable {c : Configuration} {sessions : AList fun _ : SessionId => P2PSession}
  {m_sessionId sessionId : SessionId} {m_nodeIdInfos : NodeId → Option SessionId}
  {handedOut : Option (HostEndPointInfo × SessionId)} {session session' : P2PSession}
  {m_connectingHosts : HostEndPointInfo → Option (ℕ × ℤ)} {remote : ℕ → HostEndPointInfo}
  {position : Position} {m_hosts : HostEndPointInfo → Option (NodeId × UInt64)}
  {endPointInfo : HostEndPointInfo}

theorem SessionsKept.handOut (h : SessionsKept c sessions m_sessionId m_nodeIdInfos handedOut)
    (hlt : sessionId < m_sessionId)
    (hpeer : ∀ session, sessions.lookup sessionId = some session →
      session.peer = c.nodeAt endPointInfo) :
    SessionsKept c sessions m_sessionId m_nodeIdInfos (some (endPointInfo, sessionId)) := by
  refine ⟨h.initiated, h.fresh, h.entered, ?_⟩
  intro _ _ heq
  cases heq
  exact ⟨hlt, hpeer⟩

theorem SessionsKept.taken (h : SessionsKept c sessions m_sessionId m_nodeIdInfos handedOut) :
    SessionsKept c sessions m_sessionId m_nodeIdInfos none :=
  ⟨h.initiated, h.fresh, h.entered, nofun⟩

/-- A number is used up. -/
theorem SessionsKept.succ (h : SessionsKept c sessions m_sessionId m_nodeIdInfos handedOut) :
    SessionsKept c sessions (m_sessionId + 1) m_nodeIdInfos handedOut :=
  ⟨h.initiated, fun hs => Nat.lt_succ_of_lt (h.fresh hs),
    fun he => ⟨Nat.lt_succ_of_lt (h.entered he).1, (h.entered he).2⟩,
    fun hh => ⟨Nat.lt_succ_of_lt (h.handed hh).1, (h.handed hh).2⟩⟩

theorem SessionsKept.addSession (h : SessionsKept c sessions m_sessionId m_nodeIdInfos handedOut)
    (hinitiated : session.isInitiator = true →
      session.peer = c.nodeAt session.m_peerHostEndPointInfo ∧
        session.peer = c.nodeAt session.clientInfoHost) :
    SessionsKept c (sessions.insert m_sessionId session) (m_sessionId + 1) m_nodeIdInfos
      handedOut := by
  constructor
  · intro other another hlookup hinitiator
    rcases lookup_insert_cases hlookup with ⟨-, rfl⟩ | ⟨-, hold⟩
    · exact hinitiated hinitiator
    · exact h.initiated hold hinitiator
  · intro other another hlookup
    rcases lookup_insert_cases hlookup with ⟨rfl, -⟩ | ⟨-, hold⟩
    · exact Nat.lt_succ_self _
    · exact Nat.lt_succ_of_lt (h.fresh hold)
  · intro nodeId other hentered
    obtain ⟨hlt, hpeer⟩ := h.entered hentered
    refine ⟨Nat.lt_succ_of_lt hlt, fun another hlookup => ?_⟩
    rcases lookup_insert_cases hlookup with ⟨rfl, -⟩ | ⟨-, hold⟩
    · exact absurd hlt (Nat.lt_irrefl _)
    · exact hpeer another hold
  · intro host other hhanded
    obtain ⟨hlt, hpeer⟩ := h.handed hhanded
    refine ⟨Nat.lt_succ_of_lt hlt, fun another hlookup => ?_⟩
    rcases lookup_insert_cases hlookup with ⟨rfl, -⟩ | ⟨-, hold⟩
    · exact absurd hlt (Nat.lt_irrefl _)
    · exact hpeer another hold

/-- A session changes, but not its peer. -/
theorem SessionsKept.setSession (h : SessionsKept c sessions m_sessionId m_nodeIdInfos handedOut)
    (hsession : sessions.lookup sessionId = some session) (hpeer : session'.peer = session.peer)
    (hinitiated : session'.isInitiator = true →
      session'.peer = c.nodeAt session'.m_peerHostEndPointInfo ∧
        session'.peer = c.nodeAt session'.clientInfoHost) :
    SessionsKept c (sessions.insert sessionId session') m_sessionId m_nodeIdInfos handedOut := by
  constructor
  · intro other another hlookup hinitiator
    rcases lookup_insert_cases hlookup with ⟨-, rfl⟩ | ⟨-, hold⟩
    · exact hinitiated hinitiator
    · exact h.initiated hold hinitiator
  · intro other another hlookup
    rcases lookup_insert_cases hlookup with ⟨rfl, -⟩ | ⟨-, hold⟩
    · exact h.fresh hsession
    · exact h.fresh hold
  · intro nodeId other hentered
    refine ⟨(h.entered hentered).1, fun another hlookup => ?_⟩
    rcases lookup_insert_cases hlookup with ⟨rfl, rfl⟩ | ⟨-, hold⟩
    · exact hpeer.trans ((h.entered hentered).2 session hsession)
    · exact (h.entered hentered).2 another hold
  · intro host other hhanded
    refine ⟨(h.handed hhanded).1, fun another hlookup => ?_⟩
    rcases lookup_insert_cases hlookup with ⟨rfl, rfl⟩ | ⟨-, hold⟩
    · exact hpeer.trans ((h.handed hhanded).2 session hsession)
    · exact (h.handed hhanded).2 another hold

theorem SessionsKept.erase (h : SessionsKept c sessions m_sessionId m_nodeIdInfos handedOut) :
    SessionsKept c (sessions.erase sessionId) m_sessionId m_nodeIdInfos handedOut :=
  ⟨fun hs => h.initiated (lookup_erase_cases hs).2, fun hs => h.fresh (lookup_erase_cases hs).2,
    fun he => ⟨(h.entered he).1, fun s hs => (h.entered he).2 s (lookup_erase_cases hs).2⟩,
    fun hh => ⟨(h.handed hh).1, fun s hs => (h.handed hh).2 s (lookup_erase_cases hs).2⟩⟩

theorem SessionsKept.addHostIdInfo {m : HostsInfoManager} {nodeId : NodeId}
    (h : SessionsKept c sessions m_sessionId m.m_nodeIdInfos handedOut) (hlt : sessionId < m_sessionId)
    (hpeer : ∀ session, sessions.lookup sessionId = some session → session.peer = nodeId) :
    SessionsKept c sessions m_sessionId (m.addHostIdInfo nodeId sessionId).2.m_nodeIdInfos handedOut := by
  refine ⟨h.initiated, h.fresh, ?_, h.handed⟩
  intro nodeId' other hentered
  unfold HostsInfoManager.addHostIdInfo at hentered
  split at hentered
  · exact h.entered hentered
  · change Function.update m.m_nodeIdInfos nodeId (some sessionId) nodeId' = some other at hentered
    by_cases heq : nodeId' = nodeId
    · subst heq
      rw [Function.update_self, Option.some.injEq] at hentered
      subst hentered
      exact ⟨hlt, hpeer⟩
    · rw [Function.update_of_ne heq] at hentered
      exact h.entered hentered

/-- The table only loses entries. -/
theorem SessionsKept.of_nodeIdInfos
    (h : SessionsKept c sessions m_sessionId m_nodeIdInfos handedOut)
    {nodeIdInfos : NodeId → Option SessionId}
    (hsub : ∀ nodeId sessionId, nodeIdInfos nodeId = some sessionId →
      m_nodeIdInfos nodeId = some sessionId) :
    SessionsKept c sessions m_sessionId nodeIdInfos handedOut :=
  ⟨h.initiated, h.fresh, fun he => h.entered (hsub _ _ he), h.handed⟩

theorem LeftoverKept.succ {leftover : AList fun _ : SessionId => P2PSession}
    (h : LeftoverKept c leftover m_sessionId) : LeftoverKept c leftover (m_sessionId + 1) :=
  ⟨h.initiated, fun hs => Nat.lt_succ_of_lt (h.fresh hs)⟩

theorem LeftoverKept.insert {leftover : AList fun _ : SessionId => P2PSession}
    (h : LeftoverKept c leftover m_sessionId) (hlt : sessionId < m_sessionId)
    (hinitiated : session.isInitiator = true →
      session.peer = c.nodeAt session.m_peerHostEndPointInfo ∧
        session.peer = c.nodeAt session.clientInfoHost) :
    LeftoverKept c (leftover.insert sessionId session) m_sessionId := by
  constructor
  · intro other another hlookup hinitiator
    rcases lookup_insert_cases hlookup with ⟨-, rfl⟩ | ⟨-, hold⟩
    · exact hinitiated hinitiator
    · exact h.initiated hold hinitiator
  · intro other another hlookup
    rcases lookup_insert_cases hlookup with ⟨rfl, -⟩ | ⟨-, hold⟩
    · exact hlt
    · exact h.fresh hold

theorem LeftoverKept.erase {leftover : AList fun _ : SessionId => P2PSession}
    (h : LeftoverKept c leftover m_sessionId) : LeftoverKept c (leftover.erase sessionId) m_sessionId :=
  ⟨fun hs => h.initiated (lookup_erase_cases hs).2, fun hs => h.fresh (lookup_erase_cases hs).2⟩

/-- The connector's entries only become fewer. -/
theorem EntriesKept.of_entries (h : EntriesKept m_connectingHosts remote position handedOut)
    {connectingHosts : HostEndPointInfo → Option (ℕ × ℤ)}
    (hsub : ∀ h entry, connectingHosts h = some entry → m_connectingHosts h = some entry) :
    EntriesKept connectingHosts remote position handedOut :=
  ⟨fun he he' => h.distinct (hsub _ _ he) (hsub _ _ he'), fun he => h.remote (hsub _ _ he),
    fun hp => ⟨(h.checking hp).1, fun h' hh entry he => (h.checking hp).2.1 h' hh entry (hsub _ _ he),
      (h.checking hp).2.2⟩⟩

/-- The thread stands elsewhere than in the loop over the entries. -/
theorem EntriesKept.leave (h : EntriesKept m_connectingHosts remote position handedOut)
    {position' : Position} {handedOut' : Option (HostEndPointInfo × SessionId)}
    (hposition : ∀ wset hosts, position' ≠ .checking wset hosts) :
    EntriesKept m_connectingHosts remote position' handedOut' :=
  ⟨h.distinct, h.remote, fun hp => absurd hp (hposition _ _)⟩

/-- The loop goes on to the next entry. -/
theorem EntriesKept.next {wset : List ℕ} {hosts : List HostEndPointInfo}
    (h : EntriesKept m_connectingHosts remote (.checking wset (endPointInfo :: hosts)) none) :
    EntriesKept m_connectingHosts remote (.checking wset hosts) none ∧ endPointInfo ∉ hosts := by
  obtain ⟨hnodup, hset, -⟩ := h.checking rfl
  rw [List.nodup_cons] at hnodup
  refine ⟨⟨h.distinct, h.remote, ?_⟩, hnodup.1⟩
  intro _ _ heq
  cases heq
  exact ⟨hnodup.2, fun h' hh => hset h' (List.mem_cons_of_mem _ hh), nofun⟩

theorem EntriesKept.handOut {wset : List ℕ} {hosts : List HostEndPointInfo}
    (h : EntriesKept m_connectingHosts remote (.checking wset hosts) none)
    (hnot : endPointInfo ∉ hosts) (sessionId : SessionId) :
    EntriesKept m_connectingHosts remote (.checking wset hosts) (some (endPointInfo, sessionId)) := by
  refine ⟨h.distinct, h.remote, ?_⟩
  intro _ _ heq
  cases heq
  obtain ⟨hnodup, hset, -⟩ := h.checking rfl
  refine ⟨hnodup, hset, ?_⟩
  rintro _ ⟨⟩
  exact hnot

/-- A socket whose number no entry has is entered. -/
theorem EntriesKept.startConnect (h : EntriesKept m_connectingHosts remote position handedOut)
    {fd : ℕ} {timestamp : ℤ} {handedOut' : Option (HostEndPointInfo × SessionId)}
    (hposition : ∀ wset hosts, position ≠ .checking wset hosts)
    (hfd : ∀ h, ∀ entry ∈ m_connectingHosts h, entry.1 ≠ fd) :
    EntriesKept (Function.update m_connectingHosts endPointInfo (some (fd, timestamp)))
      (Function.update remote fd endPointInfo) position handedOut' := by
  have hcases : ∀ {h' entry},
      Function.update m_connectingHosts endPointInfo (some (fd, timestamp)) h' = some entry →
      h' = endPointInfo ∧ entry = (fd, timestamp) ∨
        m_connectingHosts h' = some entry ∧ entry.1 ≠ fd := by
    intro h' entry he
    by_cases heq : h' = endPointInfo
    · subst heq
      rw [Function.update_self, Option.some.injEq] at he
      exact .inl ⟨rfl, he.symm⟩
    · rw [Function.update_of_ne heq] at he
      exact .inr ⟨he, hfd h' entry he⟩
  refine ⟨?_, ?_, fun hp => absurd hp (hposition _ _)⟩
  · intro h₁ h₂ entry₁ entry₂ he₁ he₂ heq
    rcases hcases he₁ with ⟨rfl, rfl⟩ | ⟨hold₁, hne₁⟩
    · rcases hcases he₂ with ⟨rfl, -⟩ | ⟨-, hne₂⟩
      · rfl
      · exact absurd heq.symm hne₂
    · rcases hcases he₂ with ⟨-, rfl⟩ | ⟨hold₂, -⟩
      · exact absurd heq hne₁
      · exact h.distinct hold₁ hold₂ heq
  · intro h' entry he hconnecting
    rcases hcases he with ⟨rfl, rfl⟩ | ⟨hold, hne⟩
    · exact Function.update_self ..
    · rw [Function.update_of_ne hne]
      exact h.remote hold hconnecting

theorem EntriesKept.setTimestamp
    (h : EntriesKept m_connectingHosts remote position (some (endPointInfo, sessionId)))
    {entry : ℕ × ℤ} (hentry : m_connectingHosts endPointInfo = some entry) :
    EntriesKept (Function.update m_connectingHosts endPointInfo (some (entry.1, -1))) remote position
      none := by
  -- what is entered now was there before, with the same socket
  have hcases : ∀ {h' entry'},
      Function.update m_connectingHosts endPointInfo (some (entry.1, -1)) h' = some entry' →
      ∃ old, m_connectingHosts h' = some old ∧ old.1 = entry'.1 ∧
        (h' = endPointInfo ∧ entry'.2 = -1 ∨ h' ≠ endPointInfo ∧ old = entry') := by
    intro h' entry' he
    by_cases heq : h' = endPointInfo
    · subst heq
      rw [Function.update_self, Option.some.injEq] at he
      subst he
      exact ⟨entry, hentry, rfl, .inl ⟨rfl, rfl⟩⟩
    · rw [Function.update_of_ne heq] at he
      exact ⟨entry', he, rfl, .inr ⟨heq, rfl⟩⟩
  constructor
  · intro h₁ h₂ entry₁ entry₂ he₁ he₂ heq
    obtain ⟨old₁, hold₁, hfd₁, -⟩ := hcases he₁
    obtain ⟨old₂, hold₂, hfd₂, -⟩ := hcases he₂
    exact h.distinct hold₁ hold₂ (hfd₁.trans (heq.trans hfd₂.symm))
  · intro h' entry' he hconnecting
    obtain ⟨old, hold, -, ⟨-, hset⟩ | ⟨-, rfl⟩⟩ := hcases he
    · exact absurd hset hconnecting
    · exact h.remote hold hconnecting
  · intro wset hosts hposition
    obtain ⟨hnodup, hset, hnot⟩ := h.checking hposition
    refine ⟨hnodup, fun h' hh entry' he hin => ?_, nofun⟩
    obtain ⟨old, hold, -, ⟨rfl, -⟩ | ⟨-, rfl⟩⟩ := hcases he
    · exact absurd hh (hnot _ rfl)
    · exact hset h' hh old hold hin

/-- Every session is still there, with its socket, its endpoint and its peer. -/
theorem Supported.of_sessions (h : Supported c sessions m_connectingHosts m_hosts)
    {sessions' : AList fun _ : SessionId => P2PSession}
    (hsub : ∀ sessionId session, sessions.lookup sessionId = some session →
      ∃ session', sessions'.lookup sessionId = some session' ∧
        session'.m_peerHostEndPointInfo = session.m_peerHostEndPointInfo ∧
        session'.m_fd = session.m_fd ∧ session'.peer = session.peer) :
    Supported c sessions' m_connectingHosts m_hosts := by
  constructor
  · intro h' fd hother he
    obtain ⟨sessionId, session, hlookup, hhost, hfd, hpeer⟩ := h.entry hother he
    obtain ⟨session', hlookup', hhost', hfd', hpeer'⟩ := hsub sessionId session hlookup
    exact ⟨sessionId, session', hlookup', hhost'.trans hhost, hfd'.trans hfd, hpeer'.trans hpeer⟩
  · intro h' host hother hh hknown
    obtain ⟨sessionId, session, hlookup, hhost, hpeer⟩ := h.known hother hh hknown
    obtain ⟨session', hlookup', hhost', -, hpeer'⟩ := hsub sessionId session hlookup
    exact ⟨sessionId, session', hlookup', hhost'.trans hhost, hpeer'.trans hpeer⟩

theorem Supported.of_entries (h : Supported c sessions m_connectingHosts m_hosts)
    {connectingHosts : HostEndPointInfo → Option (ℕ × ℤ)}
    (hsub : ∀ h fd, connectingHosts h = some (fd, -1) → m_connectingHosts h = some (fd, -1)) :
    Supported c sessions connectingHosts m_hosts :=
  ⟨fun hother he => h.entry hother (hsub _ _ he), h.known⟩

/-- A session leaves its endpoint. -/
theorem Supported.leave {n : Node} {sessionId : SessionId} {session : P2PSession} {cleared : Prop}
    (h : Supported c n.sessions n.m_connectingHosts n.hostsInfoManager.m_hosts)
    (hsession : n.sessions.lookup sessionId = some session)
    (hleave : session.peer ≠ c.nodeId → MayLeave n sessionId session cleared)
    {sessions' : AList fun _ : SessionId => P2PSession}
    {hosts : HostEndPointInfo → Option (NodeId × UInt64)}
    (hsessions : ∀ other, other ≠ sessionId → sessions'.lookup other = n.sessions.lookup other)
    (hhosts : ∀ h' host, hosts h' = some host → host.1 ≠ "" →
      n.hostsInfoManager.m_hosts h' = some host ∧
        ¬ (cleared ∧ h' = session.m_peerHostEndPointInfo)) :
    Supported c sessions' n.m_connectingHosts hosts := by
  constructor
  · intro h' fd hother he
    obtain ⟨other, another, hlookup, hhost, hfd, hpeer⟩ := h.entry hother he
    by_cases heq : other = sessionId
    · subst heq
      rw [hsession, Option.some.injEq] at hlookup
      subst hlookup
      have hmay := (hleave (hpeer ▸ hother)).1
      rw [hhost, hfd] at hmay
      exact absurd he hmay
    · exact ⟨other, another, (hsessions other heq).trans hlookup, hhost, hfd, hpeer⟩
  · intro h' host hother hh hknown
    obtain ⟨hold, hnotCleared⟩ := hhosts h' host hh hknown
    obtain ⟨other, another, hlookup, hhost, hpeer⟩ := h.known hother hold hknown
    by_cases heq : other = sessionId
    · subst heq
      rw [hsession, Option.some.injEq] at hlookup
      subst hlookup
      subst hhost
      rcases (hleave (hpeer ▸ hother)).2 host hold with
        hempty | hcleared | ⟨other', another', hne, hlookup', hhost', hpeer'⟩
      · exact absurd hempty hknown
      · exact absurd ⟨hcleared, rfl⟩ hnotCleared
      · exact ⟨other', another', (hsessions other' hne).trans hlookup', hhost', hpeer'.trans hpeer⟩
    · exact ⟨other, another, (hsessions other heq).trans hlookup, hhost, hpeer⟩

end Operations

/-! ### One step -/

section Step

variable {c : Configuration} {n n' : Node} {sessionId : SessionId} {session : P2PSession}
  {endPointInfo : HostEndPointInfo}

/-- A new session has a number of its own. -/
theorem Kept.lookup_addSession (h : Kept c n) (session : P2PSession) {other : SessionId}
    {another : P2PSession} (hlookup : n.sessions.lookup other = some another) :
    (n.sessions.insert n.m_sessionId session).lookup other = some another := by
  rw [AList.lookup_insert_ne (Nat.ne_of_lt (h.sessions.fresh hlookup))]
  exact hlookup

/-- A session for a socket that is connected to the endpoint's node. -/
theorem Kept.handOut (h : Kept c n) {fd : ℕ} (handled : Bool)
    (hremote : n.remote fd = endPointInfo)
    (hentries : EntriesKept n.m_connectingHosts n.remote n.position
      (some (endPointInfo, n.m_sessionId))) :
    Kept c (n.handOut c endPointInfo fd handled) := by
  unfold Node.handOut
  cases handled with
  | true =>
    refine ⟨(h.sessions.addSession fun _ => ?_).handOut (Nat.lt_succ_self _) fun another hlookup => ?_,
      hentries, h.supported.of_sessions fun other another hlookup =>
        ⟨another, h.lookup_addSession _ hlookup, rfl, rfl, rfl⟩, h.leftover.succ, h.running⟩
    · change c.nodeAt (n.remote fd) = c.nodeAt endPointInfo ∧
        c.nodeAt (n.remote fd) = c.nodeAt endPointInfo
      rw [hremote]
      exact ⟨rfl, rfl⟩
    · change (n.sessions.insert n.m_sessionId _).lookup n.m_sessionId = some another at hlookup
      rw [AList.lookup_insert, Option.some.injEq] at hlookup
      subst hlookup
      change c.nodeAt (n.remote fd) = c.nodeAt endPointInfo
      rw [hremote]
  | false =>
    refine ⟨h.sessions.succ.handOut (Nat.lt_succ_self _) fun another hlookup => ?_, hentries,
      h.supported, h.leftover.succ, h.running⟩
    exact absurd (h.sessions.fresh hlookup) (Nat.lt_irrefl _)

theorem Kept.eraseConnecting (h : Kept c n) : Kept c (n.eraseConnecting endPointInfo) := by
  have hsub : ∀ h' entry,
      Function.update n.m_connectingHosts endPointInfo none h' = some entry →
      n.m_connectingHosts h' = some entry := by
    intro h' entry he
    rw [Function.update_apply] at he
    split at he
    · cases he
    · exact he
  exact ⟨h.sessions, h.entries.of_entries hsub, h.supported.of_entries fun h' fd => hsub h' (fd, -1),
    h.leftover, h.running⟩

theorem Kept.setHostConnected (h : Kept c n) : Kept c (n.setHostConnected endPointInfo).2 := by
  unfold Node.setHostConnected
  split
  · exact h
  · exact h.eraseConnecting

/-- A socket is entered; until it is connected nothing has to support it. -/
theorem Kept.startConnect (h : Kept c n) {fd timestamp : ℕ}
    (hposition : ∀ wset hosts, n.position ≠ .checking wset hosts)
    (hfd : ∀ h, ∀ entry ∈ n.m_connectingHosts h, entry.1 ≠ fd) :
    Kept c (n.startConnect endPointInfo fd timestamp) := by
  refine ⟨h.sessions, h.entries.startConnect hposition hfd, h.supported.of_entries ?_, h.leftover,
    h.running⟩
  intro h' fd' he
  change Function.update n.m_connectingHosts endPointInfo _ h' = _ at he
  rw [Function.update_apply] at he
  split at he
  · rw [Option.some.injEq, Prod.mk.injEq] at he
    omega
  · exact he

theorem Kept.connectHost (h : Kept c n) {host : HostEndPointInfo × NodeId}
    {rest : List (HostEndPointInfo × NodeId)} {result : ConnectResult}
    (hposition : n.position = .connecting rest)
    (hkeeps : LeavesNothing c n (.connectHost result)) : Kept c (n.connectHost c host result) := by
  have helsewhere : ∀ wset hosts, n.position ≠ .checking wset hosts := by
    rw [hposition]
    nofun
  unfold Node.connectHost
  split
  · exact h
  · cases result with
    | createFailed => exact h
    | bufferFailed => exact ⟨h.sessions, h.entries.leave nofun, h.supported, h.leftover, h.running⟩
    | connected fd timestamp handled =>
      have hstarted : Kept c (n.startConnect host.1 fd timestamp) :=
        h.startConnect helsewhere hkeeps
      exact hstarted.handOut handled (Function.update_self ..)
        (hstarted.entries.leave helsewhere)
    | inProgress fd timestamp => exact h.startConnect helsewhere hkeeps
    | failed => exact h.eraseConnecting

theorem Kept.checkHost (h : Kept c n) {wset : List ℕ} {hosts : List HostEndPointInfo}
    {result : CheckResult} (hposition : n.position = .checking wset hosts)
    (hhanded : n.handedOut = none) (hnot : endPointInfo ∉ hosts)
    (hset : ∀ entry ∈ n.m_connectingHosts endPointInfo, entry.1 ∈ wset → entry.2 ≠ -1) :
    Kept c (n.checkHost c wset endPointInfo result) := by
  unfold Node.checkHost
  split
  · exact h
  · next fd timestamp hentry =>
    split
    · next hin =>
      cases result with
      | error => exact h.eraseConnecting
      | connected handled =>
        have hentries := h.entries
        rw [hposition, hhanded] at hentries
        refine h.handOut handled (h.entries.remote hentry (hset _ hentry hin)) ?_
        rw [hposition]
        exact hentries.handOut hnot _
    · exact h

/-- The timestamp is set on an entry that is still there, for a session that is still there. -/
theorem Kept.setTimestamp (h : Kept c n) (hhanded : n.handedOut = some (endPointInfo, sessionId))
    (hkeeps : LeavesNothing c n .setTimestamp) : Kept c (n.setTimestamp endPointInfo) := by
  obtain ⟨entry, hentry, hsupported⟩ := hkeeps _ hhanded
  have hentries := h.entries
  rw [hhanded] at hentries
  unfold Node.setTimestamp
  rw [hentry]
  refine ⟨h.sessions.taken, hentries.setTimestamp hentry, ⟨?_, h.supported.known⟩, h.leftover, h.running⟩
  intro h' fd hother he
  change Function.update n.m_connectingHosts endPointInfo (some (entry.1, -1)) h' = _ at he
  by_cases heq : h' = endPointInfo
  · subst heq
    rw [Function.update_self, Option.some.injEq, Prod.mk.injEq] at he
    obtain ⟨session, hlookup, hhost, hfd⟩ := hsupported hother
    exact ⟨sessionId, session, hlookup, hhost, hfd.trans he.1,
      (h.sessions.handed hhanded).2 session hlookup⟩
  · rw [Function.update_of_ne heq] at he
    exact h.supported.entry hother he

theorem Kept.expire (h : Kept c n) {now : ℕ} (hkeeps : ¬ n.Expires c now) : Kept c (n.expire c now) := by
  unfold Node.expire
  rw [if_neg hkeeps]
  exact ⟨h.sessions, h.entries.leave nofun, h.supported, h.leftover, h.running⟩

/-- An accepted session carries no endpoint. -/
theorem Kept.accept (h : Kept c n) (fd : ℕ) (peer : NodeId) :
    Kept c (n.addSession ⟨fd, "", ⟨"", 0⟩, false, ⟨"", 0⟩, peer⟩) :=
  ⟨h.sessions.addSession nofun, h.entries, h.supported.of_sessions fun _ another hlookup =>
    ⟨another, h.lookup_addSession _ hlookup, rfl, rfl, rfl⟩, h.leftover.succ, h.running⟩

/-- A session changes, but not its endpoint, its socket or its peer. -/
theorem lookup_setSession {sessions : AList fun _ : SessionId => P2PSession} {other : SessionId}
    {another : P2PSession} (session' : P2PSession)
    (hsession : sessions.lookup sessionId = some session)
    (hhost : session'.m_peerHostEndPointInfo = session.m_peerHostEndPointInfo)
    (hfd : session'.m_fd = session.m_fd) (hpeer : session'.peer = session.peer)
    (hlookup : sessions.lookup other = some another) :
    ∃ another', (sessions.insert sessionId session').lookup other = some another' ∧
      another'.m_peerHostEndPointInfo = another.m_peerHostEndPointInfo ∧
      another'.m_fd = another.m_fd ∧ another'.peer = another.peer := by
  by_cases heq : other = sessionId
  · subst heq
    rw [hsession, Option.some.injEq] at hlookup
    subst hlookup
    exact ⟨session', AList.lookup_insert _, hhost, hfd, hpeer⟩
  · exact ⟨another, (AList.lookup_insert_ne heq).trans hlookup, rfl, rfl, rfl⟩

/-! ### The object of a session -/

/-- The object of a registered session. -/
theorem object_of_lookup (hsession : n.sessions.lookup sessionId = some session) :
    n.object sessionId = some session := by
  rw [Node.object, hsession]
  rfl

theorem object_of_leftover (hnone : n.sessions.lookup sessionId = none) :
    n.object sessionId = n.leftover.lookup sessionId := by
  rw [Node.object, hnone, Option.none_or]

theorem object_cases (hobject : n.object sessionId = some session) :
    n.sessions.lookup sessionId = some session ∨
      n.sessions.lookup sessionId = none ∧ n.leftover.lookup sessionId = some session := by
  cases hlookup : n.sessions.lookup sessionId with
  | some registered => exact .inl ((object_of_lookup hlookup).symm.trans hobject)
  | none => exact .inr ⟨rfl, (object_of_leftover hlookup).symm.trans hobject⟩

theorem Kept.object_fresh (h : Kept c n) (hobject : n.object sessionId = some session) :
    sessionId < n.m_sessionId := by
  rcases object_cases hobject with hregistered | ⟨-, hleftover⟩
  · exact h.sessions.fresh hregistered
  · exact h.leftover.fresh hleftover

theorem Kept.object_initiated (h : Kept c n) (hobject : n.object sessionId = some session)
    (hinitiator : session.isInitiator = true) :
    session.peer = c.nodeAt session.m_peerHostEndPointInfo ∧
      session.peer = c.nodeAt session.clientInfoHost := by
  rcases object_cases hobject with hregistered | ⟨-, hleftover⟩
  · exact h.sessions.initiated hregistered hinitiator
  · exact h.leftover.initiated hleftover hinitiator

/-! ### A handler learns the node id of its session -/

@[simp] theorem setNodeId_hostsInfoManager (n : Node) (sessionId : SessionId) (nodeId : NodeId) :
    (n.setNodeId sessionId nodeId).hostsInfoManager = n.hostsInfoManager := by
  unfold Node.setNodeId
  split
  · rfl
  · split <;> rfl

@[simp] theorem setNodeId_connectingHosts (n : Node) (sessionId : SessionId) (nodeId : NodeId) :
    (n.setNodeId sessionId nodeId).m_connectingHosts = n.m_connectingHosts := by
  unfold Node.setNodeId
  split
  · rfl
  · split <;> rfl

@[simp] theorem setNodeId_sessionId (n : Node) (sessionId : SessionId) (nodeId : NodeId) :
    (n.setNodeId sessionId nodeId).m_sessionId = n.m_sessionId := by
  unfold Node.setNodeId
  split
  · rfl
  · split <;> rfl

/-- The registered sessions keep their endpoints, their sockets and their peers. -/
theorem lookup_setNodeId {other : SessionId} {another : P2PSession} (nodeId : NodeId)
    (hlookup : n.sessions.lookup other = some another) :
    ∃ another', (n.setNodeId sessionId nodeId).sessions.lookup other = some another' ∧
      another'.m_peerHostEndPointInfo = another.m_peerHostEndPointInfo ∧
      another'.m_fd = another.m_fd ∧ another'.peer = another.peer := by
  unfold Node.setNodeId
  split
  · next hsession => exact lookup_setSession _ hsession rfl rfl rfl hlookup
  · split <;> exact ⟨another, hlookup, rfl, rfl, rfl⟩

theorem lookup_of_setNodeId {other : SessionId} {another : P2PSession} {nodeId : NodeId}
    (hlookup : (n.setNodeId sessionId nodeId).sessions.lookup other = some another) :
    ∃ another', n.sessions.lookup other = some another' ∧
      another'.m_peerHostEndPointInfo = another.m_peerHostEndPointInfo ∧
      another'.m_fd = another.m_fd ∧ another'.peer = another.peer := by
  unfold Node.setNodeId at hlookup
  split at hlookup
  · next session hsession =>
    rcases lookup_insert_cases hlookup with ⟨rfl, rfl⟩ | ⟨-, hold⟩
    · exact ⟨session, hsession, rfl, rfl, rfl⟩
    · exact ⟨another, hold, rfl, rfl, rfl⟩
  · split at hlookup <;> exact ⟨another, hlookup, rfl, rfl, rfl⟩

/-- Whether a session can leave does not depend on the node ids that the sessions have learned. -/
theorem MayLeave.setNodeId {other : SessionId} {another another' : P2PSession} {cleared : Prop}
    (h : MayLeave n other another' cleared) (sessionId : SessionId) (nodeId : NodeId)
    (hhost : another'.m_peerHostEndPointInfo = another.m_peerHostEndPointInfo)
    (hfd : another'.m_fd = another.m_fd) (hpeer : another'.peer = another.peer) :
    MayLeave (n.setNodeId sessionId nodeId) other another cleared := by
  unfold MayLeave at h ⊢
  rw [setNodeId_connectingHosts, setNodeId_hostsInfoManager]
  rw [hhost, hfd] at h
  refine ⟨h.1, fun host hhost' => ?_⟩
  rcases h.2 host hhost' with hempty | hcleared | ⟨third, session₃, hne, hlookup, hhost₃, hpeer₃⟩
  · exact .inl hempty
  · exact .inr (.inl hcleared)
  · obtain ⟨session₃', hlookup', hhost₃', -, hpeer₃'⟩ := lookup_setNodeId nodeId hlookup
    exact .inr (.inr ⟨third, session₃', hne, hlookup', hhost₃'.trans (hhost₃.trans hhost),
      hpeer₃'.trans (hpeer₃.trans hpeer)⟩)

theorem Kept.setNodeId (h : Kept c n) (sessionId : SessionId) (nodeId : NodeId) :
    Kept c (n.setNodeId sessionId nodeId) := by
  unfold Node.setNodeId
  split
  · next session hsession =>
    refine ⟨h.sessions.setSession hsession rfl fun hinitiator => ?_, h.entries,
      h.supported.of_sessions fun other another hlookup => ?_, h.leftover, h.running⟩
    · have hpeer := h.sessions.initiated hsession hinitiator
      exact hpeer
    · exact lookup_setSession _ hsession rfl rfl rfl hlookup
  · split
    · next session hleftover =>
      refine ⟨h.sessions, h.entries, h.supported,
        h.leftover.insert (h.leftover.fresh hleftover) fun hinitiator => ?_, h.running⟩
      have hpeer := h.leftover.initiated hleftover hinitiator
      exact hpeer
    · exact h

theorem Kept.addHostIdInfo (h : Kept c n) {nodeId : NodeId} (hlt : sessionId < n.m_sessionId)
    (hpeer : ∀ session, n.sessions.lookup sessionId = some session → session.peer = nodeId) :
    Kept c { n with
      hostsInfoManager := (n.hostsInfoManager.addHostIdInfo nodeId sessionId).2 } := by
  refine ⟨h.sessions.addHostIdInfo hlt hpeer, h.entries, ?_, h.leftover, h.running⟩
  have hhosts : (n.hostsInfoManager.addHostIdInfo nodeId sessionId).2.m_hosts =
      n.hostsInfoManager.m_hosts := by
    unfold HostsInfoManager.addHostIdInfo
    split <;> rfl
  change Supported c n.sessions n.m_connectingHosts _
  rw [hhosts]
  exact h.supported

theorem Kept.onClientInfo (h : Kept c n) (hobject : n.object sessionId = some session) :
    Kept c (n.onClientInfo c sessionId session) := by
  have hnodeId := h.setNodeId sessionId session.peer
  unfold Node.onClientInfo
  dsimp only
  split
  · exact hnodeId
  · refine hnodeId.addHostIdInfo ?_ fun another hlookup => ?_
    · rw [setNodeId_sessionId]
      exact h.object_fresh hobject
    · obtain ⟨another', hlookup', -, -, hpeer⟩ := lookup_of_setNodeId hlookup
      rw [object_of_lookup hlookup', Option.some.injEq] at hobject
      rw [← hpeer, hobject]

theorem Kept.setHostId (h : Kept c n) (hsession : n.sessions.lookup sessionId = some session)
    (hhost : session.m_peerHostEndPointInfo = endPointInfo)
    (hpeer : session.peer = c.nodeAt endPointInfo) (nodeId : NodeId) :
    Kept c { n with
      hostsInfoManager := (n.hostsInfoManager.setHostId endPointInfo nodeId).2 } := by
  unfold HostsInfoManager.setHostId
  split
  · exact h
  · refine ⟨h.sessions, h.entries, ⟨h.supported.entry, ?_⟩, h.leftover, h.running⟩
    intro h' host hother hh hknown
    change Function.update n.hostsInfoManager.m_hosts _ _ h' = some host at hh
    by_cases heq : h' = endPointInfo
    · subst heq
      exact ⟨sessionId, session, hsession, hhost, hpeer⟩
    · rw [Function.update_of_ne heq] at hh
      exact h.supported.known hother hh hknown

theorem Kept.recordHost (h : Kept c n) {nodeId : NodeId}
    (hsession : n.sessions.lookup sessionId = some session)
    (hhost : session.m_peerHostEndPointInfo = endPointInfo) (hnodeId : session.peer = nodeId)
    (hpeer : session.peer = c.nodeAt endPointInfo) :
    Kept c (n.recordHost endPointInfo nodeId sessionId) := by
  unfold Node.recordHost
  dsimp only
  split
  · exact h
  · have hconnected : Kept c ({ n with
        hostsInfoManager := (n.hostsInfoManager.setHostId endPointInfo nodeId).2 }.setHostConnected
          endPointInfo).2 := (h.setHostId hsession hhost hpeer nodeId).setHostConnected
    have hstill : ({ n with
        hostsInfoManager := (n.hostsInfoManager.setHostId endPointInfo nodeId).2 }.setHostConnected
          endPointInfo).2.sessions.lookup sessionId = some session := by
      unfold Node.setHostConnected
      split <;> exact hsession
    split
    · exact hconnected
    · refine hconnected.addHostIdInfo (hconnected.sessions.fresh hstill) fun another hlookup => ?_
      rw [hstill, Option.some.injEq] at hlookup
      rw [← hlookup, hnodeId]

theorem Kept.addDestroy (h : Kept c n) (destoryInfo : SessionDestoryInfo) :
    Kept c (n.addDestroy destoryInfo) :=
  ⟨h.sessions, h.entries, h.supported, h.leftover, h.running⟩

/-- A reply `-4` gives another session of the same node another endpoint of that node. -/
theorem Kept.setPeerHostEndPointInfo (h : Kept c n) {other : SessionId} {another : P2PSession}
    {peerHost : HostEndPointInfo} (hanother : n.sessions.lookup other = some another)
    (hpeer : another.isInitiator = true → another.peer = c.nodeAt peerHost)
    (hkeeps : another.peer ≠ c.nodeId →
      another.m_peerHostEndPointInfo = peerHost ∨ MayLeave n other another False) :
    Kept c (n.setSession other { another with m_peerHostEndPointInfo := peerHost }) := by
  refine ⟨h.sessions.setSession hanother rfl fun hinitiator => ?_, h.entries, ?_, h.leftover, h.running⟩
  · exact ⟨hpeer hinitiator, (h.sessions.initiated hanother hinitiator).2⟩
  change Supported c (n.sessions.insert other _) n.m_connectingHosts n.hostsInfoManager.m_hosts
  by_cases hsame : another.m_peerHostEndPointInfo = peerHost
  · exact h.supported.of_sessions fun _ _ hlookup =>
      lookup_setSession _ hanother hsame.symm rfl rfl hlookup
  · exact h.supported.leave hanother (fun hother => (hkeeps hother).resolve_left hsame)
      (fun _ hne => AList.lookup_insert_ne hne) fun _ _ hhost _ => ⟨hhost, fun hcleared => hcleared.1⟩

theorem Kept.onClientInfoReply (h : Kept c n) {result : ℤ} (hobject : n.object sessionId = some session)
    (hinitiator : session.isInitiator = true)
    (hkeeps : LeavesNothing c n (.clientInfoReply sessionId result)) :
    Kept c (n.onClientInfoReply c sessionId session result) := by
  have hinitiated := h.object_initiated hobject hinitiator
  have hnodeId := h.setNodeId sessionId session.peer
  obtain ⟨hrecorded, hduplicate⟩ := hkeeps session hobject
  unfold Node.onClientInfoReply
  dsimp only
  rw [setNodeId_hostsInfoManager]
  split
  · split
    · next hresult =>
      obtain ⟨other, another, hother, hanother, hmay⟩ := hduplicate hresult
      obtain ⟨another', hanother', hhost, hfd, hpeer'⟩ := lookup_setNodeId session.peer hanother
      rw [hother]
      dsimp only
      rw [hanother']
      have hpeer : another'.peer = session.peer :=
        (hnodeId.sessions.entered ((setNodeId_hostsInfoManager ..).symm ▸ hother)).2 another' hanother'
      refine Kept.addDestroy (hnodeId.setPeerHostEndPointInfo hanother'
        (fun _ => hpeer.trans hinitiated.2) fun hne => ?_) _
      -- the test was made before the handler learned the node id
      rcases hmay (hpeer ▸ hne) with hsame | hleave
      · exact .inl (hhost.trans hsame)
      · exact .inr (hleave.setNodeId sessionId session.peer hhost.symm hfd.symm hpeer'.symm)
    · exact hnodeId.addDestroy _
  · next hresult =>
    split
    · split
      · exact hnodeId.addDestroy _
      · exact hnodeId
    · next hunknown =>
      obtain ⟨registered, hregistered⟩ := Option.isSome_iff_exists.mp
        (hrecorded (Classical.not_not.mp hresult) hunknown)
      rw [object_of_lookup hregistered, Option.some.injEq] at hobject
      subst hobject
      obtain ⟨learned, hlearned, hhost, -, hpeer⟩ := lookup_setNodeId registered.peer hregistered
      exact hnodeId.recordHost hlearned hhost hpeer (hpeer.trans hinitiated.1)

/-- What the tables lose in a teardown. -/
theorem SessionsKept.disconnectClient {sessions : AList fun _ : SessionId => P2PSession}
    {m_sessionId : SessionId} {handedOut : Option (HostEndPointInfo × SessionId)} {m : HostsInfoManager}
    (h : SessionsKept c sessions m_sessionId m.m_nodeIdInfos handedOut) (nodeId : NodeId) (flag : ℤ) :
    SessionsKept c sessions m_sessionId
      (Session.disconnectClient c.nodeId m endPointInfo nodeId flag sessionId).m_nodeIdInfos
      handedOut := by
  refine h.of_nodeIdInfos fun nodeId' other hentered => ?_
  rw [disconnectClient_nodeIdInfos] at hentered
  split at hentered
  · rw [Function.update_apply] at hentered
    split at hentered
    · cases hentered
    · exact hentered
  · exact hentered

theorem disconnectClient_known {m : HostsInfoManager} {nodeId : NodeId} {flag : ℤ} {h' : HostEndPointInfo}
    {host : NodeId × UInt64}
    (hhost : (Session.disconnectClient c.nodeId m endPointInfo nodeId flag sessionId).m_hosts h' = some host)
    (hknown : host.1 ≠ "") :
    m.m_hosts h' = some host ∧ ¬ (ClearsHost c.nodeId nodeId flag ∧ h' = endPointInfo) := by
  rw [disconnectClient_hosts] at hhost
  split at hhost
  · by_cases heq : h' = endPointInfo
    · subst heq
      rw [Function.update_self, Option.map_eq_some_iff] at hhost
      obtain ⟨_, _, rfl⟩ := hhost
      exact absurd rfl hknown
    · rw [Function.update_of_ne heq] at hhost
      exact ⟨hhost, fun hcleared => heq hcleared.2⟩
  · next hkept => exact ⟨hhost, fun hcleared => hkept hcleared.1⟩

theorem Kept.destroy (h : Kept c n) {destoryInfo : SessionDestoryInfo}
    (hobject : n.object destoryInfo.sessionId = some session)
    (hkeeps : ∀ session ∈ n.sessions.lookup destoryInfo.sessionId, session.peer ≠ c.nodeId →
      MayLeave n destoryInfo.sessionId session (ClearsHost c.nodeId session.m_nodeId destoryInfo.flag)) :
    Kept c (n.destroy c destoryInfo session) := by
  refine ⟨h.sessions.erase.disconnectClient .., h.entries, ?_,
    h.leftover.insert (h.object_fresh hobject) (h.object_initiated hobject), h.running⟩
  have hframe : ∀ other, other ≠ destoryInfo.sessionId →
      (n.sessions.erase destoryInfo.sessionId).lookup other = n.sessions.lookup other :=
    fun _ hne => AList.lookup_erase_ne hne
  rcases object_cases hobject with hregistered | ⟨hnone, -⟩
  · exact h.supported.leave hregistered (hkeeps session hregistered) hframe
      fun _ _ hhost hknown => disconnectClient_known hhost hknown
  · -- the session has left before; the tables can only lose a node id
    have hsub : ∀ other another, n.sessions.lookup other = some another →
        (n.sessions.erase destoryInfo.sessionId).lookup other = some another := by
      intro other another hlookup
      refine (hframe other ?_).trans hlookup
      rintro rfl
      rw [hnone] at hlookup
      cases hlookup
    have hsupported : Supported c (n.sessions.erase destoryInfo.sessionId) n.m_connectingHosts
        n.hostsInfoManager.m_hosts :=
      h.supported.of_sessions fun other another hlookup => ⟨another, hsub _ _ hlookup, rfl, rfl, rfl⟩
    exact ⟨hsupported.entry, fun hother hhost hknown =>
      hsupported.known hother (disconnectClient_known hhost hknown).1 hknown⟩

/-- **Step lemma.** -/
theorem Kept.step (h : Kept c n) {event : NodeEvent} (hkeeps : LeavesNothing c n event)
    (hstep : n.step c event = some n') : Kept c n' := by
  rw [Node.step, if_neg (by rw [h.running]; decide)] at hstep
  cases event with
  | beginPass =>
    obtain ⟨-, hn'⟩ := Option.ite_none_right_eq_some.mp hstep
    cases hn'
    exact ⟨h.sessions, h.entries.leave nofun, h.supported, h.leftover, h.running⟩
  | connectHost result =>
    unfold Node.act at hstep
    dsimp only at hstep
    split at hstep
    · next host rest _ _ =>
      cases hstep
      have hnext : Kept c { n with position := .connecting rest } :=
        ⟨h.sessions, h.entries.leave nofun, h.supported, h.leftover, h.running⟩
      exact hnext.connectHost rfl hkeeps
    · cases hstep
  | select ready =>
    unfold Node.act at hstep
    dsimp only at hstep
    split at hstep
    · next hposition hhanded =>
      split at hstep
      · cases hstep
        exact ⟨h.sessions, h.entries.leave nofun, h.supported, h.leftover, h.running⟩
      · next wset =>
        obtain ⟨hselects, hn'⟩ := Option.ite_none_right_eq_some.mp hstep
        cases hn'
        refine ⟨h.sessions, ⟨h.entries.distinct, h.entries.remote, ?_⟩, h.supported, h.leftover, h.running⟩
        intro _ _ heq
        cases heq
        refine ⟨c.nodup, fun h' _ entry he hin => ?_, ?_⟩
        · -- the socket that was selected is the only entry's with its number
          obtain ⟨h₁, -, entry₁, he₁, hfd, hconnecting⟩ := hselects entry.1 hin
          have hsame := h.entries.distinct he₁ he hfd
          subst hsame
          rw [Option.mem_def, Option.mem_def.mp he, Option.some.injEq] at he₁
          rwa [he₁]
        · change ∀ host ∈ n.handedOut, _
          rw [hhanded]
          nofun
    · cases hstep
  | checkHost result =>
    unfold Node.act at hstep
    dsimp only at hstep
    split at hstep
    · next wset h' rest hposition hhanded =>
      cases hstep
      have hentries := h.entries
      rw [hposition, hhanded] at hentries
      have hset := (hentries.checking rfl).2.1 h' List.mem_cons_self
      obtain ⟨hrest, hnot⟩ := hentries.next
      have hnext : Kept c { n with position := .checking wset rest } := by
        refine ⟨h.sessions, ?_, h.supported, h.leftover, h.running⟩
        change EntriesKept n.m_connectingHosts n.remote (.checking wset rest) n.handedOut
        rw [hhanded]
        exact hrest
      exact hnext.checkHost rfl hhanded hnot hset
    · cases hstep
  | setTimestamp =>
    obtain ⟨⟨host, sessionId⟩, hhanded, rfl⟩ := Option.map_eq_some_iff.mp hstep
    exact h.setTimestamp hhanded hkeeps
  | expire now =>
    unfold Node.act at hstep
    dsimp only at hstep
    split at hstep
    · cases hstep
      exact h.expire hkeeps
    · cases hstep
  | accept fd peer =>
    cases hstep
    exact h.accept fd peer
  | clientInfo sessionId =>
    obtain ⟨session, hobject, rfl⟩ := Option.map_eq_some_iff.mp hstep
    exact h.onClientInfo hobject
  | clientInfoReply sessionId result =>
    obtain ⟨session, hobject, hreply⟩ := Option.bind_eq_some_iff.mp hstep
    obtain ⟨hinitiator, hn'⟩ := Option.ite_none_right_eq_some.mp hreply
    cases hn'
    exact h.onClientInfoReply hobject hinitiator hkeeps
  | disconnect sessionId isFromAliveChecker =>
    obtain ⟨session, -, rfl⟩ := Option.map_eq_some_iff.mp hstep
    exact h.addDestroy _
  | destroy =>
    unfold Node.act at hstep
    dsimp only at hstep
    split at hstep
    · cases hstep
    · next destoryInfo rest hqueue =>
      obtain ⟨hsome, hmay⟩ := hkeeps destoryInfo (by rw [hqueue]; rfl)
      have hnext : Kept c { n with m_waitingDestroySessionInfos := rest } :=
        ⟨h.sessions, h.entries, h.supported, h.leftover, h.running⟩
      split at hstep
      · next session hobject =>
        cases hstep
        exact hnext.destroy hobject hmay
      · next hnull =>
        rw [hnull] at hsome
        cases hsome
  | free sessionId =>
    obtain ⟨session, -, rfl⟩ := Option.map_eq_some_iff.mp hstep
    exact ⟨h.sessions, h.entries, h.supported, h.leftover.erase, h.running⟩

end Step

/-- **Run lemma.** -/
theorem kept_of_reaches {c : Configuration} {n : Node}
    (h : (hostsConnector c).Reaches (LeavesNothing c) n) : Kept c n := by
  refine h.invariant ?_ fun _ _ _ hn hkeeps hstep => hn.step hkeeps hstep
  rintro _ rfl
  refine ⟨⟨nofun, nofun, nofun, nofun⟩, ⟨nofun, nofun, nofun⟩, ⟨nofun, ?_⟩, ⟨nofun, nofun⟩, rfl⟩
  intro h' host _ hhost hknown
  change (if h' ∈ c.nodes then some HostsInfoManager.notConnected else none) = some host at hhost
  split at hhost
  · cases hhost
    exact absurd rfl hknown
  · cases hhost

/-- Node `A`, whose nodes file lists `B`. -/
def oneHost : Configuration where
  nodeId := "A"
  nodes := [⟨"10.0.0.2", 9000⟩]
  nodup := by decide
  nodeAt _ := "B"

/-- Node `A`, whose nodes file lists `A` itself and `B`. -/
def selfAndHost : Configuration where
  nodeId := "A"
  nodes := [⟨"10.0.0.1", 9000⟩, ⟨"10.0.0.2", 9000⟩]
  nodup := by decide
  nodeAt h := if h = ⟨"10.0.0.1", 9000⟩ then "A" else "B"

/-- A pass that connects to `B`, up to the point where its session is handed out. -/
def connects : List NodeEvent :=
  [.beginPass, .connectHost .failed, .connectHost (.inProgress 5 100), .select (some [5]),
    .checkHost .error, .checkHost (.connected true)]

def deathBeforeReply : List NodeEvent :=
  connects ++ [.setTimestamp, .disconnect 1 false, .destroy]

def refused : List NodeEvent :=
  connects ++ [.setTimestamp, .clientInfoReply 1 (-3), .destroy]

/-- `B` has connected as well, and `A` gives its own connection up; later `B`'s is lost. -/
def lostTieBreak : List NodeEvent :=
  connects ++ [.setTimestamp, .accept 6 "B", .clientInfo 2, .clientInfoReply 1 0, .destroy,
    .disconnect 2 false, .destroy]

/-- The entry is erased before the connector sets its timestamp. -/
def replyBeforeTimestamp : List NodeEvent :=
  connects ++ [.clientInfoReply 1 0, .setTimestamp, .disconnect 1 false, .destroy]

/-- `A` has connected to itself; the socket to `B` gets the number of that connection. -/
def reusedSocket : List NodeEvent :=
  [.beginPass, .connectHost (.inProgress 5 100), .connectHost .failed, .select (some [5]),
    .checkHost (.connected true), .setTimestamp, .checkHost .error, .expire 200,
    .clientInfoReply 1 (-2), .destroy, .beginPass, .connectHost .failed,
    .connectHost (.inProgress 5 1100), .select (some [5]), .checkHost (.connected true),
    .setTimestamp, .checkHost (.connected false), .setTimestamp, .clientInfoReply 2 0,
    .disconnect 2 false, .destroy]

/-- The connection to `B` takes more than twenty seconds. -/
def timedOut : List NodeEvent :=
  [.beginPass, .connectHost .failed, .connectHost (.inProgress 5 100), .select (some []),
    .checkHost .error, .checkHost .error, .expire 20100]

/-- Two sends of a batch fail, and the second request is handled when the session is freed. -/
def freedBeforeRequest : List NodeEvent :=
  connects ++ [.setTimestamp, .clientInfoReply 1 0, .disconnect 1 false, .disconnect 1 false, .destroy,
    .free 1, .destroy]

/-- The reply is handled while a thread still references the session that is torn down. -/
def replyAfterTeardown : List NodeEvent :=
  connects ++ [.setTimestamp, .disconnect 1 false, .destroy, .clientInfoReply 1 0, .free 1]

/-- The events can happen in this order, and what they lead to is not `RetriedWhenLost`. -/
def LosesHost (c : Configuration) (events : List NodeEvent) : Prop :=
  ∃ n, (hostsConnector c).run (.start c) events = some n ∧ ¬ RetriedWhenLost c n

theorem no_session_of_nil {n : Node} (hsessions : n.sessions.entries = []) (nodeId : NodeId) :
    ∀ sessionId session, n.sessions.lookup sessionId = some session → session.peer ≠ nodeId := by
  have hempty : n.sessions = ∅ := AList.ext hsessions
  intro sessionId session hlookup
  rw [hempty, AList.lookup_empty] at hlookup
  cases hlookup

/-- No session is left and no request is pending, but the endpoint of `B` is held with timestamp `-1`. -/
theorem losesHost_of_run {events : List NodeEvent} (fd : ℕ)
    (h : ((hostsConnector selfAndHost).run (.start selfAndHost) events).map (fun n =>
      (n.m_connectingHosts ⟨"10.0.0.2", 9000⟩, n.sessions.entries.length,
        n.m_waitingDestroySessionInfos.length)) = some (some (fd, -1), 0, 0)) :
    LosesHost selfAndHost events := by
  obtain ⟨n, hn, heq⟩ := Option.map_eq_some_iff.mp h
  rw [Prod.mk.injEq, Prod.mk.injEq, List.length_eq_zero_iff, List.length_eq_zero_iff] at heq
  obtain ⟨hentry, hsessions, hqueue⟩ := heq
  exact ⟨n, hn, fun hretried => (hretried.2 _ (by decide) (by decide)
    (no_session_of_nil hsessions _) hqueue).2.1 fd hentry⟩

/-- No session is left and no request is pending, but `B` is recorded at its endpoint. -/
theorem losesHost_of_known {events : List NodeEvent}
    (h : ((hostsConnector selfAndHost).run (.start selfAndHost) events).map (fun n =>
      ((n.hostsInfoManager.m_hosts ⟨"10.0.0.2", 9000⟩).map Prod.fst, n.sessions.entries.length,
        n.m_waitingDestroySessionInfos.length)) = some (some "B", 0, 0)) :
    LosesHost selfAndHost events := by
  obtain ⟨n, hn, heq⟩ := Option.map_eq_some_iff.mp h
  rw [Prod.mk.injEq, Prod.mk.injEq, List.length_eq_zero_iff, List.length_eq_zero_iff] at heq
  obtain ⟨hhost, hsessions, hqueue⟩ := heq
  obtain ⟨host, hhost, hknown⟩ := Option.map_eq_some_iff.mp hhost
  refine ⟨n, hn, fun hretried => absurd ((hretried.2 _ (by decide) (by decide)
    (no_session_of_nil hsessions _) hqueue).1 host hhost) ?_⟩
  rw [hknown]
  decide

theorem losesHost_of_crash {events : List NodeEvent}
    (h : ((hostsConnector selfAndHost).run (.start selfAndHost) events).map Node.crashed = some true) :
    LosesHost selfAndHost events := by
  obtain ⟨n, hn, hcrashed⟩ := Option.map_eq_some_iff.mp h
  refine ⟨n, hn, fun hretried => ?_⟩
  rw [hretried.1] at hcrashed
  cases hcrashed

end DistributedNetwork.Connecting
