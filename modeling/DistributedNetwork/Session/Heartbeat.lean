import DistributedNetwork.Decoding.PacketFormat
import DistributedNetwork.Library.MachineInt
import DistributedNetwork.Session.HostsInfoManager

/-!
# One pass of the heartbeat service

The pass goes over a copy of `m_hosts`, in the order of the hash table, reads the clock at each host and looks
its session up in `m_nodeIdInfos`.  A host without a session ends the pass, not only its own turn; a session
id reaches the sender through an `int`; the time stamp is written to the copy.

* `calls_cons` — what the first host does to the calls;
* `called_iff` — **exactly** when the sender is called for a host;
* `heartbeats_iff` — no host starves **if and only if** none is behind a host that ends the pass, its unsigned
  time difference tells the truth, and its session id fits an `int`.
-/

namespace DistributedNetwork.Session

open DistributedNetwork.Buffer DistributedNetwork.Decoding DistributedNetwork.Library

def c_heartbeatInterval : UInt64 := 5000

/-- An entry of the copy of `m_hosts`, and the reading of the clock when the loop is there. -/
structure HostVisit where
  endPointInfo : HostEndPointInfo
  nodeId : NodeId
  timestamp : UInt64
  curTimestamp : UInt64
  deriving DecidableEq

/-- A call of the sender: for which entry, and with what. -/
structure HeartbeatCall where
  endPointInfo : HostEndPointInfo
  sessionId : SessionId
  data : List Byte
  ret : ℤ
  deriving DecidableEq

/-- The calls of a pass, and the copy it leaves. -/
structure HeartbeatPass where
  calls : List HeartbeatCall
  hosts : List HostVisit
  deriving DecidableEq

/-- The two arguments of the callback; the first one is an `int`. -/
abbrev HeartbeatSender :=
  SessionId → List Byte → ℤ

/-- The copy that `getHosts` makes, in some order: one entry for each endpoint. -/
structure Copies (m : HostsInfoManager) (hosts : List HostVisit) : Prop where
  nodup : (hosts.map HostVisit.endPointInfo).Nodup
  mem_iff : ∀ endPointInfo entry, m.m_hosts endPointInfo = some entry ↔
    ∃ host ∈ hosts, host.endPointInfo = endPointInfo ∧ (host.nodeId, host.timestamp) = entry

section Pass

variable (m_hostId : NodeId) (m_hostInfoManager : HostsInfoManager)

def heartbeatPass (m_heartBeatSender : Option HeartbeatSender) : List HostVisit → HeartbeatPass
  | [] => ⟨[], []⟩
  | host :: hosts =>
    let rest := heartbeatPass m_heartBeatSender hosts
    if host.nodeId = "" ∨ m_hostId = host.nodeId then ⟨rest.calls, host :: rest.hosts⟩
    else if host.curTimestamp - host.timestamp ≥ c_heartbeatInterval then
      let buffer := PacketEncodeHelper.encodeHeartBeat .PT_HeartBeat
      match m_heartBeatSender with
      | none => ⟨rest.calls, host :: rest.hosts⟩
      | some heartBeatSender =>
        match m_hostInfoManager.getSessionId host.nodeId with
        | none => ⟨[], host :: hosts⟩ -- `return`, not `continue`
        | some sessionId =>
          -- the result of the sender is logged only
          let fd := throughInt sessionId
          ⟨⟨host.endPointInfo, fd, buffer, heartBeatSender fd buffer⟩ :: rest.calls,
            { host with timestamp := host.curTimestamp } :: rest.hosts⟩
    else ⟨rest.calls, host :: rest.hosts⟩

/-! ### What is owed -/

/-- No heartbeat was sent in the last interval, or none at all. -/
def HostVisit.NotRecent (host : HostVisit) : Prop :=
  host.timestamp = -1 ∨ ¬ (host.timestamp.toNat ≤ host.curTimestamp.toNat ∧
    host.curTimestamp.toNat < host.timestamp.toNat + c_heartbeatInterval.toNat)

/-- The host is connected, over this session, and is to be sent a heartbeat. -/
structure HostVisit.Owed (host : HostVisit) (sessionId : SessionId) : Prop where
  connected : host.nodeId ≠ ""
  other : m_hostId ≠ host.nodeId
  session : m_hostInfoManager.getSessionId host.nodeId = some sessionId
  notRecent : host.NotRecent

/-- The sender was called for the entry, with a heartbeat for this session. -/
def HeartbeatPass.Called (pass : HeartbeatPass) (host : HostVisit) (sessionId : SessionId) : Prop :=
  ∃ ret, ⟨host.endPointInfo, sessionId, PacketEncodeHelper.encodeHeartBeat .PT_HeartBeat, ret⟩ ∈
    pass.calls

/-! ### What the code tests -/

/-- The loop goes past the two tests of the host. -/
def HostVisit.Due (host : HostVisit) : Prop :=
  (host.nodeId ≠ "" ∧ m_hostId ≠ host.nodeId) ∧
    host.curTimestamp - host.timestamp ≥ c_heartbeatInterval

/-- The loop returns at the host. -/
def HostVisit.EndsPass (host : HostVisit) : Prop :=
  host.Due m_hostId ∧ m_hostInfoManager.getSessionId host.nodeId = none

variable {m_hostId m_hostInfoManager} {heartBeatSender : HeartbeatSender} {host : HostVisit}
variable {hosts : List HostVisit} {sessionId : SessionId}

/-- The host that is visited ends the pass. -/
theorem calls_of_endsPass (hends : host.EndsPass m_hostId m_hostInfoManager) :
    (heartbeatPass m_hostId m_hostInfoManager (some heartBeatSender) (host :: hosts)).calls = [] := by
  obtain ⟨⟨hnamed, htime⟩, hsession⟩ := hends
  unfold heartbeatPass
  rw [if_neg (not_or.mpr hnamed), if_pos htime]
  simp only [hsession]

/-- The loop goes on to the next host without a call. -/
theorem calls_of_not_due (hdue : ¬ host.Due m_hostId) :
    (heartbeatPass m_hostId m_hostInfoManager (some heartBeatSender) (host :: hosts)).calls =
      (heartbeatPass m_hostId m_hostInfoManager (some heartBeatSender) hosts).calls := by
  rw [heartbeatPass]
  by_cases hskip : host.nodeId = "" ∨ m_hostId = host.nodeId
  · rw [if_pos hskip]
  · rw [if_neg hskip, if_neg fun htime => hdue ⟨not_or.mp hskip, htime⟩]

/-- The sender is called with what is left of the session id. -/
theorem calls_of_due (heartBeatSender : HeartbeatSender) (hosts : List HostVisit)
    (hdue : host.Due m_hostId) {current : SessionId}
    (hsession : m_hostInfoManager.getSessionId host.nodeId = some current) :
    ∃ ret, (heartbeatPass m_hostId m_hostInfoManager (some heartBeatSender) (host :: hosts)).calls =
      ⟨host.endPointInfo, throughInt current, PacketEncodeHelper.encodeHeartBeat .PT_HeartBeat, ret⟩ ::
        (heartbeatPass m_hostId m_hostInfoManager (some heartBeatSender) hosts).calls := by
  rw [heartbeatPass, if_neg (not_or.mpr hdue.1), if_pos hdue.2]
  simp only [hsession]
  exact ⟨_, rfl⟩

/-- The first host does not concern the others, unless it ends the pass. -/
theorem called_cons_other (hends : ¬ host.EndsPass m_hostId m_hostInfoManager) {other : HostVisit}
    (hother : host.endPointInfo ≠ other.endPointInfo) :
    (heartbeatPass m_hostId m_hostInfoManager (some heartBeatSender) (host :: hosts)).Called other
        sessionId ↔
      (heartbeatPass m_hostId m_hostInfoManager (some heartBeatSender) hosts).Called other sessionId := by
  unfold HeartbeatPass.Called
  by_cases hdue : host.Due m_hostId
  · obtain ⟨current, hsession⟩ := Option.ne_none_iff_exists'.mp fun hnone => hends ⟨hdue, hnone⟩
    obtain ⟨ret, hcalls⟩ := calls_of_due heartBeatSender hosts hdue hsession
    rw [hcalls]
    refine exists_congr fun ret' => ?_
    rw [List.mem_cons, HeartbeatCall.mk.injEq, or_iff_right fun heq => hother heq.1.symm]
  · rw [calls_of_not_due hdue]

/-- Only hosts that are in the copy are called. -/
theorem mem_of_called {other : HostVisit}
    (hcalled : (heartbeatPass m_hostId m_hostInfoManager (some heartBeatSender) hosts).Called other
      sessionId) : other.endPointInfo ∈ hosts.map HostVisit.endPointInfo := by
  induction hosts with
  | nil =>
    obtain ⟨ret, hmem⟩ := hcalled
    cases hmem
  | cons host hosts ih =>
    rw [List.map_cons, List.mem_cons]
    by_cases hhost : host.endPointInfo = other.endPointInfo
    · exact .inl hhost.symm
    · by_cases hends : host.EndsPass m_hostId m_hostInfoManager
      · obtain ⟨ret, hmem⟩ := hcalled
        rw [calls_of_endsPass hends] at hmem
        cases hmem
      · exact .inr (ih ((called_cons_other hends hhost).mp hcalled))

/-- The turn of a host whose entry does not come again. -/
theorem called_cons_self (hnew : host.endPointInfo ∉ hosts.map HostVisit.endPointInfo) :
    (heartbeatPass m_hostId m_hostInfoManager (some heartBeatSender) (host :: hosts)).Called host
        sessionId ↔
      host.Due m_hostId ∧
        (m_hostInfoManager.getSessionId host.nodeId).map throughInt = some sessionId := by
  by_cases hdue : host.Due m_hostId
  · cases hsession : m_hostInfoManager.getSessionId host.nodeId with
    | none =>
      unfold HeartbeatPass.Called
      rw [calls_of_endsPass ⟨hdue, hsession⟩]
      exact iff_of_false (fun hcalled => by cases hcalled.choose_spec) (fun hturn => by cases hturn.2)
    | some current =>
      obtain ⟨ret, hcalls⟩ := calls_of_due heartBeatSender hosts hdue hsession
      rw [Option.map_some, Option.some.injEq]
      constructor
      · rintro ⟨ret', hmem⟩
        rw [hcalls, List.mem_cons, HeartbeatCall.mk.injEq] at hmem
        rcases hmem with heq | hrest
        · exact ⟨hdue, heq.2.1.symm⟩
        · exact absurd (mem_of_called ⟨ret', hrest⟩) hnew
      · rintro ⟨-, rfl⟩
        refine ⟨ret, ?_⟩
        rw [hcalls]
        exact List.mem_cons_self
  · refine iff_of_false (fun hcalled => ?_) (fun hturn => hdue hturn.1)
    have hrest : (heartbeatPass m_hostId m_hostInfoManager (some heartBeatSender) hosts).Called host
        sessionId := by
      unfold HeartbeatPass.Called at hcalled ⊢
      rwa [calls_of_not_due hdue] at hcalled
    exact hnew (mem_of_called hrest)

/-- **When the sender is called for a host**: no host before it ends the pass, and its own turn passes the
tests and finds a session. -/
theorem called_iff {before after : List HostVisit}
    (hnodup : ((before ++ host :: after).map HostVisit.endPointInfo).Nodup) :
    (heartbeatPass m_hostId m_hostInfoManager (some heartBeatSender)
        (before ++ host :: after)).Called host sessionId ↔
      (∀ other ∈ before, ¬ other.EndsPass m_hostId m_hostInfoManager) ∧ host.Due m_hostId ∧
        (m_hostInfoManager.getSessionId host.nodeId).map throughInt = some sessionId := by
  induction before with
  | nil =>
    rw [List.nil_append, List.map_cons, List.nodup_cons] at hnodup
    rw [List.nil_append, called_cons_self hnodup.1]
    exact (and_iff_right fun other hother => by cases hother).symm
  | cons first before ih =>
    rw [List.cons_append, List.map_cons, List.nodup_cons] at hnodup
    have hother : first.endPointInfo ≠ host.endPointInfo := by
      intro heq
      apply hnodup.1
      rw [heq]
      exact List.mem_map_of_mem (List.mem_append_right before List.mem_cons_self)
    rw [List.cons_append]
    by_cases hends : first.EndsPass m_hostId m_hostInfoManager
    · unfold HeartbeatPass.Called
      rw [calls_of_endsPass hends]
      exact iff_of_false (fun hcalled => by cases hcalled.choose_spec)
        (fun hturn => hturn.1 first List.mem_cons_self hends)
    · rw [called_cons_other hends hother, ih hnodup.2, List.forall_mem_cons, and_iff_right hends]

/-- **Heartbeats do not starve.**  In one pass over a copy of `m_hosts`, in any order, with any readings of the
clock and any results of the sender, the sender is called for every host to which a heartbeat is owed **if and
only if** each of them passes the unsigned test of the time, has a session id that fits the `int`, and is not
behind a host that passes the tests and has no session. -/
theorem heartbeats_iff (m_hostId : NodeId) (m_hostInfoManager : HostsInfoManager)
    (heartBeatSender : HeartbeatSender) (hosts : List HostVisit) (hcopy : Copies m_hostInfoManager hosts) :
    (∀ host ∈ hosts, ∀ sessionId, host.Owed m_hostId m_hostInfoManager sessionId →
      (heartbeatPass m_hostId m_hostInfoManager (some heartBeatSender) hosts).Called host sessionId) ↔
    (∀ before host after, hosts = before ++ host :: after → ∀ sessionId,
      host.Owed m_hostId m_hostInfoManager sessionId →
        host.curTimestamp - host.timestamp ≥ c_heartbeatInterval ∧ throughInt sessionId = sessionId ∧
          ∀ other ∈ before, ¬ other.EndsPass m_hostId m_hostInfoManager) := by
  constructor
  · intro hall before host after hhosts sessionId howed
    have hnodup := hcopy.nodup
    have hcalled := hall host (hhosts ▸ List.mem_append_right before List.mem_cons_self) sessionId howed
    rw [hhosts] at hnodup hcalled
    obtain ⟨hbefore, hdue, hsession⟩ := (called_iff hnodup).mp hcalled
    rw [howed.session, Option.map_some, Option.some.injEq] at hsession
    exact ⟨hdue.2, hsession, hbefore⟩
  · intro hall host hhost sessionId howed
    obtain ⟨before, after, hhosts⟩ := List.append_of_mem hhost
    obtain ⟨htime, hfits, hbefore⟩ := hall before host after hhosts sessionId howed
    have hnodup := hcopy.nodup
    rw [hhosts] at hnodup ⊢
    refine (called_iff hnodup).mpr ⟨hbefore, ⟨⟨howed.connected, howed.other⟩, htime⟩, ?_⟩
    rw [howed.session, Option.map_some, hfits]

end Pass

def endPointB : HostEndPointInfo := ⟨"10.0.0.2", 9000⟩

def endPointC : HostEndPointInfo := ⟨"10.0.0.3", 9000⟩

/-- Nodes `B` and `C` have answered and `C` has its session, `B` not yet. -/
def halfConnected : HostsInfoManager :=
  (((HostsInfoManager.init [endPointB, endPointC]).setHostId endPointC "C").2.addHostIdInfo "C" 1).2.setHostId
    endPointB "B" |>.2

/-- An entry of the copy that has never been stamped. -/
def visitOf (endPointInfo : HostEndPointInfo) (nodeId : NodeId) : HostVisit where
  endPointInfo := endPointInfo
  nodeId := nodeId
  timestamp := -1
  curTimestamp := 1700000000000

theorem copies_halfConnected : Copies halfConnected [visitOf endPointB "B", visitOf endPointC "C"] := by
  have htable : halfConnected.m_hosts = Function.update (Function.update
      (HostsInfoManager.init [endPointB, endPointC]).m_hosts endPointC (some ("C", -1)))
        endPointB (some ("B", -1)) := rfl
  have hne : endPointB ≠ endPointC := by decide
  refine ⟨by decide, fun endPointInfo entry => ?_⟩
  rw [htable]
  simp only [List.mem_cons, List.not_mem_nil, or_false, exists_eq_or_imp, exists_eq_left]
  by_cases hB : endPointInfo = endPointB
  · rw [hB, Function.update_self, Option.some.injEq]
    exact ⟨fun heq => .inl ⟨rfl, heq⟩,
      fun hvisit => hvisit.elim And.right fun h => absurd h.1.symm hne⟩
  · rw [Function.update_of_ne hB]
    by_cases hC : endPointInfo = endPointC
    · rw [hC, Function.update_self, Option.some.injEq]
      exact ⟨fun heq => .inr ⟨rfl, heq⟩,
        fun hvisit => hvisit.elim (fun h => absurd h.1 hne) And.right⟩
    · have hnone : (HostsInfoManager.init [endPointB, endPointC]).m_hosts endPointInfo = none :=
        if_neg (by simp [hB, hC])
      rw [Function.update_of_ne hC, hnone]
      exact iff_of_false nofun fun hvisit => hvisit.elim (fun h => hB h.1.symm) fun h => hC h.1.symm

theorem heartbeats_iff_halfConnected :
    (∀ host ∈ [visitOf endPointB "B", visitOf endPointC "C"], ∀ sessionId,
      host.Owed "A" halfConnected sessionId →
        (heartbeatPass "A" halfConnected (some fun _ _ => 0)
          [visitOf endPointB "B", visitOf endPointC "C"]).Called host sessionId) ↔
    (∀ before host after, [visitOf endPointB "B", visitOf endPointC "C"] = before ++ host :: after →
      ∀ sessionId, host.Owed "A" halfConnected sessionId →
        host.curTimestamp - host.timestamp ≥ c_heartbeatInterval ∧ throughInt sessionId = sessionId ∧
          ∀ other ∈ before, ¬ other.EndsPass "A" halfConnected) :=
  heartbeats_iff "A" halfConnected (fun _ _ => 0) _ copies_halfConnected

/-- The sender is not called for `C`, which has a session, because `B`, which is visited first, has none. -/
theorem heartbeats_starve :
    Copies halfConnected [visitOf endPointB "B", visitOf endPointC "C"] ∧
      (visitOf endPointC "C").Owed "A" halfConnected 1 ∧
      (heartbeatPass "A" halfConnected (some fun _ _ => 0)
        [visitOf endPointB "B", visitOf endPointC "C"]).calls = [] := by
  refine ⟨copies_halfConnected, ⟨by decide, by decide, by decide, .inl rfl⟩, by decide⟩

end DistributedNetwork.Session
