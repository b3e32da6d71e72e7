import DistributedNetwork.Handshake.Nodes

/-!
# The nodes refine the protocol of phases

`Related` spells out what the phases of the two connections say about the nodes: the sessions and what
waits for them, the tables, the connector's pending hosts and the queued requests.  Every step of the
nodes is one step of one connection (`simulates`), so whatever the protocol cannot do the nodes cannot
do either.
-/

namespace DistributedNetwork.Handshake

open DistributedNetwork.Library
open DistributedNetwork.Session (NodeId SessionId HostEndPointInfo HostsInfoManager
  SessionDestoryInfo disconnectClient disconnectClient_eq_self_iff disconnectClient_nodeIdInfos
  disconnectClient_hosts NothingToDisconnect RemovesNode)

namespace Cluster

variable (c : Cluster)

/-- The node has the smaller id of the two. -/
def smaller (x : Side) : Bool := decide (c.nodeId x < c.nodeId x.other)

theorem nodeId_other_ne (x : Side) : c.nodeId x.other ≠ c.nodeId x := by
  cases x with
  | A => exact c.nodeId_ne.symm
  | B => exact c.nodeId_ne

theorem smaller_other (x : Side) : c.smaller x.other = !c.smaller x := by
  unfold smaller
  rw [Side.other_other]
  rcases lt_or_gt_of_ne (c.nodeId_other_ne x) with hlt | hgt
  · rw [decide_eq_true hlt, decide_eq_false (lt_asymm hlt)]
    rfl
  · rw [decide_eq_true hgt, decide_eq_false (lt_asymm hgt)]
    rfl

end Cluster

/-! ### What a phase says -/

/-- The flag of the opener's request to destroy a connection that was refused. -/
def Refusal.flag : Refusal → ℤ
  | serial => -3
  | parallel => -4

/-- The phase in which the opener learns of it. -/
def Refusal.learned : Refusal → Phase
  | serial => .refused
  | parallel => .accepted

namespace Phase

/-- The connector still counts the connection as pending. -/
def pending : Phase → Bool
  | unopened | established => false
  | _ => true

/-- The opener's queued requests. -/
def nearRequests (near : SessionId) : Phase → List SessionDestoryInfo
  | ending refusal => [⟨near, refusal.flag, false⟩]
  | _ => []

/-- The peer's queued requests. -/
def farRequests (far : SessionId) : Phase → List SessionDestoryInfo
  | noticed _ => [⟨far, 0, false⟩]
  | _ => []

end Phase

section Ends

variable (c : Cluster) (x : Side)

/-- The opener's session, for a connection opened by `x`. -/
def nearEnd (far : SessionId) : Phase → Option P2PSession
  | .greeting => some ⟨"", c.endPoint x.other, false, true, far, []⟩
  | .accepted => some ⟨"", c.endPoint x.other, false, true, far,
      [.clientInfoReply (c.endPoint x.other) (c.nodeId x.other) 0]⟩
  | .refused => some ⟨"", c.endPoint x.other, false, true, far,
      [.clientInfoReply (c.endPoint x.other) (c.nodeId x.other) (-3)]⟩
  | .established | .ignored | .ending _ =>
    some ⟨c.nodeId x.other, c.endPoint x.other, false, true, far, []⟩
  | .unopened | .closing _ | .noticed _ | .gone => none

/-- The accepted session, for a connection opened by `x`. -/
def farEnd (near : SessionId) : Phase → Option P2PSession
  | .greeting => some ⟨"", ⟨"", 0⟩, false, false, near,
      [.clientInfo (c.endPoint x.other) (c.nodeId x)]⟩
  | .accepted | .refused | .established | .ignored | .ending _ =>
    some ⟨c.nodeId x, ⟨"", 0⟩, false, false, near, []⟩
  | .closing _ => some ⟨c.nodeId x, ⟨"", 0⟩, false, false, near, [.closed]⟩
  | .noticed _ => some ⟨c.nodeId x, ⟨"", 0⟩, true, false, near, []⟩
  | .unopened | .gone => none

/-- The tables of node `x`: `own` is the phase of the connection it opens, with session `near` here,
`rival` the phase of the other one, with session `far` here. -/
structure TablesMatch (n : Node) (own rival : Phase) (near far : SessionId) : Prop where
  node : n.hostsInfoManager.m_nodeIdInfos (c.nodeId x.other) =
    if own = .established then some near else if rival.held = true then some far else none
  host : n.hostsInfoManager.m_hosts (c.endPoint x.other) =
    some (if own = .established then c.nodeId x.other else "", -1)
  connecting : n.m_connectingHosts (c.endPoint x.other) = own.pending
  requests : n.m_waitingDestroySessionInfos.Perm (own.nearRequests near ++ rival.farRequests far)

end Ends

/-- The nodes are in the given phases.  The connection opened by `x` is session `near x` on `x` and
session `far x` on the other node. -/
structure Related (c : Cluster) (s : Network) (phases : Phases) (near far : Side → SessionId) :
    Prop where
  tables : ∀ x, TablesMatch c x (s x) (phases x) (phases x.other) (near x) (far x.other)
  nearSession : ∀ x, phases x ≠ .unopened →
    (s x).sessions (near x) = nearEnd c x (far x) (phases x)
  farSession : ∀ x, phases x ≠ .unopened →
    (s x.other).sessions (far x) = farEnd c x (near x) (phases x)
  only : ∀ x sessionId, (s x).sessions sessionId ≠ none →
    phases x ≠ .unopened ∧ sessionId = near x ∨
      phases x.other ≠ .unopened ∧ sessionId = far x.other
  distinct : ∀ x, phases x ≠ .unopened → phases x.other ≠ .unopened → near x ≠ far x.other
  nearMade : ∀ x, phases x ≠ .unopened → near x < (s x).m_sessionId
  farMade : ∀ x, phases x ≠ .unopened → far x < (s x.other).m_sessionId
  unmade : ∀ x, phases x = .unopened → phases x.other = .unopened → (s x).m_sessionId = 1

namespace Related

variable {c : Cluster} {s s' : Network} {phases : Phases} {near far : Side → SessionId}

/-- **One connection advances.**  Only its two sessions change, and what the tables say follows its
phase. -/
theorem advance (h : Related c s phases near far) {x : Side} {p : Phase} {n₁ n₂ : Node}
    (hopen : phases x ≠ .unopened) (hp : p ≠ .unopened) (hself : s' x = n₁)
    (hother : s' x.other = n₂)
    (hnear : n₁.sessions = Function.update (s x).sessions (near x) (nearEnd c x (far x) p))
    (hfar : n₂.sessions = Function.update (s x.other).sessions (far x) (farEnd c x (near x) p))
    (hcount₁ : n₁.m_sessionId = (s x).m_sessionId)
    (hcount₂ : n₂.m_sessionId = (s x.other).m_sessionId)
    (hown : TablesMatch c x n₁ p (phases x.other) (near x) (far x.other))
    (hrival : TablesMatch c x.other n₂ (phases x.other) p (near x.other) (far x)) :
    Related c s' (Function.update phases x p) near far := by
  subst hself hother
  have hcount : ∀ y, (s' y).m_sessionId = (s y).m_sessionId := by
    intro y
    rcases Side.eq_or_eq_other x y with rfl | rfl
    · exact hcount₁
    · exact hcount₂
  have hopened : ∀ y, Function.update phases x p y ≠ .unopened ↔ phases y ≠ .unopened := by
    intro y
    by_cases hy : y = x
    · subst hy
      simp [hopen, hp]
    · rw [Function.update_of_ne hy]
  constructor
  case tables =>
    intro y
    rcases Side.eq_or_eq_other x y with rfl | rfl
    · simpa [Side.other_ne] using hown
    · simpa [Side.other_ne] using hrival
  case nearSession =>
    intro y hy
    rcases Side.eq_or_eq_other x y with rfl | rfl
    · rw [hnear, Function.update_self, Function.update_self]
    · have hne := h.distinct x.other ((hopened _).mp hy) (by simpa using hopen)
      rw [Side.other_other] at hne
      rw [hfar, Function.update_of_ne hne, Function.update_of_ne x.other_ne]
      exact h.nearSession x.other ((hopened _).mp hy)
  case farSession =>
    intro y hy
    rcases Side.eq_or_eq_other x y with rfl | rfl
    · rw [hfar, Function.update_self, Function.update_self]
    · have hne := h.distinct x hopen ((hopened _).mp hy)
      have hold := h.farSession x.other ((hopened _).mp hy)
      rw [Side.other_other] at hold ⊢
      rw [hnear, Function.update_of_ne hne.symm, Function.update_of_ne x.other_ne]
      exact hold
  case only =>
    intro y sessionId hy
    rw [hopened, hopened]
    rcases Side.eq_or_eq_other x y with rfl | rfl
    · by_cases hid : sessionId = near y
      · exact .inl ⟨hopen, hid⟩
      · rw [hnear, Function.update_of_ne hid] at hy
        exact h.only y sessionId hy
    · by_cases hid : sessionId = far x
      · exact .inr ⟨by simpa using hopen, by simpa using hid⟩
      · rw [hfar, Function.update_of_ne hid] at hy
        exact h.only x.other sessionId hy
  case distinct =>
    intro y
    rw [hopened, hopened]
    exact h.distinct y
  case nearMade =>
    intro y
    rw [hopened, hcount]
    exact h.nearMade y
  case farMade =>
    intro y
    rw [hopened, hcount]
    exact h.farMade y
  case unmade =>
    intro y hy hy'
    rcases Side.eq_or_eq_other x y with rfl | rfl
    · rw [Function.update_self] at hy
      exact absurd hy hp
    · rw [Side.other_other, Function.update_self] at hy'
      exact absurd hy' hp

/-- The tables of the node that accepts, in terms of the opener `x`. -/
theorem acceptor (h : Related c s phases near far) (x : Side) :
    TablesMatch c x.other (s x.other) (phases x.other) (phases x) (near x.other) (far x) := by
  have htables := h.tables x.other
  rwa [Side.other_other] at htables

theorem acceptor_node (h : Related c s phases near far) (x : Side) :
    (s x.other).hostsInfoManager.m_nodeIdInfos (c.nodeId x) =
      if phases x.other = .established then some (near x.other)
      else if (phases x).held = true then some (far x) else none := by
  have hnode := (h.acceptor x).node
  rwa [Side.other_other] at hnode

end Related

namespace TablesMatch

variable {c : Cluster} {x : Side} {n n' : Node} {own own' rival rival' : Phase}
  {mine theirs : SessionId}

/-- Tables that are left alone still match when the phases go on to ones that say the same. -/
theorem congr (h : TablesMatch c x n own rival mine theirs)
    (hhosts : n'.hostsInfoManager = n.hostsInfoManager)
    (hconnecting : n'.m_connectingHosts = n.m_connectingHosts)
    (hestablished : own' = .established ↔ own = .established) (hheld : rival'.held = rival.held)
    (hpending : own'.pending = own.pending)
    (hrequests : n'.m_waitingDestroySessionInfos.Perm
      (own'.nearRequests mine ++ rival'.farRequests theirs)) :
    TablesMatch c x n' own' rival' mine theirs := by
  constructor
  · rw [hhosts, h.node, hheld]
    simp only [hestablished]
  · rw [hhosts, h.host]
    simp only [hestablished]
  · rw [hconnecting, hpending]
    exact h.connecting
  · exact hrequests

end TablesMatch

/-! ### The steps -/

section Steps

variable {c : Cluster} {s s' : Network} {phases : Phases} {near far : Side → SessionId}

/-- Sending from a session that is not waiting to be disconnected. -/
theorem sendData_eq {x : Side} {sessionId : SessionId} {session peer : P2PSession} {packet : Packet}
    (hsession : (s x).sessions sessionId = some session)
    (hwaiting : session.m_isWaitingDisconnect = false)
    (hpeer : (s x.other).sessions session.peer = some peer) :
    (s.sendData x sessionId packet).2 = Function.update s x.other
      ((s x.other).setSession session.peer { peer with received := peer.received ++ [packet] }) := by
  unfold Network.sendData
  rw [hsession]
  simp only [hwaiting, Bool.false_eq_true, if_false, Node.receive, hpeer]

/-- A connector pass that opens a connection finds the side's own connection unopened. -/
theorem unopened_of_mayConnect (h : Related c s phases near far) {x : Side}
    (hmay : (s x).mayConnect (c.endPoint x.other) = true) : phases x = .unopened := by
  have htables := h.tables x
  unfold Node.mayConnect at hmay
  rw [htables.host, htables.connecting] at hmay
  by_contra hopen
  by_cases hest : phases x = .established
  · simp [hest, c.nodeId_nonempty] at hmay
  · have hpending : (phases x).pending = true := by
      cases hp : phases x <;> first | rfl | exact absurd hp hopen | exact absurd hp hest
    simp [hpending] at hmay

/-- What opening a connection leaves on the two nodes. -/
theorem connect_eq (x : Side) :
    s.connect c x x = ((s x).setConnecting (c.endPoint x.other)).addSession
      ⟨"", c.endPoint x.other, false, true, (s x.other).m_sessionId, []⟩ ∧
    s.connect c x x.other = (s x.other).addSession ⟨"", ⟨"", 0⟩, false, false, (s x).m_sessionId,
      [.clientInfo (c.endPoint x.other) (c.nodeId x)]⟩ := by
  have hne : x ≠ x.other := x.other_ne.symm
  unfold Network.connect
  rw [sendData_eq (by rw [Function.update_of_ne hne, Function.update_self]; exact Function.update_self ..)
    rfl (by rw [Function.update_self]; exact Function.update_self ..)]
  constructor
  · rw [Function.update_of_ne hne, Function.update_of_ne hne, Function.update_self]
  · rw [Function.update_self, Function.update_self]
    simp [Node.addSession, Node.setSession]

theorem connect_related (h : Related c s phases near far) {x : Side}
    (hphase : phases x = .unopened) :
    Related c (s.connect c x) (Function.update phases x .greeting)
      (Function.update near x (s x).m_sessionId) (Function.update far x (s x.other).m_sessionId) := by
  obtain ⟨hnear, hfar⟩ := connect_eq (c := c) (s := s) x
  have hother : ∀ y, Function.update phases x .greeting y = .unopened → y = x.other := by
    intro y hy
    rcases Side.eq_or_eq_other x y with rfl | rfl
    · rw [Function.update_self] at hy
      cases hy
    · rfl
  have hmine := h.tables x
  have htheirs := h.tables x.other
  rw [hphase] at hmine
  rw [Side.other_other, hphase] at htheirs
  constructor
  case tables =>
    intro y
    rcases Side.eq_or_eq_other x y with rfl | rfl
    · rw [hnear, Function.update_self, Function.update_self, Function.update_of_ne y.other_ne,
        Function.update_of_ne y.other_ne]
      exact ⟨hmine.node, hmine.host, Function.update_self .., hmine.requests⟩
    · rw [hfar, Side.other_other, Function.update_self, Function.update_self,
        Function.update_of_ne x.other_ne, Function.update_of_ne x.other_ne]
      exact ⟨htheirs.node, htheirs.host, htheirs.connecting, htheirs.requests⟩
  case nearSession =>
    intro y hy
    rcases Side.eq_or_eq_other x y with rfl | rfl
    · rw [hnear]
      simp [Node.addSession, Node.setConnecting, nearEnd]
    · rw [Function.update_of_ne x.other_ne] at hy ⊢
      rw [Function.update_of_ne x.other_ne, Function.update_of_ne x.other_ne, hfar]
      have hne : near x.other ≠ (s x.other).m_sessionId := Nat.ne_of_lt (h.nearMade x.other hy)
      simpa [Node.addSession, hne] using h.nearSession x.other hy
  case farSession =>
    intro y hy
    rcases Side.eq_or_eq_other x y with rfl | rfl
    · rw [hfar]
      simp [Node.addSession, farEnd]
    · rw [Function.update_of_ne x.other_ne] at hy ⊢
      rw [Function.update_of_ne x.other_ne, Function.update_of_ne x.other_ne, Side.other_other, hnear]
      have hmade := h.farMade x.other hy
      have hold := h.farSession x.other hy
      rw [Side.other_other] at hmade hold
      have hne : far x.other ≠ (s x).m_sessionId := Nat.ne_of_lt hmade
      simpa [Node.addSession, Node.setConnecting, hne] using hold
  case only =>
    intro y sessionId hy
    rcases Side.eq_or_eq_other x y with rfl | rfl
    · by_cases hid : sessionId = (s y).m_sessionId
      · exact .inl ⟨by simp, by simpa using hid⟩
      · rw [hnear] at hy
        have hold := h.only y sessionId (by simpa [Node.addSession, Node.setConnecting, hid] using hy)
        simpa [hphase, hid, Side.other_ne] using hold
    · by_cases hid : sessionId = (s x.other).m_sessionId
      · exact .inr ⟨by simp, by simpa using hid⟩
      · rw [hfar] at hy
        have hold := h.only x.other sessionId (by simpa [Node.addSession, hid] using hy)
        simpa [hphase, hid, Side.other_ne] using hold
  case distinct =>
    intro y hy hy'
    rcases Side.eq_or_eq_other x y with rfl | rfl
    · rw [Function.update_of_ne y.other_ne] at hy'
      have hmade := h.farMade y.other hy'
      rw [Side.other_other] at hmade
      rw [Function.update_self, Function.update_of_ne y.other_ne]
      exact (Nat.ne_of_lt hmade).symm
    · rw [Function.update_of_ne x.other_ne] at hy
      rw [Side.other_other, Function.update_self, Function.update_of_ne x.other_ne]
      exact Nat.ne_of_lt (h.nearMade x.other hy)
  case nearMade =>
    intro y hy
    rcases Side.eq_or_eq_other x y with rfl | rfl
    · rw [hnear, Function.update_self]
      exact Nat.lt_succ_self _
    · rw [Function.update_of_ne x.other_ne] at hy
      rw [hfar, Function.update_of_ne x.other_ne]
      exact Nat.lt_succ_of_lt (h.nearMade x.other hy)
  case farMade =>
    intro y hy
    rcases Side.eq_or_eq_other x y with rfl | rfl
    · rw [hfar, Function.update_self]
      exact Nat.lt_succ_self _
    · rw [Function.update_of_ne x.other_ne] at hy
      have hmade := h.farMade x.other hy
      rw [Side.other_other] at hmade
      rw [Side.other_other, hnear, Function.update_of_ne x.other_ne]
      exact Nat.lt_succ_of_lt hmade
  case unmade =>
    intro y hy hy'
    have he := hother y hy
    have he' := hother y.other hy'
    rw [he] at he'
    exact absurd he' (Side.other_ne x.other)

/-! ### `ClientInfo` -/

/-- What the delivery of a `ClientInfo` leaves on the two nodes. -/
theorem greet_eq {x : Side} {mine theirs : SessionId} {opener : P2PSession}
    {peerHost endPointInfo : HostEndPointInfo}
    (hopener : (s x).sessions mine = some opener)
    (hacceptor : (s x.other).sessions theirs =
      some ⟨"", endPointInfo, false, false, mine, [.clientInfo peerHost (c.nodeId x)]⟩) :
    let reply := (s x.other).replyTo (c.nodeId x.other) (c.nodeId x) theirs
    ∃ s', s.deliver c x.other theirs = some s' ∧
      s' x.other = { (s x.other).setSession theirs
        ⟨c.nodeId x, endPointInfo, false, false, mine, []⟩ with hostsInfoManager := reply.2 } ∧
      s' x = (s x).setSession mine { opener with
        received := opener.received ++ [.clientInfoReply peerHost (c.nodeId x.other) reply.1] } := by
  have hne : x ≠ x.other := x.other_ne.symm
  intro reply
  let acceptor : P2PSession := ⟨"", endPointInfo, false, false, mine, []⟩
  let s₁ : Network := Function.update s x.other ((s x.other).setSession theirs acceptor)
  have hs₁ : s₁ x.other = (s x.other).setSession theirs acceptor := Function.update_self ..
  have hs₁' : s₁ x = s x := Function.update_of_ne hne ..
  refine ⟨s₁.onClientInfo c x.other theirs acceptor peerHost (c.nodeId x), ?_, ?_⟩
  · unfold Network.deliver
    rw [hacceptor]
    rfl
  · unfold Network.onClientInfo
    rw [sendData_eq (by rw [Function.update_self]; exact Function.update_self ..) rfl (by
      rw [Side.other_other, Function.update_of_ne hne, hs₁']; exact hopener)]
    rw [Side.other_other, hs₁]
    constructor
    · rw [Function.update_of_ne hne.symm, Function.update_self]
      simp [Node.setSession, Node.replyTo, acceptor, reply]
    · rw [Function.update_self, Function.update_of_ne hne, hs₁']
      rfl

theorem greet_related (h : Related c s phases near far) {x : Side}
    (hphase : phases x = .greeting) : ∃ s', s.deliver c x.other (far x) = some s' ∧
      Related c s' (Function.update phases x
        (if phases x.other = .established then .refused else .accepted)) near far := by
  have hopen : phases x ≠ .unopened := by rw [hphase]; nofun
  have hopener := h.nearSession x hopen
  have hacceptor := h.farSession x hopen
  have hnode := h.acceptor_node x
  have hmine := h.tables x
  have htheirs := h.acceptor x
  rw [hphase] at hopener hacceptor hnode hmine htheirs
  obtain ⟨s', hdeliver, hother, hself⟩ := greet_eq (c := c) hopener hacceptor
  refine ⟨s', hdeliver, ?_⟩
  have hne : c.nodeId x ≠ c.nodeId x.other := (c.nodeId_other_ne x).symm
  by_cases hest : phases x.other = .established
  · rw [if_pos hest]
    rw [if_pos hest] at hnode
    have hreply : (s x.other).replyTo (c.nodeId x.other) (c.nodeId x) (far x) =
        (-3, (s x.other).hostsInfoManager) := by
      simp [Node.replyTo, hne, HostsInfoManager.addHostIdInfo, hnode]
    rw [hreply] at hother hself
    refine h.advance hopen (by nofun) hself hother rfl rfl rfl rfl ?_ ?_
    · exact hmine.congr rfl rfl (by simp) rfl rfl hmine.requests
    · exact htheirs.congr rfl rfl Iff.rfl rfl rfl htheirs.requests
  · rw [if_neg hest]
    rw [if_neg hest] at hnode
    have hreply : (s x.other).replyTo (c.nodeId x.other) (c.nodeId x) (far x) =
        (0, ⟨(s x.other).hostsInfoManager.m_hosts, Function.update
          (s x.other).hostsInfoManager.m_nodeIdInfos (c.nodeId x) (some (far x))⟩) := by
      simp [Node.replyTo, hne, HostsInfoManager.addHostIdInfo, hnode, Phase.held]
    rw [hreply] at hother hself
    refine h.advance hopen (by nofun) hself hother rfl rfl rfl rfl ?_ ?_
    · exact hmine.congr rfl rfl (by simp) rfl rfl hmine.requests
    · refine ⟨?_, htheirs.host, htheirs.connecting, htheirs.requests⟩
      rw [if_neg hest, Side.other_other]
      exact Function.update_self ..

/-! ### `ClientInfoReply` -/

section Reply

variable {x : Side} {mine theirs : SessionId} {endPointInfo peerHost : HostEndPointInfo}
  {nodeId : NodeId} {result : ℤ}

/-- A refusal asks for the end of the connection. -/
theorem reply_refused
    (hopener : (s x).sessions mine =
      some ⟨"", endPointInfo, false, true, theirs, [.clientInfoReply peerHost nodeId result]⟩)
    (hresult : result ≠ 0) (hresult' : result ≠ -4) :
    s.deliver c x mine = some (Function.update s x
      (((s x).setSession mine ⟨nodeId, endPointInfo, false, true, theirs, []⟩).addDestroy
        ⟨mine, result, false⟩)) := by
  unfold Network.deliver
  rw [hopener]
  simp [Network.onClientInfoReply, hresult, hresult', Node.setSession]

/-- A reply `0` that finds an entry for its sender. -/
theorem reply_tied {entry : SessionId}
    (hopener : (s x).sessions mine =
      some ⟨"", endPointInfo, false, true, theirs, [.clientInfoReply peerHost nodeId 0]⟩)
    (hentry : (s x).hostsInfoManager.m_nodeIdInfos nodeId = some entry) :
    s.deliver c x mine = some (Function.update s x
      (let n := (s x).setSession mine ⟨nodeId, endPointInfo, false, true, theirs, []⟩
      if c.nodeId x < nodeId then n.addDestroy ⟨mine, -4, false⟩ else n)) := by
  unfold Network.deliver
  rw [hopener]
  by_cases hlt : c.nodeId x < nodeId
  · simp [Network.onClientInfoReply, Node.setSession, HostsInfoManager.getSessionId, hentry, hlt]
  · simp [Network.onClientInfoReply, Node.setSession, HostsInfoManager.getSessionId, hentry, hlt]

/-- A reply `0` that finds none. -/
theorem reply_recorded
    (hopener : (s x).sessions mine =
      some ⟨"", endPointInfo, false, true, theirs, [.clientInfoReply peerHost nodeId 0]⟩)
    (hentry : (s x).hostsInfoManager.m_nodeIdInfos nodeId = none) :
    s.deliver c x mine = some (Function.update s x
      (((s x).setSession mine ⟨nodeId, endPointInfo, false, true, theirs, []⟩).recordHost
        endPointInfo nodeId mine)) := by
  unfold Network.deliver
  rw [hopener]
  simp [Network.onClientInfoReply, Node.setSession, HostsInfoManager.getSessionId, hentry]

end Reply

/-- What `recordHost` leaves when the endpoint is configured and pending, and nobody is recorded. -/
theorem recordHost_eq {n : Node} {endPointInfo : HostEndPointInfo} {nodeId : NodeId}
    {sessionId : SessionId} {host : NodeId × UInt64}
    (hhost : n.hostsInfoManager.m_hosts endPointInfo = some host)
    (hpending : n.m_connectingHosts endPointInfo = true)
    (hentry : n.hostsInfoManager.m_nodeIdInfos nodeId = none) :
    n.recordHost endPointInfo nodeId sessionId =
      { n with
        hostsInfoManager := ⟨Function.update n.hostsInfoManager.m_hosts endPointInfo
            (some (nodeId, host.2)),
          Function.update n.hostsInfoManager.m_nodeIdInfos nodeId (some sessionId)⟩
        m_connectingHosts := Function.update n.m_connectingHosts endPointInfo false } := by
  simp [Node.recordHost, HostsInfoManager.setHostId, hhost, Node.setHostConnected, hpending,
    HostsInfoManager.addHostIdInfo, hentry]

/-- The opener learns of the refusal, and asks for the end of the connection. -/
theorem ending_related (h : Related c s phases near far) {x : Side} {refusal : Refusal}
    (hphase : phases x = refusal.learned) :
    Related c (Function.update s x (((s x).setSession (near x)
        ⟨c.nodeId x.other, c.endPoint x.other, false, true, far x, []⟩).addDestroy
          ⟨near x, refusal.flag, false⟩))
      (Function.update phases x (.ending refusal)) near far := by
  have hopen : phases x ≠ .unopened := by
    rw [hphase]
    cases refusal <;> nofun
  have hfar := h.farSession x hopen
  have hmine := h.tables x
  have htheirs := h.acceptor x
  rw [hphase] at hfar hmine htheirs
  refine h.advance hopen (by nofun) (Function.update_self ..)
    (Function.update_of_ne x.other_ne ..) rfl ?_ rfl rfl ?_ ?_
  · symm
    rw [Function.update_eq_self_iff, hfar]
    cases refusal <;> rfl
  · have hperm : (s x).m_waitingDestroySessionInfos.Perm
        ((phases x.other).farRequests (far x.other)) := by
      cases refusal <;> exact hmine.requests
    refine hmine.congr rfl rfl ?_ rfl ?_ ?_
    · cases refusal <;> simp [Refusal.learned]
    · cases refusal <;> rfl
    · exact (hperm.append_right _).trans List.perm_append_comm
  · refine htheirs.congr rfl rfl Iff.rfl ?_ rfl ?_
    · cases refusal <;> rfl
    · cases refusal <;> exact htheirs.requests

theorem refused_related (h : Related c s phases near far) {x : Side} (hphase : phases x = .refused) :
    ∃ s', s.deliver c x (near x) = some s' ∧
      Related c s' (Function.update phases x (.ending .serial)) near far := by
  have hopener := h.nearSession x (by rw [hphase]; nofun)
  rw [hphase] at hopener
  have hlearned : phases x = Refusal.serial.learned := hphase
  exact ⟨_, reply_refused hopener (by decide) (by decide), ending_related h hlearned⟩

/-- A reply `0` finds the peer's connection: the smaller id takes its own down, the larger one does
nothing. -/
theorem tied_related (h : Related c s phases near far) {x : Side} (hphase : phases x = .accepted)
    (hheld : (phases x.other).held = true) :
    ∃ s', s.deliver c x (near x) = some s' ∧ Related c s' (Function.update phases x
      (if c.smaller x = true then .ending .parallel else .ignored)) near far := by
  have hopen : phases x ≠ .unopened := by rw [hphase]; nofun
  have hopener := h.nearSession x hopen
  have hfar := h.farSession x hopen
  have hmine := h.tables x
  have htheirs := h.acceptor x
  rw [hphase] at hopener hfar hmine htheirs
  have hentry := hmine.node
  rw [if_neg (by nofun), if_pos hheld] at hentry
  refine ⟨_, reply_tied hopener hentry, ?_⟩
  by_cases hlt : c.nodeId x < c.nodeId x.other
  · simp only [hlt, if_true, Cluster.smaller, decide_true]
    have hlearned : phases x = Refusal.parallel.learned := hphase
    exact ending_related h hlearned
  · simp only [hlt, if_false, Cluster.smaller, decide_false, Bool.false_eq_true]
    refine h.advance hopen (by nofun) (Function.update_self ..)
      (Function.update_of_ne x.other_ne ..) rfl ?_ rfl rfl ?_ ?_
    · symm
      rw [Function.update_eq_self_iff, hfar]
      rfl
    · exact hmine.congr rfl rfl (by simp) rfl rfl hmine.requests
    · exact htheirs.congr rfl rfl Iff.rfl rfl rfl htheirs.requests

/-- A reply `0` finds nothing: the connection is recorded. -/
theorem established_related (h : Related c s phases near far) {x : Side}
    (hphase : phases x = .accepted) (hfree : (phases x.other).held = false) :
    ∃ s', s.deliver c x (near x) = some s' ∧
      Related c s' (Function.update phases x .established) near far := by
  have hopen : phases x ≠ .unopened := by rw [hphase]; nofun
  have hopener := h.nearSession x hopen
  have hfar := h.farSession x hopen
  have hmine := h.tables x
  have htheirs := h.acceptor x
  rw [hphase] at hopener hfar hmine htheirs
  have hentry := hmine.node
  rw [if_neg (by nofun), hfree] at hentry
  let n := (s x).setSession (near x)
    ⟨c.nodeId x.other, c.endPoint x.other, false, true, far x, []⟩
  refine ⟨_, reply_recorded hopener hentry, ?_⟩
  rw [recordHost_eq (n := n) hmine.host hmine.connecting hentry]
  refine h.advance hopen (by nofun) (Function.update_self ..)
    (Function.update_of_ne x.other_ne ..) rfl ?_ rfl rfl ?_ ?_
  · symm
    rw [Function.update_eq_self_iff, hfar]
    rfl
  · refine ⟨?_, ?_, Function.update_self .., hmine.requests⟩
    · simp
    · simp
  · exact htheirs.congr rfl rfl Iff.rfl rfl rfl htheirs.requests

/-! ### The end of a connection -/

theorem destroy_eq {x : Side} {destoryInfo : SessionDestoryInfo} {rest : List SessionDestoryInfo}
    {session : P2PSession} (hqueue : (s x).m_waitingDestroySessionInfos = destoryInfo :: rest)
    (hsession : (s x).sessions destoryInfo.sessionId = some session) :
    ∃ s', s.destroy c x = some s' ∧
      s' x = { s x with
        m_waitingDestroySessionInfos := rest
        hostsInfoManager := disconnectClient (c.nodeId x) (s x).hostsInfoManager
          session.m_peerHostEndPointInfo session.m_nodeId destoryInfo.flag destoryInfo.sessionId
        sessions := Function.update (s x).sessions destoryInfo.sessionId none } ∧
      s' x.other = (s x.other).receive session.peer .closed := by
  unfold Network.destroy
  rw [hqueue]
  dsimp only
  rw [hsession, Option.map_some]
  refine ⟨_, rfl, ?_, Function.update_self ..⟩
  rw [Function.update_of_ne x.other_ne.symm, Function.update_self]

/-- The opener closes a refused connection; its tables hold nothing of it. -/
theorem closing_related (h : Related c s phases near far) {x : Side} {refusal : Refusal}
    (hphase : phases x = .ending refusal) {rest : List SessionDestoryInfo}
    (hqueue : (s x).m_waitingDestroySessionInfos = ⟨near x, refusal.flag, false⟩ :: rest) :
    ∃ s', s.destroy c x = some s' ∧
      Related c s' (Function.update phases x (.closing refusal)) near far := by
  have hopen : phases x ≠ .unopened := by rw [hphase]; nofun
  have hopener := h.nearSession x hopen
  have hfar := h.farSession x hopen
  have hmine := h.tables x
  have htheirs := h.acceptor x
  rw [hphase] at hopener hfar hmine htheirs
  obtain ⟨s', hdestroy, hself, hother⟩ := destroy_eq (c := c) hqueue hopener
  refine ⟨s', hdestroy, ?_⟩
  have htables : NothingToDisconnect (c.nodeId x) (s x).hostsInfoManager (c.endPoint x.other)
      (c.nodeId x.other) refusal.flag (near x) := by
    constructor
    · intro _ hentry
      rw [hmine.node, if_neg (by nofun)] at hentry
      split at hentry
      · next hheld =>
        have hrival : phases x.other ≠ .unopened := by
          intro hr
          rw [hr] at hheld
          cases hheld
        exact h.distinct x hopen hrival (Option.some.inj hentry).symm
      · cases hentry
    · intro hclears
      cases refusal <;> exact absurd hclears.1 (by decide)
  rw [disconnectClient_eq_self_iff.mpr htables] at hself
  unfold Node.receive at hother
  rw [hfar] at hother
  refine h.advance hopen (by nofun) hself hother rfl rfl rfl rfl ?_ ?_
  · refine hmine.congr rfl rfl (by simp) rfl rfl ?_
    have hperm := hmine.requests
    rw [hqueue] at hperm
    exact hperm.cons_inv
  · exact htheirs.congr rfl rfl Iff.rfl (by cases refusal <;> rfl) rfl htheirs.requests

/-- The end of the stream reaches the other node. -/
theorem noticed_related (h : Related c s phases near far) {x : Side} {refusal : Refusal}
    (hphase : phases x = .closing refusal) : ∃ s', s.deliver c x.other (far x) = some s' ∧
      Related c s' (Function.update phases x (.noticed refusal)) near far := by
  have hopen : phases x ≠ .unopened := by rw [hphase]; nofun
  have hopener := h.nearSession x hopen
  have hfar := h.farSession x hopen
  have hmine := h.tables x
  have htheirs := h.acceptor x
  rw [hphase] at hopener hfar hmine htheirs
  refine ⟨_, by unfold Network.deliver; rw [hfar]; rfl, ?_⟩
  refine h.advance hopen (by nofun) (Function.update_of_ne x.other_ne.symm ..)
    (Function.update_self ..) ?_ rfl rfl rfl ?_ ?_
  · symm
    rw [Function.update_eq_self_iff, hopener]
    rfl
  · exact hmine.congr rfl rfl (by simp) rfl rfl hmine.requests
  · refine htheirs.congr rfl rfl Iff.rfl (by cases refusal <;> rfl) rfl ?_
    simpa [Phase.farRequests, Node.addDestroy, Node.setSession] using
      htheirs.requests.append_right [⟨far x, 0, false⟩]

/-- The other node takes the connection out of its tables. -/
theorem gone_related (h : Related c s phases near far) {x : Side} {refusal : Refusal}
    (hphase : phases x = .noticed refusal) {rest : List SessionDestoryInfo}
    (hqueue : (s x.other).m_waitingDestroySessionInfos = ⟨far x, 0, false⟩ :: rest) :
    ∃ s', s.destroy c x.other = some s' ∧ Related c s' (Function.update phases x .gone) near far := by
  have hopen : phases x ≠ .unopened := by rw [hphase]; nofun
  have hopener := h.nearSession x hopen
  have hfar := h.farSession x hopen
  have hnode := h.acceptor_node x
  have hmine := h.tables x
  have htheirs := h.acceptor x
  rw [hphase] at hopener hfar hnode hmine htheirs
  obtain ⟨s', hdestroy, hself, hother⟩ := destroy_eq (c := c) hqueue hfar
  refine ⟨s', hdestroy, ?_⟩
  -- the opener's end is closed already, so nobody hears of this
  have hunheard : s' x = s x := by
    rw [Side.other_other] at hother
    unfold Node.receive at hother
    rw [hopener] at hother
    exact hother
  refine h.advance hopen (by nofun) hunheard hself ?_ rfl rfl rfl ?_ ?_
  · symm
    rw [Function.update_eq_self_iff, hopener]
    rfl
  · exact hmine.congr rfl rfl (by simp) rfl rfl hmine.requests
  · have hendPoint : c.endPoint x.other.other ≠ ⟨"", 0⟩ := fun he =>
      c.ip_nonempty x.other.other (congrArg HostEndPointInfo.m_ip he)
    refine ⟨?_, ?_, htheirs.connecting, ?_⟩
    · rw [disconnectClient_nodeIdInfos, Side.other_other]
      by_cases hest : phases x.other = .established
      · have hne := h.distinct x.other (by rw [hest]; nofun) (by rwa [Side.other_other])
        rw [Side.other_other] at hne
        rw [if_pos hest] at hnode ⊢
        rw [if_neg (by rw [hnode]; simp [hne]), hnode]
      · rw [if_neg hest] at hnode ⊢
        split
        · exact Function.update_self ..
        · next hkept =>
          have hremoves : RemovesNode (c.nodeId x.other) (c.nodeId x) 0 :=
            .inl ⟨.inl rfl, (c.nodeId_other_ne x).symm⟩
          split at hnode
          · exact absurd ⟨hremoves, hnode⟩ hkept
          · exact hnode
    · rw [disconnectClient_hosts]
      split
      · rw [Function.update_of_ne hendPoint]
        exact htheirs.host
      · exact htheirs.host
    · have hperm := htheirs.requests
      rw [hqueue] at hperm
      simpa [Phase.farRequests] using (hperm.trans List.perm_append_comm).cons_inv

/-! ### Every step is the next phase of one connection -/

/-- One connection goes on to its next phase; its reply is ignored exactly when the event does not meet
the run condition. -/
def Advances (c : Cluster) (s : Network) (event : HandshakeEvent) (s' : Network) (phases : Phases) :
    Prop :=
  ∃ x p near far, Phase.next (c.smaller x) (phases x.other) (phases x) = some p ∧
    Related c s' (Function.update phases x p) near far ∧ (p = .ignored ↔ ¬Unignored c s event)

theorem connect_advances (h : Related c s phases near far) {x : Side}
    (hmay : (s x).mayConnect (c.endPoint x.other) = true) :
    Advances c s (.connect x) (s.connect c x) phases := by
  have hphase := unopened_of_mayConnect h hmay
  refine ⟨x, .greeting, _, _, by rw [hphase]; rfl, connect_related h hphase, ?_⟩
  exact ⟨nofun, fun hun => absurd trivial hun⟩

/-- What can be delivered: a reply to the side that opened the connection, a `ClientInfo` or the end of
the stream to the other one. -/
theorem delivered_cases (h : Related c s phases near far) {x : Side} {sessionId : SessionId}
    (hdeliver : s.deliver c x sessionId = some s') :
    sessionId = near x ∧ (phases x = .refused ∨ phases x = .accepted) ∨
      sessionId = far x.other ∧
        (phases x.other = .greeting ∨ ∃ refusal, phases x.other = .closing refusal) := by
  unfold Network.deliver at hdeliver
  cases hsession : (s x).sessions sessionId with
  | none =>
    rw [hsession] at hdeliver
    cases hdeliver
  | some session =>
    rw [hsession] at hdeliver
    rcases h.only x sessionId (by rw [hsession]; nofun) with ⟨hopen, rfl⟩ | ⟨hopen, rfl⟩
    · refine .inl ⟨rfl, ?_⟩
      rw [h.nearSession x hopen] at hsession
      cases hphase : phases x <;> rw [hphase] at hsession <;> cases hsession <;>
        first | cases hdeliver; done | simp
    · refine .inr ⟨rfl, ?_⟩
      have hfar := h.farSession x.other hopen
      rw [Side.other_other] at hfar
      rw [hfar] at hsession
      cases hphase : phases x.other <;> rw [hphase] at hsession <;> cases hsession <;>
        first | cases hdeliver; done | simp

/-- The run condition on a delivery, when the session and what waits for it are known. -/
theorem unignored_of_received {x : Side} {sessionId : SessionId} {session : P2PSession}
    {packet : Packet} {rest : List Packet} (hsession : (s x).sessions sessionId = some session)
    (hreceived : session.received = packet :: rest)
    (hpacket : ∀ peerHost nodeId, packet = .clientInfoReply peerHost nodeId 0 →
      (s x).hostsInfoManager.m_nodeIdInfos nodeId ≠ none → c.nodeId x < nodeId) :
    Unignored c s (.deliver x sessionId) := by
  intro session' peerHost nodeId rest' hsession' hreceived' _ hentry
  rw [hsession] at hsession'
  cases hsession'
  rw [hreceived] at hreceived'
  cases hreceived'
  exact hpacket peerHost nodeId rfl hentry

theorem reply_advances (h : Related c s phases near far) {x : Side}
    (hphase : phases x = .refused ∨ phases x = .accepted) :
    ∃ s', s.deliver c x (near x) = some s' ∧ Advances c s (.deliver x (near x)) s' phases := by
  rcases hphase with hphase | hphase
  · obtain ⟨s', hdeliver, hrelated⟩ := refused_related h hphase
    refine ⟨s', hdeliver, x, _, near, far, by rw [hphase]; rfl, hrelated, nofun, ?_⟩
    have hopener := h.nearSession x (by rw [hphase]; nofun)
    rw [hphase] at hopener
    refine fun hun => absurd (unignored_of_received hopener rfl ?_) hun
    intro _ _ hpacket
    simp at hpacket
  · have hopener := h.nearSession x (by rw [hphase]; nofun)
    have hentry := (h.tables x).node
    rw [hphase] at hopener
    rw [if_neg (by rw [hphase]; nofun)] at hentry
    by_cases hheld : (phases x.other).held = true
    · obtain ⟨s', hdeliver, hrelated⟩ := tied_related h hphase hheld
      refine ⟨s', hdeliver, x, _, near, far, ?_, hrelated, ?_⟩
      · rw [hphase]
        simp only [Phase.next, hheld, if_true]
      · rw [if_pos hheld] at hentry
        by_cases hlt : c.nodeId x < c.nodeId x.other
        · have hun : Unignored c s (.deliver x (near x)) := by
            refine unignored_of_received hopener rfl fun _ nodeId hpacket _ => ?_
            cases hpacket
            exact hlt
          simp [Cluster.smaller, hlt, hun]
        · have hun : ¬Unignored c s (.deliver x (near x)) := fun hun =>
            hlt (hun _ _ _ _ hopener rfl rfl (by
              unfold HostsInfoManager.getSessionId
              rw [hentry]
              nofun))
          simp [Cluster.smaller, hlt, hun]
    · have hfree : (phases x.other).held = false := by simpa using hheld
      obtain ⟨s', hdeliver, hrelated⟩ := established_related h hphase hfree
      refine ⟨s', hdeliver, x, _, near, far, ?_, hrelated, nofun, ?_⟩
      · rw [hphase]
        simp only [Phase.next, hheld]
        rfl
      · rw [if_neg hheld] at hentry
        refine fun hun => absurd (unignored_of_received hopener rfl ?_) hun
        intro _ nodeId hpacket hsome
        cases hpacket
        exact absurd hentry hsome

theorem accepted_advances (h : Related c s phases near far) {x : Side}
    (hphase : phases x = .greeting ∨ ∃ refusal, phases x = .closing refusal) :
    ∃ s', s.deliver c x.other (far x) = some s' ∧
      Advances c s (.deliver x.other (far x)) s' phases := by
  rcases hphase with hphase | ⟨refusal, hphase⟩
  · obtain ⟨s', hdeliver, hrelated⟩ := greet_related h hphase
    refine ⟨s', hdeliver, x, _, near, far, by rw [hphase]; rfl, hrelated, ?_, ?_⟩
    · split <;> nofun
    · have hfar := h.farSession x (by rw [hphase]; nofun)
      rw [hphase] at hfar
      exact fun hun => absurd (unignored_of_received hfar rfl nofun) hun
  · obtain ⟨s', hdeliver, hrelated⟩ := noticed_related h hphase
    refine ⟨s', hdeliver, x, _, near, far, by rw [hphase]; rfl, hrelated, nofun, ?_⟩
    have hfar := h.farSession x (by rw [hphase]; nofun)
    rw [hphase] at hfar
    exact fun hun => absurd (unignored_of_received hfar rfl nofun) hun

theorem deliver_advances (h : Related c s phases near far) {x : Side} {sessionId : SessionId}
    (hdeliver : s.deliver c x sessionId = some s') :
    Advances c s (.deliver x sessionId) s' phases := by
  rcases delivered_cases h hdeliver with ⟨rfl, hphase⟩ | ⟨rfl, hphase⟩
  · obtain ⟨s₁, hs₁, hadvances⟩ := reply_advances h hphase
    rw [hdeliver] at hs₁
    cases hs₁
    exact hadvances
  · obtain ⟨s₁, hs₁, hadvances⟩ := accepted_advances h hphase
    rw [Side.other_other] at hs₁ hadvances
    rw [hdeliver] at hs₁
    cases hs₁
    exact hadvances

theorem destroy_advances (h : Related c s phases near far) {x : Side}
    (hdestroy : s.destroy c x = some s') : Advances c s (.destroy x) s' phases := by
  cases hqueue : (s x).m_waitingDestroySessionInfos with
  | nil =>
    unfold Network.destroy at hdestroy
    rw [hqueue] at hdestroy
    cases hdestroy
  | cons destoryInfo rest =>
    have hmem : destoryInfo ∈ (phases x).nearRequests (near x) ++
        (phases x.other).farRequests (far x.other) := by
      rw [← (h.tables x).requests.mem_iff, hqueue]
      exact List.mem_cons_self
    have hun : Unignored c s (.destroy x) := trivial
    rcases List.mem_append.mp hmem with hnear | hfar
    · cases hphase : phases x with
      | ending refusal =>
        rw [hphase] at hnear
        obtain rfl := List.mem_singleton.mp hnear
        obtain ⟨s₁, hs₁, hrelated⟩ := closing_related h hphase hqueue
        rw [hdestroy] at hs₁
        cases hs₁
        exact ⟨x, _, near, far, by rw [hphase]; rfl, hrelated, nofun, fun hn => absurd hun hn⟩
      | _ =>
        rw [hphase] at hnear
        cases hnear
    · cases hphase : phases x.other with
      | noticed refusal =>
        rw [hphase] at hfar
        obtain rfl := List.mem_singleton.mp hfar
        have hqueue' : (s x.other.other).m_waitingDestroySessionInfos =
            ⟨far x.other, 0, false⟩ :: rest := by
          rw [Side.other_other]
          exact hqueue
        obtain ⟨s₁, hs₁, hrelated⟩ := gone_related h hphase hqueue'
        rw [Side.other_other, hdestroy] at hs₁
        cases hs₁
        exact ⟨x.other, _, near, far, by rw [hphase]; rfl, hrelated, nofun,
          fun hn => absurd hun hn⟩
      | _ =>
        rw [hphase] at hfar
        cases hfar

/-- **Simulation.**  Every step of the nodes is the next phase of one connection. -/
theorem simulates (h : Related c s phases near far) {event : HandshakeEvent}
    (hstep : (handshake c).step s event = some s') : Advances c s event s' phases := by
  cases event with
  | connect x =>
    change (if _ then _ else _) = _ at hstep
    split at hstep
    · next hmay =>
      cases hstep
      exact connect_advances h hmay
    · cases hstep
  | deliver x sessionId => exact deliver_advances h hstep
  | destroy x => exact destroy_advances h hstep

end Steps

end DistributedNetwork.Handshake
