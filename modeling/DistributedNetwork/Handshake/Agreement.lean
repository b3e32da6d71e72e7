import DistributedNetwork.Handshake.Refinement

/-!
# Agreement of the handshake

* `Related.settled` — in a quiescent state both connections are settled;
* `agreement_of_established` — what an established connection without a rival says about the nodes is
  `Agreement`;
* `handshake_agreement` — in a quiescent state the nodes agree **if and only if** no reply was ignored
  on the way.

The reply `0` that the node with the larger id receives while it has an entry for the sender is dropped:
the entry names the connection that the sender takes down, and the surviving connection is recorded
nowhere.
-/

namespace DistributedNetwork.Handshake

open DistributedNetwork.Library
open DistributedNetwork.Session (NodeId SessionId HostEndPointInfo HostsInfoManager)

variable {c : Cluster} {s : Network} {phases : Phases} {near far : Side → SessionId}

/-! ### Runs -/

theorem related_start (c : Cluster) :
    Related c (.start c) (fun _ => .unopened) (fun _ => 0) (fun _ => 0) := by
  constructor
  · intro x
    refine ⟨rfl, ?_, rfl, .nil⟩
    exact if_pos (c.listed x)
  · exact fun x hopen => absurd rfl hopen
  · exact fun x hopen => absurd rfl hopen
  · exact fun x sessionId hsome => absurd rfl hsome
  · exact fun x hopen => absurd rfl hopen
  · exact fun x hopen => absurd rfl hopen
  · exact fun x hopen => absurd rfl hopen
  · exact fun _ _ _ => rfl

/-- The next phase of a connection, as a step of the protocol. -/
theorem protocol_step {smaller : Side → Bool} {x : Side} {p : Phase}
    (hphases : (protocol smaller).Reachable phases)
    (hnext : Phase.next (smaller x) (phases x.other) (phases x) = some p) :
    (protocol smaller).Reachable (Function.update phases x p) :=
  hphases.step (a := x) trivial (by
    change Option.map _ _ = _
    rw [hnext]
    rfl)

/-- **Run lemma.**  As long as no reply is ignored, no connection is in the phase of one that was. -/
theorem phases_of_unignored (h : (handshake c).Reaches (Unignored c) s) :
    ∃ phases near far, Related c s phases near far ∧ (protocol c.smaller).Reachable phases ∧
      ∀ x, phases x ≠ .ignored := by
  induction h with
  | init hinit =>
    cases hinit
    exact ⟨_, _, _, related_start c, .init fun _ => rfl, nofun⟩
  | @step s s' event _ hun hstep ih =>
    obtain ⟨phases, near, far, hrelated, hphases, hignored⟩ := ih
    obtain ⟨x, p, near', far', hnext, hrelated', hp⟩ := simulates hrelated hstep
    refine ⟨_, near', far', hrelated', protocol_step hphases hnext, ?_⟩
    intro y
    by_cases hy : y = x
    · subst hy
      rw [Function.update_self]
      exact fun hi => hp.mp hi hun
    · rw [Function.update_of_ne hy]
      exact hignored y

/-- **Run lemma.**  A run in which some reply was ignored leaves a connection in that phase for good. -/
theorem phases_of_reachable (h : (handshake c).Reachable s) :
    ∃ phases near far, Related c s phases near far ∧ (protocol c.smaller).Reachable phases ∧
      ((∃ x, phases x = .ignored) ∨ (handshake c).Reaches (Unignored c) s) := by
  induction h with
  | init hinit =>
    cases hinit
    exact ⟨_, _, _, related_start c, .init fun _ => rfl, .inr (.init rfl)⟩
  | @step s s' event _ _ hstep ih =>
    obtain ⟨phases, near, far, hrelated, hphases, hrun⟩ := ih
    obtain ⟨x, p, near', far', hnext, hrelated', hp⟩ := simulates hrelated hstep
    refine ⟨_, near', far', hrelated', protocol_step hphases hnext, ?_⟩
    rcases hrun with ⟨y, hy⟩ | hrun
    · have hne : y ≠ x := by
        rintro rfl
        rw [hy] at hnext
        cases hnext
      exact .inl ⟨y, by rw [Function.update_of_ne hne]; exact hy⟩
    · by_cases hun : Unignored c s event
      · exact .inr (hrun.step hun hstep)
      · exact .inl ⟨x, by rw [Function.update_self]; exact hp.mpr hun⟩

/-! ### Quiescent states -/

theorem Related.settled (h : Related c s phases near far) (hquiescent : Quiescent s) (x : Side) :
    (phases x).settled = true := by
  have hreceived := hquiescent.received
  have hmine := (h.tables x).requests
  have htheirs := (h.acceptor x).requests
  rw [hquiescent.requests] at hmine htheirs
  cases hphase : phases x with
  | unopened | established | ignored | gone => rfl
  | greeting | closing =>
    have hfar := h.farSession x (by rw [hphase]; nofun)
    rw [hphase] at hfar
    cases hreceived _ _ _ hfar
  | accepted | refused =>
    have hnear := h.nearSession x (by rw [hphase]; nofun)
    rw [hphase] at hnear
    cases hreceived _ _ _ hnear
  | ending refusal =>
    rw [hphase] at hmine
    cases hmine.symm.eq_nil
  | noticed refusal =>
    rw [hphase] at htheirs
    cases (List.append_eq_nil_iff.mp htheirs.symm.eq_nil).2

theorem Related.opened (h : Related c s phases near far) (hopened : ∃ x, (s x).m_sessionId ≠ 1) :
    ∃ x, phases x ≠ .unopened := by
  obtain ⟨x, hx⟩ := hopened
  by_contra hnone
  have hall : ∀ y, phases y = .unopened := by simpa using hnone
  exact hx (h.unmade x (hall x) (hall x.other))

/-- **An established connection without a rival** is what the nodes should agree on. -/
theorem agreement_of_established (h : Related c s phases near far) {x : Side}
    (hphase : phases x = .established)
    (hrival : phases x.other = .unopened ∨ phases x.other = .gone) : Agreement c s := by
  have hopen : phases x ≠ .unopened := by rw [hphase]; nofun
  have hnear := h.nearSession x hopen
  have hfar := h.farSession x hopen
  have hnode := h.acceptor_node x
  have htables := h.tables x
  rw [hphase] at hnear hfar hnode htables
  rw [if_neg (by rcases hrival with hr | hr <;> rw [hr] <;> nofun)] at hnode
  have hgone : phases x.other ≠ .unopened → phases x.other = .gone := hrival.resolve_left
  refine ⟨x, near x, far x, _, _, hnear, hfar, rfl, rfl, rfl, rfl, ?_, ?_, htables.node, hnode,
    _, htables.host, rfl⟩
  · intro sessionId hsome
    rcases h.only x sessionId hsome with ⟨-, hid⟩ | ⟨hother, rfl⟩
    · exact hid
    · have hnone := h.farSession x.other hother
      rw [hgone hother, Side.other_other] at hnone
      exact absurd hnone hsome
  · intro sessionId hsome
    rcases h.only x.other sessionId hsome with ⟨hother, rfl⟩ | ⟨-, hid⟩
    · have hnone := h.nearSession x.other hother
      rw [hgone hother] at hnone
      exact absurd hnone hsome
    · rwa [Side.other_other] at hid

/-- A node that ignored a reply ends up with no entry for its peer. -/
theorem no_entry_of_ignored (h : Related c s phases near far)
    (hphases : (protocol c.smaller).Reachable phases) (hquiescent : Quiescent s) {x : Side}
    (hphase : phases x = .ignored) :
    (s x).hostsInfoManager.getSessionId (c.nodeId x.other) = none := by
  have hcoherent := fun y => coherent_of_reachable c.smaller_other hphases y
  have hfree : (phases x.other).held = false := by
    rcases Phase.settled_cases (h.settled hquiescent x.other) with hp | hp | hp | hp
    · rw [hp]
      rfl
    · -- it would have had to be refused
      have hheld := (hcoherent x.other).single hp
      rw [Side.other_other, hphase] at hheld
      cases hheld
    · -- not both ids are the larger one
      have hlarger := (hcoherent x).larger hphase
      have hlarger' := (hcoherent x.other).larger hp
      rw [c.smaller_other, hlarger] at hlarger'
      cases hlarger'
    · rw [hp]
      rfl
  have hnode := (h.tables x).node
  rw [if_neg (by rw [hphase]; nofun), hfree] at hnode
  exact hnode

/-! ### Deciding the conditions on a state -/

/-- `Quiescent`, as a test of the sessions that were ever made. -/
def Network.isQuiescent (s : Network) : Bool :=
  [Side.A, Side.B].all fun x => (s x).m_waitingDestroySessionInfos.isEmpty &&
    (List.range (s x).m_sessionId).all fun sessionId =>
      ((s x).sessions sessionId).all fun session => session.received.isEmpty

theorem isQuiescent_iff (h : (handshake c).Reachable s) : s.isQuiescent = true ↔ Quiescent s := by
  obtain ⟨phases, near, far, hrelated, -, -⟩ := phases_of_reachable h
  have hmade : ∀ x sessionId, (s x).sessions sessionId ≠ none → sessionId < (s x).m_sessionId := by
    intro x sessionId hsome
    rcases hrelated.only x sessionId hsome with ⟨hopen, rfl⟩ | ⟨hopen, rfl⟩
    · exact hrelated.nearMade x hopen
    · have hfar := hrelated.farMade x.other hopen
      rwa [Side.other_other] at hfar
  simp only [Network.isQuiescent, List.all_cons, List.all_nil, Bool.and_true, Bool.and_eq_true,
    List.isEmpty_iff, List.all_eq_true, List.mem_range, Option.all_eq_true]
  constructor
  · rintro ⟨⟨hrequests, hreceived⟩, hrequests', hreceived'⟩
    constructor
    · intro x sessionId session hsession
      have hlt := hmade x sessionId (by rw [hsession]; nofun)
      cases x with
      | A => exact hreceived sessionId hlt session hsession
      | B => exact hreceived' sessionId hlt session hsession
    · intro x
      cases x with
      | A => exact hrequests
      | B => exact hrequests'
  · intro hquiescent
    exact ⟨⟨hquiescent.requests _, fun _ _ => hquiescent.received _ _⟩,
      hquiescent.requests _, fun _ _ => hquiescent.received _ _⟩

/-- `Unignored`, for the packet that is taken. -/
def Packet.Unignored (localNodeId : NodeId) (m : HostsInfoManager) : Packet → Prop
  | .clientInfoReply _ nodeId result =>
    result = 0 → m.getSessionId nodeId ≠ none → localNodeId < nodeId
  | _ => True

instance (localNodeId : NodeId) (m : HostsInfoManager) (packet : Packet) :
    Decidable (packet.Unignored localNodeId m) :=
  match packet with
  | .clientInfoReply _ _ _ => inferInstanceAs (Decidable (_ → _ → _))
  | .clientInfo _ _ | .closed => .isTrue trivial

theorem unignored_deliver_iff {x : Side} {sessionId : SessionId} :
    (∀ session ∈ (s x).sessions sessionId, ∀ packet ∈ session.received.head?,
      session.m_isWaitingDisconnect = false →
        packet.Unignored (c.nodeId x) (s x).hostsInfoManager) ↔
      Unignored c s (.deliver x sessionId) := by
  constructor
  · intro h session peerHost nodeId rest hsession hreceived hwaiting
    have hhead : session.received.head? = some (.clientInfoReply peerHost nodeId 0) := by
      rw [hreceived]
      rfl
    exact h session hsession _ hhead hwaiting rfl
  · intro h session hsession packet hpacket hwaiting
    obtain ⟨rest, hreceived⟩ := List.head?_eq_some_iff.mp hpacket
    cases packet with
    | clientInfoReply peerHost nodeId result =>
      rintro rfl
      exact h session peerHost nodeId rest hsession hreceived hwaiting
    | _ => trivial

instance (c : Cluster) (s : Network) (event : HandshakeEvent) : Decidable (Unignored c s event) :=
  match event with
  | .connect _ | .destroy _ => .isTrue trivial
  | .deliver _ _ => decidable_of_iff _ unignored_deliver_iff

/-! ### Agreement -/

/-- **Handshake agreement.**  In a quiescent state in which a connection was opened, the two nodes agree
if and only if no reply was ignored on the way. -/
theorem handshake_agreement (h : (handshake c).Reachable s) (hquiescent : Quiescent s)
    (hopened : ∃ x, (s x).m_sessionId ≠ 1) :
    Agreement c s ↔ (handshake c).Reaches (Unignored c) s := by
  constructor
  · intro hagreement
    obtain ⟨phases, near, far, hrelated, hphases, ⟨y, hy⟩ | hrun⟩ := phases_of_reachable h
    · have hnone := no_entry_of_ignored hrelated hphases hquiescent hy
      obtain ⟨x, _, _, _, _, -, -, -, -, -, -, -, -, hmine, htheirs, -⟩ := hagreement
      rcases Side.eq_or_eq_other x y with rfl | rfl
      · rw [hmine] at hnone
        cases hnone
      · rw [Side.other_other, htheirs] at hnone
        cases hnone
    · exact hrun
  · intro hrun
    obtain ⟨phases, near, far, hrelated, hphases, hignored⟩ := phases_of_unignored hrun
    obtain ⟨x, hx, hrival⟩ := survivor_of_settled (coherent_of_reachable c.smaller_other hphases)
      (hrelated.settled hquiescent) (hrelated.opened hopened) hignored
    exact agreement_of_established hrelated hx hrival

/-- Two nodes whose ids are ordered as their sides are. -/
def pair : Cluster where
  nodeId
    | .A => "a"
    | .B => "b"
  endPoint
    | .A => ⟨"10.0.0.1", 9000⟩
    | .B => ⟨"10.0.0.2", 9000⟩
  nodes
    | .A => [⟨"10.0.0.2", 9000⟩]
    | .B => [⟨"10.0.0.1", 9000⟩]
  nodeId_ne := by decide
  nodeId_nonempty x := by cases x <;> decide
  ip_nonempty x := by cases x <;> decide
  listed x := by cases x <;> decide

/-- Both connect at once; `B` hears of the end of `A`'s connection before the reply to its own. -/
theorem handshake_agreement_pair : ∃ s, (handshake pair).Reachable s ∧ Quiescent s ∧
    Agreement pair s := by
  have hgood : ((handshake pair).guardedRun (Unignored pair) (.start pair) [.connect .A,
      .connect .B, .deliver .B 1, .deliver .A 2, .deliver .A 1, .destroy .A, .deliver .B 1,
      .destroy .B, .deliver .B 2]).map (fun s => (s.isQuiescent, (s .A).m_sessionId)) =
      some (true, 3) := by
    decide
  obtain ⟨s, hrun, hs⟩ := Option.map_eq_some_iff.mp hgood
  simp only [Prod.mk.injEq] at hs
  have hreaches : (handshake pair).Reaches (Unignored pair) s := .of_guardedRun (.init rfl) hrun
  have hquiescent := (isQuiescent_iff hreaches.reachable).mp hs.1
  exact ⟨s, hreaches.reachable, hquiescent, (handshake_agreement hreaches.reachable hquiescent
    ⟨.A, by rw [hs.2]; decide⟩).mpr hreaches⟩

/-- **Agreement fails.**  Both connect at once, and `B` gets the reply to its own connection while its
entry for `A` is `A`'s connection.  The reply is dropped, `A` closes its connection, and `B` is left
without an entry while its own connection is live. -/
theorem handshake_disagreement : ∃ s, (handshake pair).run (.start pair) [.connect .A, .connect .B,
      .deliver .B 1, .deliver .A 2, .deliver .B 2, .deliver .A 1, .destroy .A, .deliver .B 1,
      .destroy .B] = some s ∧
    (handshake pair).Reachable s ∧ Quiescent s ∧ (s .A).m_sessionId ≠ 1 ∧
    (s .B).hostsInfoManager.getSessionId "a" = none ∧ ((s .B).sessions 2).isSome = true ∧
    ¬Agreement pair s := by
  have hbad : ((handshake pair).run (.start pair) [.connect .A, .connect .B,
      .deliver .B 1, .deliver .A 2, .deliver .B 2, .deliver .A 1, .destroy .A, .deliver .B 1,
      .destroy .B]).map (fun s => (s.isQuiescent, (s .A).m_sessionId,
        (s .B).hostsInfoManager.getSessionId "a", ((s .B).sessions 2).isSome)) =
      some (true, 3, none, true) := by
    decide
  obtain ⟨s, hrun, hs⟩ := Option.map_eq_some_iff.mp hbad
  simp only [Prod.mk.injEq] at hs
  obtain ⟨hquiet, hmade, hentry, hlive⟩ := hs
  have hreachable : (handshake pair).Reachable s := .of_run (.init rfl) hrun
  refine ⟨s, hrun, hreachable, (isQuiescent_iff hreachable).mp hquiet, by rw [hmade]; decide,
    hentry, hlive, ?_⟩
  rintro ⟨x, _, _, _, _, -, -, -, -, -, -, -, -, hmine, htheirs, -⟩
  cases x with
  | A =>
    change (s .B).hostsInfoManager.getSessionId "a" = _ at htheirs
    rw [hentry] at htheirs
    cases htheirs
  | B =>
    change (s .B).hostsInfoManager.getSessionId "a" = _ at hmine
    rw [hentry] at hmine
    cases hmine

end DistributedNetwork.Handshake
