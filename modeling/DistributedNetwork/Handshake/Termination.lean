import DistributedNetwork.Handshake.Agreement

/-!
# The handshake comes to an end

Every step of the two nodes is the next phase of one connection, so the number of steps can be read off the
phases, and a connection that goes down is longer on its way than one that stays.

* `handshake_enabled` — **no handler fails**: what waits for a session can be handled, assertions included,
  and the destroyer finds the session of every request;
* `handshake_length` — a run has at most nine steps, and it has nine **exactly** when nothing can be done any
  more;
* `handshake_leaves_one` — and then one connection is left, of whatever side: the node that accepted it has it
  in its table, and the node that opened it has it or nothing there.
-/

namespace DistributedNetwork.Handshake

open DistributedNetwork.Library
open DistributedNetwork.Session (NodeId SessionId HostEndPointInfo HostsInfoManager)

/-! ### The length of the way -/

namespace Phase

/-- The steps that a connection has behind it. -/
def rank : Phase → ℕ
  | unopened => 0
  | greeting => 1
  | accepted | refused => 2
  | established | ignored | ending _ => 3
  | closing _ => 4
  | noticed _ => 5
  | gone => 6

variable {smaller : Bool} {own rival own' : Phase}

theorem rank_next (h : next smaller rival own = some own') : own'.rank = own.rank + 1 := by
  cases own with
  | greeting =>
    cases h
    split <;> rfl
  | accepted =>
    simp only [next] at h
    split at h
    · cases h
      split <;> rfl
    · cases h
      rfl
  | unopened | refused | ending _ | closing _ | noticed _ =>
    cases h
    rfl
  | established | ignored | gone => cases h

theorem rank_le (p : Phase) : p.rank ≤ 6 := by
  cases p <;> simp [rank]

theorem rank_le_of_not_losing {p : Phase} (h : p.losing = false) : p.rank ≤ 3 := by
  cases p <;> first | cases h; done | decide

theorem next_eq_none_iff :
    next smaller rival own = none ↔ own = established ∨ own = ignored ∨ own = gone := by
  cases own with
  | accepted =>
    simp only [next]
    split <;> simp
  | _ => simp [next]

theorem eq_gone_of_rank {p : Phase} (h : p.rank = 6) : p = gone := by
  cases p <;> first | rfl | cases h

theorem rank_of_winning {p : Phase} (h : p.winning = true) (hrank : p.rank = 3) :
    p = established ∨ p = ignored := by
  cases p <;> first | cases h; done | cases hrank; done | simp

end Phase

namespace Coherent

variable {smaller : Bool} {own rival : Phase}

/-- A connection that goes down has a rival that stays. -/
theorem rank_add_le (h : Coherent smaller own rival) : own.rank + rival.rank ≤ 9 := by
  cases hown : own.losing with
  | true =>
    have hrival := Phase.rank_le_of_not_losing (Phase.not_losing_of_winning (h.loser hown))
    have := own.rank_le
    omega
  | false =>
    have := Phase.rank_le_of_not_losing hown
    have := rival.rank_le
    omega

/-- The longest way: one connection is gone, and the other one is there to stay. -/
theorem of_rank (h : Coherent smaller own rival) (hlosing : own.losing = true)
    (hrank : own.rank + rival.rank = 9) : own = .gone ∧ (rival = .established ∨ rival = .ignored) := by
  have hwinning := h.loser hlosing
  have hrival := Phase.rank_le_of_not_losing (Phase.not_losing_of_winning hwinning)
  have hown := own.rank_le
  exact ⟨Phase.eq_gone_of_rank (by omega), Phase.rank_of_winning hwinning (by omega)⟩

theorem rank_eq_iff (h : Coherent smaller own rival) (h' : Coherent (!smaller) rival own) :
    own.rank + rival.rank = 9 ↔
      own = .gone ∧ (rival = .established ∨ rival = .ignored) ∨
      rival = .gone ∧ (own = .established ∨ own = .ignored) := by
  constructor
  · intro hrank
    cases hown : own.losing with
    | true => exact .inl (h.of_rank hown hrank)
    | false =>
      have hlosing : rival.losing = true := by
        by_contra hrival
        have := Phase.rank_le_of_not_losing hown
        have := Phase.rank_le_of_not_losing (Bool.eq_false_of_not_eq_true hrival)
        omega
      exact .inr (h'.of_rank hlosing (by omega))
  · intro hcases
    obtain ⟨rfl, rfl | rfl⟩ | ⟨rfl, rfl | rfl⟩ := hcases <;> rfl

/-- **Nothing more happens exactly at the end of the longest way.** -/
theorem rank_eq_iff_stuck (h : Coherent smaller own rival) (h' : Coherent (!smaller) rival own) :
    own.rank + rival.rank = 9 ↔
      Phase.next smaller rival own = none ∧ Phase.next (!smaller) own rival = none := by
  rw [h.rank_eq_iff h', Phase.next_eq_none_iff, Phase.next_eq_none_iff]
  constructor
  · intro hcases
    obtain ⟨hown, hrival⟩ | ⟨hrival, hown⟩ := hcases
    · exact ⟨.inr (.inr hown), hrival.imp_right .inl⟩
    · exact ⟨hown.imp_right .inl, .inr (.inr hrival)⟩
  · intro hstuck
    obtain ⟨hown, hrival⟩ := hstuck
    obtain rfl | rfl | rfl := hown
    · -- no second connection is recorded or ignored beside an established one
      have hfree := h.single rfl
      obtain rfl | rfl | rfl := hrival
      · cases hfree
      · cases hfree
      · exact .inr ⟨rfl, .inl rfl⟩
    · obtain rfl | rfl | rfl := hrival
      · cases h'.single rfl
      · -- not both ids are the larger one
        have hlarger := h.larger rfl
        have hlarger' := h'.larger rfl
        rw [hlarger] at hlarger'
        cases hlarger'
      · exact .inr ⟨rfl, .inr rfl⟩
    · have hwinning := h.loser rfl
      obtain rfl | rfl | rfl := hrival
      · exact .inl ⟨rfl, .inl rfl⟩
      · exact .inl ⟨rfl, .inr rfl⟩
      · cases hwinning

end Coherent

/-! ### What can be done -/

section Nodes

variable {c : Cluster} {s s' : Network} {phases : Phases} {near far : Side → SessionId}
variable {events : List HandshakeEvent}

/-- **What waits for a session can be handled.** -/
theorem Related.deliver_enabled (h : Related c s phases near far) {x : Side} {sessionId : SessionId}
    {session : P2PSession} (hsession : (s x).sessions sessionId = some session)
    (hreceived : session.received ≠ []) : ∃ s', s.deliver c x sessionId = some s' := by
  have hsome : (s x).sessions sessionId ≠ none := by
    rw [hsession]
    exact Option.some_ne_none _
  obtain ⟨hopen, rfl⟩ | ⟨hopen, rfl⟩ := h.only x sessionId hsome
  · rw [h.nearSession x hopen] at hsession
    have hphase : phases x = .refused ∨ phases x = .accepted := by
      cases hphase : phases x <;> rw [hphase] at hsession <;> cases hsession <;>
        first | exact absurd rfl hreceived | simp
    obtain ⟨s', hdeliver, -⟩ := reply_advances h hphase
    exact ⟨s', hdeliver⟩
  · have hfar := h.farSession x.other hopen
    rw [Side.other_other] at hfar
    rw [hfar] at hsession
    have hphase : phases x.other = .greeting ∨ ∃ refusal, phases x.other = .closing refusal := by
      cases hphase : phases x.other <;> rw [hphase] at hsession <;> cases hsession <;>
        first | exact absurd rfl hreceived | simp
    obtain ⟨s', hdeliver, -⟩ := accepted_advances h hphase
    rw [Side.other_other] at hdeliver
    exact ⟨s', hdeliver⟩

/-- **The destroyer finds the session of its next request.** -/
theorem Related.destroy_enabled (h : Related c s phases near far) {x : Side}
    (hrequests : (s x).m_waitingDestroySessionInfos ≠ []) : ∃ s', s.destroy c x = some s' := by
  obtain ⟨destoryInfo, rest, hqueue⟩ := List.exists_cons_of_ne_nil hrequests
  have hmem : destoryInfo ∈ (phases x).nearRequests (near x) ++
      (phases x.other).farRequests (far x.other) := by
    rw [← (h.tables x).requests.mem_iff, hqueue]
    exact List.mem_cons_self
  have hsession : ∃ session, (s x).sessions destoryInfo.sessionId = some session := by
    cases List.mem_append.mp hmem with
    | inl hnear =>
      cases hphase : phases x with
      | ending refusal =>
        rw [hphase] at hnear
        obtain rfl := List.mem_singleton.mp hnear
        have hend := h.nearSession x (by rw [hphase]; nofun)
        rw [hphase] at hend
        exact ⟨_, hend⟩
      | _ =>
        rw [hphase] at hnear
        cases hnear
    | inr hfar =>
      cases hphase : phases x.other with
      | noticed refusal =>
        rw [hphase] at hfar
        obtain rfl := List.mem_singleton.mp hfar
        have hend := h.farSession x.other (by rw [hphase]; nofun)
        rw [Side.other_other, hphase] at hend
        exact ⟨_, hend⟩
      | _ =>
        rw [hphase] at hfar
        cases hfar
  obtain ⟨session, hsession⟩ := hsession
  obtain ⟨s', hdestroy, -⟩ := destroy_eq (c := c) hqueue hsession
  exact ⟨s', hdestroy⟩

/-- A connection that has a next phase gives the nodes something to do. -/
theorem Related.enabled (h : Related c s phases near far) {x : Side}
    (hnext : Phase.next (c.smaller x) (phases x.other) (phases x) ≠ none) :
    ∃ event s', (handshake c).step s event = some s' := by
  cases hphase : phases x with
  | unopened =>
    have hmay : (s x).mayConnect (c.endPoint x.other) = true := by
      unfold Node.mayConnect
      rw [(h.tables x).host, (h.tables x).connecting, hphase]
      rfl
    exact ⟨.connect x, _, if_pos hmay⟩
  | greeting =>
    obtain ⟨s', hdeliver, -⟩ := accepted_advances h (.inl hphase)
    exact ⟨.deliver x.other (far x), s', hdeliver⟩
  | refused =>
    obtain ⟨s', hdeliver, -⟩ := reply_advances h (.inl hphase)
    exact ⟨.deliver x (near x), s', hdeliver⟩
  | accepted =>
    obtain ⟨s', hdeliver, -⟩ := reply_advances h (.inr hphase)
    exact ⟨.deliver x (near x), s', hdeliver⟩
  | closing refusal =>
    obtain ⟨s', hdeliver, -⟩ := accepted_advances h (.inr ⟨refusal, hphase⟩)
    exact ⟨.deliver x.other (far x), s', hdeliver⟩
  | ending refusal =>
    obtain ⟨s', hdestroy⟩ := h.destroy_enabled (x := x) (by
      intro hnil
      have hperm := (h.tables x).requests
      rw [hnil, hphase] at hperm
      cases hperm.symm.eq_nil)
    exact ⟨.destroy x, s', hdestroy⟩
  | noticed refusal =>
    obtain ⟨s', hdestroy⟩ := h.destroy_enabled (x := x.other) (by
      intro hnil
      have hperm := (h.acceptor x).requests
      rw [hnil, hphase] at hperm
      cases (List.append_eq_nil_iff.mp hperm.symm.eq_nil).2)
    exact ⟨.destroy x.other, s', hdestroy⟩
  | established | ignored | gone =>
    rw [hphase] at hnext
    exact absurd rfl hnext

/-- **Run lemma.**  The steps of a run are those that the two connections have behind them. -/
theorem ranks_of_run (hrun : (handshake c).run (.start c) events = some s) :
    ∃ phases near far, Related c s phases near far ∧
      (∀ x, Coherent (c.smaller x) (phases x) (phases x.other)) ∧
      (phases .A).rank + (phases .B).rank = events.length := by
  refine TransitionSystem.run_history
    (P := fun events s => ∃ phases near far, Related c s phases near far ∧
      (∀ x, Coherent (c.smaller x) (phases x) (phases x.other)) ∧
      (phases .A).rank + (phases .B).rank = events.length) ?_ ?_ hrun
  · refine ⟨_, _, _, related_start c, fun x => ?_, rfl⟩
    exact ⟨nofun, nofun, nofun, nofun⟩
  · intro events s event s' h hrun hstep
    obtain ⟨phases, near, far, hrelated, hcoherent, hrank⟩ := h
    obtain ⟨x, p, near', far', hnext, hrelated', -⟩ := simulates hrelated hstep
    have hprotocol : (protocol c.smaller).step phases x = some (Function.update phases x p) := by
      show (Phase.next (c.smaller x) (phases x.other) (phases x)).map _ = _
      rw [hnext]
      rfl
    refine ⟨_, near', far', hrelated', coherent_step c.smaller_other hcoherent hprotocol, ?_⟩
    have hmore := Phase.rank_next hnext
    rw [List.length_append, List.length_singleton, ← hrank]
    cases x with
    | A =>
      rw [Function.update_self, Function.update_of_ne (by decide), hmore]
      omega
    | B =>
      rw [Function.update_self, Function.update_of_ne (by decide), hmore]
      omega

/-- Both connections have come to their end exactly when they have nine steps behind them. -/
theorem ranks_eq_iff (h : ∀ x, Coherent (c.smaller x) (phases x) (phases x.other)) :
    (phases .A).rank + (phases .B).rank = 9 ↔
      ∀ x, Phase.next (c.smaller x) (phases x.other) (phases x) = none := by
  have hB : c.smaller .B = !c.smaller .A := c.smaller_other .A
  have hrival : Coherent (!c.smaller .A) (phases .B) (phases .A) := hB ▸ h .B
  have hown : Coherent (c.smaller .A) (phases .A) (phases .B) := h .A
  rw [hown.rank_eq_iff_stuck hrival]
  constructor
  · intro hstuck x
    cases x with
    | A => exact hstuck.1
    | B =>
      rw [hB]
      exact hstuck.2
  · intro hstuck
    refine ⟨hstuck .A, ?_⟩
    rw [← hB]
    exact hstuck .B

/-- One of the two is gone then, and the other one has stayed. -/
theorem gone_of_ranks (h : ∀ x, Coherent (c.smaller x) (phases x) (phases x.other))
    (hrank : (phases .A).rank + (phases .B).rank = 9) :
    ∃ x, phases x.other = .gone ∧ (phases x = .established ∨ phases x = .ignored) := by
  have hrival : Coherent (!c.smaller .A) (phases .B) (phases .A) := c.smaller_other .A ▸ h .B
  have hown : Coherent (c.smaller .A) (phases .A) (phases .B) := h .A
  obtain hcases | hcases := (hown.rank_eq_iff hrival).mp hrank
  · exact ⟨.B, hcases⟩
  · exact ⟨.A, hcases⟩

theorem Related.stuck_iff (h : Related c s phases near far) :
    (∀ event, (handshake c).step s event = none) ↔
      ∀ x, Phase.next (c.smaller x) (phases x.other) (phases x) = none := by
  constructor
  · intro hstuck x
    by_contra hnext
    obtain ⟨event, s', hstep⟩ := h.enabled hnext
    rw [hstuck event] at hstep
    cases hstep
  · intro hnone event
    by_contra hsome
    obtain ⟨s', hstep⟩ := Option.ne_none_iff_exists'.mp hsome
    obtain ⟨x, p, near', far', hnext, -⟩ := simulates h hstep
    rw [hnone x] at hnext
    cases hnext

theorem length_eq_iff (hrun : (handshake c).run (.start c) events = some s) :
    events.length = 9 ↔ ∀ event, (handshake c).step s event = none := by
  obtain ⟨phases, near, far, hrelated, hcoherent, hrank⟩ := ranks_of_run hrun
  rw [← hrank, ranks_eq_iff hcoherent, hrelated.stuck_iff]

end Nodes

/-! ### Complete runs -/

/-- Both connect at once, and the reply to `A` finds `B`'s connection. -/
def pairRun : List HandshakeEvent :=
  [.connect .A, .connect .B, .deliver .B 1, .deliver .A 2, .deliver .A 1, .destroy .A, .deliver .B 1,
    .destroy .B, .deliver .B 2]

theorem pairRun_eq_some : ∃ s, (handshake pair).run (.start pair) pairRun = some s := by
  have hsome : ((handshake pair).run (.start pair) pairRun).isSome = true := by decide
  exact Option.isSome_iff_exists.mp hsome

/-- **No handler fails.**  In every state that the two nodes reach, the next packet or end of the stream of
every session can be handled, and so can the next request of every destroyer. -/
theorem handshake_enabled {c : Cluster} {s : Network} (hs : (handshake c).Reachable s) :
    (∀ x sessionId session, (s x).sessions sessionId = some session → session.received ≠ [] →
      ∃ s', (handshake c).step s (.deliver x sessionId) = some s') ∧
    ∀ x, (s x).m_waitingDestroySessionInfos ≠ [] →
      ∃ s', (handshake c).step s (.destroy x) = some s' := by
  obtain ⟨phases, near, far, hrelated, -, -⟩ := phases_of_reachable hs
  exact ⟨fun x sessionId session => hrelated.deliver_enabled, fun x => hrelated.destroy_enabled⟩

/-- `A`'s `ClientInfo` waits for `B`. -/
theorem handshake_enabled_pair : ∃ s, (handshake pair).run (.start pair) [.connect .A] = some s ∧
    ∃ s', (handshake pair).step s (.deliver .B 1) = some s' := by
  have hrun : (handshake pair).run (.start pair) [.connect .A] =
      some ((Network.start pair).connect pair .A) := rfl
  exact ⟨_, hrun, (handshake_enabled (.of_run (.init rfl) hrun)).1 .B 1 _ rfl (List.cons_ne_nil _ _)⟩

/-- **The handshake ends** after nine steps: no run is longer, and one that is shorter can go on. -/
theorem handshake_length {c : Cluster} {s : Network} {events : List HandshakeEvent}
    (hrun : (handshake c).run (.start c) events = some s) :
    events.length ≤ 9 ∧ (events.length = 9 ↔ ∀ event, (handshake c).step s event = none) := by
  refine ⟨?_, length_eq_iff hrun⟩
  obtain ⟨phases, near, far, -, hcoherent, hrank⟩ := ranks_of_run hrun
  rw [← hrank]
  exact (hcoherent .A).rank_add_le

theorem handshake_length_pair : ∃ s, (handshake pair).run (.start pair) pairRun = some s ∧
    ∀ event, (handshake pair).step s event = none := by
  obtain ⟨s, hrun⟩ := pairRun_eq_some
  exact ⟨s, hrun, (handshake_length hrun).2.mp rfl⟩

/-- One connection, opened by `x`, is all that there is: the other node has it in its table, and `x` has it or
nothing. -/
def LeavesOne (c : Cluster) (s : Network) : Prop :=
  ∃ x near far, ∃ opener acceptor : P2PSession,
    (s x).sessions near = some opener ∧ opener.isInitiator = true ∧ opener.peer = far ∧
    (s x.other).sessions far = some acceptor ∧ acceptor.isInitiator = false ∧ acceptor.peer = near ∧
    (∀ sessionId, (s x).sessions sessionId ≠ none → sessionId = near) ∧
    (∀ sessionId, (s x.other).sessions sessionId ≠ none → sessionId = far) ∧
    (s x.other).hostsInfoManager.getSessionId (c.nodeId x) = some far ∧
    ((s x).hostsInfoManager.getSessionId (c.nodeId x.other) = some near ∨
      (s x).hostsInfoManager.getSessionId (c.nodeId x.other) = none)

theorem leavesOne_of_gone {c : Cluster} {s : Network} {phases : Phases} {near far : Side → SessionId}
    (h : Related c s phases near far) {x : Side} (hgone : phases x.other = .gone)
    (hphase : phases x = .established ∨ phases x = .ignored) : LeavesOne c s := by
  have hopen : phases x ≠ .unopened := by
    intro hunopened
    rw [hunopened] at hphase
    cases hphase <;> contradiction
  have hgone' : phases x.other ≠ .unopened := by
    rw [hgone]
    nofun
  have hnear := h.nearSession x hopen
  have hfar := h.farSession x hopen
  have hopener : nearEnd c x (far x) (phases x) =
      some ⟨c.nodeId x.other, c.endPoint x.other, false, true, far x, []⟩ := by
    cases hphase with
    | inl hestablished => rw [hestablished]; rfl
    | inr hignored => rw [hignored]; rfl
  have hacceptor : farEnd c x (near x) (phases x) =
      some ⟨c.nodeId x, ⟨"", 0⟩, false, false, near x, []⟩ := by
    cases hphase with
    | inl hestablished => rw [hestablished]; rfl
    | inr hignored => rw [hignored]; rfl
  have hheld : (phases x).held = true := by
    cases hphase with
    | inl hestablished => rw [hestablished]; rfl
    | inr hignored => rw [hignored]; rfl
  refine ⟨x, near x, far x, _, _, hnear.trans hopener, rfl, rfl, hfar.trans hacceptor, rfl, rfl,
    ?_, ?_, ?_, ?_⟩
  · intro sessionId hsome
    obtain ⟨-, hid⟩ | ⟨-, rfl⟩ := h.only x sessionId hsome
    · exact hid
    · have hnone := h.farSession x.other hgone'
      rw [hgone, Side.other_other] at hnone
      exact absurd hnone hsome
  · intro sessionId hsome
    obtain ⟨-, rfl⟩ | ⟨-, hid⟩ := h.only x.other sessionId hsome
    · have hnone := h.nearSession x.other hgone'
      rw [hgone] at hnone
      exact absurd hnone hsome
    · rw [Side.other_other] at hid
      exact hid
  · have hnode := h.acceptor_node x
    rw [hgone, if_neg (by nofun), if_pos hheld] at hnode
    exact hnode
  · have hnode := (h.tables x).node
    rw [hgone] at hnode
    by_cases hestablished : phases x = .established
    · rw [if_pos hestablished] at hnode
      exact .inl hnode
    · rw [if_neg hestablished] at hnode
      exact .inr hnode

/-- **One connection is left.**  When the nodes can do nothing any more, nothing is under way, and of the two
connections that they have opened exactly one is there. -/
theorem handshake_leaves_one {c : Cluster} {s : Network} {events : List HandshakeEvent}
    (hrun : (handshake c).run (.start c) events = some s)
    (hstuck : ∀ event, (handshake c).step s event = none) : Quiescent s ∧ LeavesOne c s := by
  obtain ⟨phases, near, far, hrelated, hcoherent, -⟩ := ranks_of_run hrun
  constructor
  · constructor
    · intro x sessionId session hsession
      by_contra hreceived
      obtain ⟨s', hdeliver⟩ := hrelated.deliver_enabled hsession hreceived
      have hnone := hstuck (.deliver x sessionId)
      rw [show (handshake c).step s (.deliver x sessionId) = s.deliver c x sessionId from rfl,
        hdeliver] at hnone
      cases hnone
    · intro x
      by_contra hrequests
      obtain ⟨s', hdestroy⟩ := hrelated.destroy_enabled hrequests
      have hnone := hstuck (.destroy x)
      rw [show (handshake c).step s (.destroy x) = s.destroy c x from rfl, hdestroy] at hnone
      cases hnone
  · have hrank := (ranks_eq_iff hcoherent).mpr (hrelated.stuck_iff.mp hstuck)
    obtain ⟨x, hgone, hphase⟩ := gone_of_ranks hcoherent hrank
    exact leavesOne_of_gone hrelated hgone hphase

theorem handshake_leaves_one_pair : ∃ s, (handshake pair).run (.start pair) pairRun = some s ∧
    Quiescent s ∧ LeavesOne pair s := by
  obtain ⟨s, hrun⟩ := pairRun_eq_some
  exact ⟨s, hrun, handshake_leaves_one hrun ((length_eq_iff hrun).mp rfl)⟩

end DistributedNetwork.Handshake
