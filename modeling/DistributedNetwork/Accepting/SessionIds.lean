import Mathlib.Data.Fintype.Card
import DistributedNetwork.Accepting.Acceptor
import DistributedNetwork.Library.TicketCounter

/-!
# Session ids

The acceptor and the hosts connector share one factory.  `create` gives a session the id that the factory has,
and increments the id afterwards: two threads in `create` at once make two sessions of one id.

* `Exclusive` — a session is made while the other thread is not in `create`;
* `sessionIds_nodup_iff` — the ids differ **exactly** in the runs in which every session was made so, as long
  as there are not more sessions than ids;
* `sessionIds_of_creator` — the sessions of one thread always differ, so an id is never given to a third one.
-/

namespace DistributedNetwork.Accepting

open DistributedNetwork.Library

universe u

instance : Fintype Creator :=
  ⟨{.acceptor, .hostsConnector}, fun creator => by cases creator <;> decide⟩

/-- The id that goes with a ticket: the factory begins with `1`, and the counter wraps. -/
def sessionIdOf (ticket : ℕ) : ℕ :=
  (1 + ticket) % 2 ^ 64

section Ids

variable {Conn : Type u} {s s' : Server Conn} {event : AcceptEvent Conn} {c c' : TicketCounter Creator}

/-- The ids, in the order in which the sessions were made. -/
def Server.sessionIds (s : Server Conn) : List ℕ :=
  s.created.map fun entry => entry.2.m_sessionId

/-- The acceptor is in `create`. -/
def Position.inCreate : Position Conn → Bool
  | .created .. => true
  | _ => false

/-- When a thread makes its session the other one is not in `create`. -/
def Exclusive (s : Server Conn) : AcceptEvent Conn → Prop
  | .construct => s.connecting = none
  | .connectorConstruct _ => s.position.inCreate = false
  | _ => True

/-! ### The factory as a counter -/

/-- What an event is to the counter. -/
def ticketEvent : AcceptEvent Conn → Option (TicketEvent Creator)
  | .construct => some (.draw .acceptor)
  | .increment => some (.advance .acceptor)
  | .connectorConstruct _ => some (.draw .hostsConnector)
  | .connectorIncrement => some (.advance .hostsConnector)
  | _ => none

/-- The factory's id goes with the next ticket, and the threads in `create` are those that draw. -/
structure Counts (s : Server Conn) (c : TicketCounter Creator) : Prop where
  next : s.m_p2pSessionFactory.m_sessionId = sessionIdOf c.next
  acceptor : .acceptor ∈ c.drawing ↔ s.position.inCreate = true
  connector : .hostsConnector ∈ c.drawing ↔ s.connecting ≠ none
  issued : s.created.map (fun entry => (entry.1, entry.2.m_sessionId)) =
    c.issued.map fun ticket => (ticket.1, sessionIdOf ticket.2)

theorem inCreate_again (connfd : ℕ) : (Position.again connfd : Position Conn).inCreate = false := by
  unfold Position.again
  split <;> rfl

theorem sessionIdOf_succ (ticket : ℕ) : sizeAdd (sessionIdOf ticket) 1 = sessionIdOf (ticket + 1) := by
  unfold sizeAdd sessionIdOf
  omega

theorem Counts.init : Counts (.init : Server Conn) .new :=
  ⟨rfl, by simp [TicketCounter.new, Server.init, Position.inCreate],
    by simp [TicketCounter.new, Server.init], rfl⟩

/-- The counter has no part in the other events. -/
theorem Counts.other (h : Counts s c) (hcreated : s'.created = s.created)
    (hfactory : s'.m_p2pSessionFactory = s.m_p2pSessionFactory) (hconnecting : s'.connecting = s.connecting)
    (hposition : s'.position.inCreate = s.position.inCreate) : Counts s' c := by
  refine ⟨?_, ?_, ?_, ?_⟩
  · rw [hfactory]
    exact h.next
  · rw [hposition]
    exact h.acceptor
  · rw [hconnecting]
    exact h.connector
  · rw [hcreated]
    exact h.issued

theorem Counts.append (h : Counts s c) (creator : Creator) (fd : ℕ) :
    (s.created ++ [(creator, s.m_p2pSessionFactory.construct fd c_p2pSessionReadBufferSize
      c_p2pSessionWriteBufferSize)]).map (fun entry => (entry.1, entry.2.m_sessionId)) =
    (c.issued ++ [(creator, c.next)]).map fun ticket => (ticket.1, sessionIdOf ticket.2) := by
  have hid : (s.m_p2pSessionFactory.construct fd c_p2pSessionReadBufferSize
      c_p2pSessionWriteBufferSize).m_sessionId = sessionIdOf c.next := h.next
  rw [List.map_append, List.map_append, h.issued, List.map_singleton, List.map_singleton, hid]

/-- **Step lemma.**  The factory simulates the counter. -/
theorem Counts.step (h : Counts s c) (hdoes : Does s event s') :
    ∃ c', TicketCounter.system.run c (ticketEvent event).toList = some c' ∧ Counts s' c' := by
  cases hdoes with
  | construct hposition =>
    have hfree : .acceptor ∉ c.drawing := by
      rw [h.acceptor, hposition]
      exact Bool.false_ne_true
    refine ⟨{ c with
      drawing := insert .acceptor c.drawing
      issued := c.issued ++ [(.acceptor, c.next)] }, ?_, h.next, ?_, ?_, h.append .acceptor _⟩
    · show (if .acceptor ∈ c.drawing then none else some _).bind _ = _
      rw [if_neg hfree]
      rfl
    · exact ⟨fun _ => rfl, fun _ => Finset.mem_insert_self _ _⟩
    · rw [Finset.mem_insert, h.connector]
      exact ⟨fun hmem => hmem.resolve_left nofun, .inr⟩
  | connectorConstruct fd hidle =>
    have hfree : .hostsConnector ∉ c.drawing := by
      rw [h.connector]
      exact not_not.mpr hidle
    refine ⟨{ c with
      drawing := insert .hostsConnector c.drawing
      issued := c.issued ++ [(.hostsConnector, c.next)] }, ?_, h.next, ?_, ?_, h.append .hostsConnector fd⟩
    · show (if .hostsConnector ∈ c.drawing then none else some _).bind _ = _
      rw [if_neg hfree]
      rfl
    · rw [Finset.mem_insert, h.acceptor]
      exact ⟨fun hmem => hmem.resolve_left nofun, .inr⟩
    · exact ⟨fun _ => nofun, fun _ => Finset.mem_insert_self _ _⟩
  | increment hposition =>
    have hdrawing : .acceptor ∈ c.drawing := by
      rw [h.acceptor, hposition]
      rfl
    refine ⟨{ c with
      next := c.next + 1
      drawing := c.drawing.erase .acceptor }, ?_, ?_, ?_, ?_, h.issued⟩
    · show (if .acceptor ∈ c.drawing then some _ else none).bind _ = _
      rw [if_pos hdrawing]
      rfl
    · show sizeAdd s.m_p2pSessionFactory.m_sessionId 1 = _
      rw [h.next, sessionIdOf_succ]
    · exact ⟨fun hmem => absurd rfl (Finset.ne_of_mem_erase hmem), nofun⟩
    · rw [Finset.mem_erase, h.connector]
      exact ⟨fun hmem => hmem.2, fun hbusy => ⟨nofun, hbusy⟩⟩
  | connectorIncrement hbusy =>
    have hdrawing : .hostsConnector ∈ c.drawing := by
      rw [h.connector, hbusy]
      exact nofun
    refine ⟨{ c with
      next := c.next + 1
      drawing := c.drawing.erase .hostsConnector }, ?_, ?_, ?_, ?_, h.issued⟩
    · show (if .hostsConnector ∈ c.drawing then some _ else none).bind _ = _
      rw [if_pos hdrawing]
      rfl
    · show sizeAdd s.m_p2pSessionFactory.m_sessionId 1 = _
      rw [h.next, sessionIdOf_succ]
    · rw [Finset.mem_erase, h.acceptor]
      exact ⟨fun hmem => hmem.2, fun hin => ⟨nofun, hin⟩⟩
    · exact ⟨fun hmem => absurd rfl (Finset.ne_of_mem_erase hmem), fun hne => absurd rfl hne⟩
  | wake hnotifying hposition =>
    exact ⟨c, rfl, h.other rfl rfl rfl (by rw [hposition]; rfl)⟩
  | wait hposition => exact ⟨c, rfl, h.other rfl rfl rfl (by rw [hposition]; rfl)⟩
  | spurious hposition => exact ⟨c, rfl, h.other rfl rfl rfl (by rw [hposition]; rfl)⟩
  | accept connfd hposition _ => exact ⟨c, rfl, h.other rfl rfl rfl (by rw [hposition]; rfl)⟩
  | acceptAgain hposition _ => exact ⟨c, rfl, h.other rfl rfl rfl (by rw [hposition]; rfl)⟩
  | acceptFailed hposition => exact ⟨c, rfl, h.other rfl rfl rfl (by rw [hposition]; rfl)⟩
  | acceptAborted hposition _ => exact ⟨c, rfl, h.other rfl rfl rfl (by rw [hposition]; rfl)⟩
  | set hposition => exact ⟨c, rfl, h.other rfl rfl rfl (by rw [hposition]; rfl)⟩
  | setFailed hposition =>
    exact ⟨c, rfl, h.other rfl rfl rfl (by rw [hposition]; exact inCreate_again _)⟩
  | newClientCallback hposition =>
    exact ⟨c, rfl, h.other rfl rfl rfl (by rw [hposition]; exact inCreate_again _)⟩
  | arrive conn => exact ⟨c, rfl, h.other rfl rfl rfl rfl⟩
  | select hidle => exact ⟨c, rfl, h.other rfl rfl rfl rfl⟩
  | selectFailed hidle => exact ⟨c, rfl, h⟩
  | lost hnotifying hposition => exact ⟨c, rfl, h.other rfl rfl rfl rfl⟩

/-- A session is made with the other thread out of `create` exactly if the draw is alone. -/
theorem Counts.exclusive_iff (h : Counts s c) (hdoes : Does s event s') :
    Exclusive s event ↔ ∀ ticket ∈ ticketEvent event, TicketCounter.Alone c ticket := by
  cases hdoes with
  | construct hposition =>
    have hfree : .acceptor ∉ c.drawing := by
      rw [h.acceptor, hposition]
      exact Bool.false_ne_true
    have hempty : c.drawing = ∅ ↔ s.connecting = none := by
      rw [← not_iff_not, ← ne_eq, ← ne_eq, ← h.connector, ← Finset.nonempty_iff_ne_empty]
      constructor
      · intro ⟨creator, hmem⟩
        cases creator with
        | acceptor => exact absurd hmem hfree
        | hostsConnector => exact hmem
      · exact fun hmem => ⟨_, hmem⟩
    simpa [Exclusive, ticketEvent, TicketCounter.Alone] using hempty.symm
  | connectorConstruct fd hidle =>
    have hfree : .hostsConnector ∉ c.drawing := by
      rw [h.connector]
      exact not_not.mpr hidle
    have hempty : c.drawing = ∅ ↔ s.position.inCreate = false := by
      rw [← not_iff_not, ← ne_eq, Bool.not_eq_false, ← h.acceptor, ← Finset.nonempty_iff_ne_empty]
      constructor
      · intro ⟨creator, hmem⟩
        cases creator with
        | acceptor => exact hmem
        | hostsConnector => exact absurd hmem hfree
      · exact fun hmem => ⟨_, hmem⟩
    simpa [Exclusive, ticketEvent, TicketCounter.Alone] using hempty.symm
  | increment _ => simp [Exclusive, ticketEvent, TicketCounter.Alone]
  | connectorIncrement _ => simp [Exclusive, ticketEvent, TicketCounter.Alone]
  | _ => simp [Exclusive, ticketEvent]

theorem filterMap_concat (events : List (AcceptEvent Conn)) (event : AcceptEvent Conn) :
    (events ++ [event]).filterMap ticketEvent =
      events.filterMap ticketEvent ++ (ticketEvent event).toList := by
  cases hevent : ticketEvent event <;> simp [List.filterMap_append, hevent]

/-- **Run lemma.** -/
theorem counts_of_run {events : List (AcceptEvent Conn)} (hrun : (server Conn).run .init events = some s) :
    ∃ c, TicketCounter.system.run .new (events.filterMap ticketEvent) = some c ∧ Counts s c ∧
      ((server Conn).Along Exclusive .init events ↔
        TicketCounter.system.Along TicketCounter.Alone .new (events.filterMap ticketEvent)) := by
  refine TransitionSystem.run_history (S := server Conn)
    (P := fun events s => ∃ c, TicketCounter.system.run .new (events.filterMap ticketEvent) = some c ∧
      Counts s c ∧ ((server Conn).Along Exclusive .init events ↔
        TicketCounter.system.Along TicketCounter.Alone .new (events.filterMap ticketEvent))) ?_ ?_ hrun
  · refine ⟨.new, rfl, .init, ?_, ?_⟩ <;> intro _ before a after _ _ hnil <;> cases before <;> cases hnil
  · intro events s event s' hbefore hrun hstep
    obtain ⟨c, hc, hcounts, halong⟩ := hbefore
    have hdoes := does_of_step hstep
    obtain ⟨c', hc', hcounts'⟩ := hcounts.step hdoes
    have hexclusive := hcounts.exclusive_iff hdoes
    have hrun' : TicketCounter.system.run .new ((events ++ [event]).filterMap ticketEvent) = some c' := by
      rw [filterMap_concat, TransitionSystem.run_append, hc, Option.bind_some, hc']
    refine ⟨c', hrun', hcounts', ?_⟩
    rw [TransitionSystem.along_concat hrun hstep, hexclusive, halong, filterMap_concat]
    cases hticket : ticketEvent event with
    | none => simp
    | some ticket =>
      rw [hticket] at hc'
      obtain ⟨c₁, hstep₁, -⟩ := Option.bind_eq_some_iff.mp hc'
      rw [Option.toList_some, TransitionSystem.along_concat hc hstep₁]
      simp

/-! ### Which ids differ -/

/-- The ids are those of the tickets. -/
theorem Counts.sessionIds (h : Counts s c) : s.sessionIds = c.tickets.map sessionIdOf := by
  have hids := congrArg (List.map Prod.snd) h.issued
  rw [List.map_map, List.map_map] at hids
  rw [TicketCounter.tickets, List.map_map]
  exact hids

theorem Counts.length (h : Counts s c) : s.created.length = c.issued.length := by
  have hlength := congrArg List.length h.issued
  rw [List.length_map, List.length_map] at hlength
  exact hlength

/-- `2 ^ 64` tickets have different ids. -/
theorem sessionIdOf_inj {ticket other : ℕ} (ht : ticket < 2 ^ 64) (ho : other < 2 ^ 64)
    (h : sessionIdOf ticket = sessionIdOf other) : ticket = other := by
  unfold sessionIdOf at h
  omega

theorem map_sessionIdOf_range (n : ℕ) : ((List.range n).map sessionIdOf).Nodup ↔ n ≤ 2 ^ 64 := by
  constructor
  · intro hnodup
    by_contra hmore
    have hsame : sessionIdOf 0 = sessionIdOf (2 ^ 64) := by decide
    have hlast : (2 : ℕ) ^ 64 < n := by omega
    have hzero := List.inj_on_of_nodup_map hnodup (List.mem_range.mpr (by omega)) (List.mem_range.mpr hlast)
      hsame
    exact absurd hzero (by decide)
  · intro hn
    refine List.nodup_range.map_on ?_
    intro ticket ht other ho hsame
    rw [List.mem_range] at ht ho
    exact sessionIdOf_inj (by omega) (by omega) hsame

/-- **The session ids of a run differ if and only if** each session was made while the other thread was not in
`create`, and the counter has not wrapped. -/
theorem sessionIds_nodup_iff {events : List (AcceptEvent Conn)}
    (hrun : (server Conn).run .init events = some s) :
    s.sessionIds.Nodup ↔ (server Conn).Along Exclusive .init events ∧ s.created.length ≤ 2 ^ 64 := by
  obtain ⟨c, hc, hcounts, halong⟩ := counts_of_run hrun
  rw [hcounts.sessionIds, hcounts.length, halong]
  constructor
  · intro hnodup
    have halone := (TicketCounter.tickets_nodup_iff hc).mp (.of_map _ hnodup)
    rw [TicketCounter.tickets_eq_range hc halone, map_sessionIdOf_range] at hnodup
    exact ⟨halone, hnodup⟩
  · intro ⟨halone, hfew⟩
    rw [TicketCounter.tickets_eq_range hc halone, map_sessionIdOf_range]
    exact hfew

/-- The connector makes a session while the acceptor is in `create`. -/
def overlapping : List (AcceptEvent ℕ) :=
  [.wait, .spurious, .arrive 0, .accept 5, .setSocketKernelRecvBufferSize true, .construct,
    .connectorConstruct 7, .connectorIncrement, .increment]

/-- Both sessions get the id `1`. -/
theorem overlapping_run : ∃ s : Server ℕ, (server ℕ).run .init overlapping = some s ∧
    s.sessionIds = [1, 1] ∧ s.created.length = 2 := by
  have hids : ((server ℕ).run .init overlapping).map Server.sessionIds = some [1, 1] := rfl
  obtain ⟨s, hrun, hs⟩ := Option.map_eq_some_iff.mp hids
  have hlength := congrArg List.length hs
  rw [Server.sessionIds, List.length_map] at hlength
  exact ⟨s, hrun, hs, hlength⟩

theorem sessionIds_nodup_iff_overlapping : ∃ s : Server ℕ, (server ℕ).run .init overlapping = some s ∧
    ¬(server ℕ).Along Exclusive .init overlapping := by
  obtain ⟨s, hrun, hids, hlength⟩ := overlapping_run
  refine ⟨s, hrun, fun halong => ?_⟩
  have hnodup := (sessionIds_nodup_iff hrun).mpr ⟨halong, by rw [hlength]; decide⟩
  rw [hids] at hnodup
  exact absurd hnodup (by decide)

/-- Two sessions of one thread have different ids. -/
theorem Counts.pairwise (h : Counts s c) (hc : TicketCounter.system.Reachable c)
    (hfew : s.created.length ≤ 2 ^ 64) :
    s.created.Pairwise fun x y => x.1 = y.1 → x.2.m_sessionId ≠ y.2.m_sessionId := by
  have htickets : (c.issued.map fun ticket => (ticket.1, sessionIdOf ticket.2)).Pairwise
      fun x y => x.1 = y.1 → x.2 ≠ y.2 := by
    refine List.pairwise_map.mpr ((TicketCounter.pairwise_issued hc).imp_of_mem ?_)
    intro x y hx hy hlt hsame hid
    have hxlt := TicketCounter.ticket_lt hc hx
    have hylt := TicketCounter.ticket_lt hc hy
    rw [← h.length] at hxlt hylt
    exact absurd (sessionIdOf_inj (by omega) (by omega) hid) (hlt hsame).ne
  rw [← h.issued] at htickets
  exact List.pairwise_map.mp htickets

/-- **The sessions of one thread have different ids** in every run, until the counter wraps, and no id is given
to more than two sessions. -/
theorem sessionIds_of_creator {events : List (AcceptEvent Conn)}
    (hrun : (server Conn).run .init events = some s) (hfew : s.created.length ≤ 2 ^ 64) :
    (∀ creator, ((s.sessionsOf creator).map P2PSession.m_sessionId).Nodup) ∧
      ∀ sessionId, s.sessionIds.count sessionId ≤ 2 := by
  obtain ⟨c, hc, hcounts, -⟩ := counts_of_run hrun
  have hpairwise := hcounts.pairwise (.of_run (.init rfl) hc) hfew
  constructor
  · intro creator
    refine List.pairwise_map.mpr (List.pairwise_map.mpr ((hpairwise.filter _).imp_of_mem ?_))
    intro x y hx hy hdiffer
    have hxc : x.1 = creator := by simpa using (List.mem_filter.mp hx).2
    have hyc : y.1 = creator := by simpa using (List.mem_filter.mp hy).2
    exact hdiffer (hxc.trans hyc.symm)
  · intro sessionId
    -- the creators of the sessions with this id differ, and there are two creators
    have hcreators : ((s.created.filter fun entry => entry.2.m_sessionId = sessionId).map Prod.fst).Nodup := by
      refine List.pairwise_map.mpr ((hpairwise.filter _).imp_of_mem ?_)
      intro x y hx hy hdiffer hsame
      have hxid : x.2.m_sessionId = sessionId := by simpa using (List.mem_filter.mp hx).2
      have hyid : y.2.m_sessionId = sessionId := by simpa using (List.mem_filter.mp hy).2
      exact hdiffer hsame (hxid.trans hyid.symm)
    have hcard := hcreators.length_le_card
    rw [List.length_map] at hcard
    have hcount : s.sessionIds.count sessionId =
        (s.created.filter fun entry => entry.2.m_sessionId = sessionId).length := by
      rw [Server.sessionIds, List.count_eq_countP, List.countP_map, List.countP_eq_length_filter]
      rfl
    rw [hcount]
    exact hcard

theorem sessionIds_of_creator_overlapping : ∃ s : Server ℕ, (server ℕ).run .init overlapping = some s ∧
    ∀ sessionId, s.sessionIds.count sessionId ≤ 2 := by
  obtain ⟨s, hrun, -, hlength⟩ := overlapping_run
  exact ⟨s, hrun, (sessionIds_of_creator hrun (by rw [hlength]; decide)).2⟩

end Ids

end DistributedNetwork.Accepting
