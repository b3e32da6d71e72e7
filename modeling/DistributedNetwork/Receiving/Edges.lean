import Mathlib.Data.List.Nodup
import DistributedNetwork.Receiving.EpollLoop

/-!
# Readable edges

A session is readable before it is in the reactor's map, and one `recv` takes at most 32 KiB: an edge can be
returned, passed over, and never come again.

* `EdgesKept` — no added session has bytes waiting without an edge;
* `KeepsEdge` — the events that the loop handles without losing the edge;
* `Polled`, `AllKept` — what every run keeps, and what the runs of such steps keep;
* `edgesKept_of_keepsEdge` — those runs block with every edge kept, and **any other step** leads on to a
  blocked reactor that has lost one.
-/

namespace DistributedNetwork.Receiving

open DistributedNetwork.Library
open DistributedNetwork.Decoding (c_defaultSocketRecvBufferSize)
open DistributedNetwork.Sending (SessionId)

/-- Every added session that is not waiting for disconnect has a pending edge while bytes wait for it. -/
def EdgesKept (r : SlaveReactor) : Prop :=
  ∀ sessionId, r.m_p2pSessions sessionId = true → r.m_isWaitingDisconnect sessionId = false →
    0 < (r.descriptor sessionId).receiveQueue → (r.descriptor sessionId).edge = true

/-- The event does not lose the session's edge: the session is waiting for disconnect, a new edge has come
up since, or the event is not taken for a wakeup, finds the session in the map, and either ends it or reads
all it has received. -/
def EventKeepsEdge (m_sendTaskWakeupFd : ℕ) (r : SlaveReactor) (sessionId : SessionId) (e : EpollEvent)
    (result : RecvResult) : Prop :=
  e.EPOLLIN = true → r.m_isWaitingDisconnect sessionId = false →
    (r.descriptor sessionId).edge = false →
      sessionId ≠ m_sendTaskWakeupFd ∧ r.m_p2pSessions sessionId = true ∧
        ((e.EPOLLERR = true ∨ e.EPOLLHUP = true) ∨ result ≠ .data ∨
          (r.descriptor sessionId).receiveQueue ≤ c_defaultSocketRecvBufferSize)

instance (m_sendTaskWakeupFd : ℕ) (r : SlaveReactor) (sessionId : SessionId) (e : EpollEvent)
    (result : RecvResult) : Decidable (EventKeepsEdge m_sendTaskWakeupFd r sessionId e result) :=
  inferInstanceAs (Decidable (_ → _ → _ → _))

/-- **The steps that lose no edge**: all but the handling of an event that is not as above. -/
def KeepsEdge (m_sendTaskWakeupFd : ℕ) (r : SlaveReactor) (event : PollEvent) : Prop :=
  match r.position, event with
  | .events (e :: _), .handleEvent result =>
    ∀ sessionId ∈ e.sessionId?, EventKeepsEdge m_sendTaskWakeupFd r sessionId e result
  | _, _ => True

instance (m_sendTaskWakeupFd : ℕ) (r : SlaveReactor) (event : PollEvent) :
    Decidable (KeepsEdge m_sendTaskWakeupFd r event) := by
  unfold KeepsEdge
  split <;> infer_instance

/-! ### What every run keeps -/

/-- What holds of a session's socket: `inMap` says that the session is in the map, `ready` that an event with
its edge is still to be handled. -/
structure Watched (m_sendTaskWakeupFd : ℕ) (sessionId : SessionId) (d : Descriptor) (inMap ready : Bool) :
    Prop where
  added : inMap = true → d.registered = true
  registered : d.edge = true ∨ ready = true → d.registered = true
  received : d.edge = true ∨ ready = true → inMap = false ∨ sessionId = m_sendTaskWakeupFd →
    0 < d.receiveQueue

/-- A socket that holds bytes has an edge, pending or still to be handled. -/
def Kept (d : Descriptor) (waiting ready : Bool) : Prop :=
  d.registered = true → 0 < d.receiveQueue → waiting = false → d.edge = true ∨ ready = true

section Socket

variable {m_sendTaskWakeupFd : ℕ} {sessionId : SessionId} {d : Descriptor} {inMap waiting ready : Bool}

theorem Watched.arrive (h : Watched m_sendTaskWakeupFd sessionId d inMap ready) {n : ℕ} (hn : 0 < n) :
    Watched m_sendTaskWakeupFd sessionId (d.arrive n) inMap ready := by
  refine ⟨h.added, fun hready => ?_, fun _ _ => Nat.add_pos_right _ hn⟩
  simp only [Descriptor.arrive, Bool.or_eq_true] at hready ⊢
  rcases hready with (hedge | hregistered) | hready
  · exact h.registered (.inl hedge)
  · exact hregistered
  · exact h.registered (.inr hready)

theorem Watched.epollCtlAdd (h : Watched m_sendTaskWakeupFd sessionId d inMap ready) :
    Watched m_sendTaskWakeupFd sessionId d.epollCtlAdd inMap ready := by
  refine ⟨fun _ => rfl, fun _ => rfl, fun hready hskipped => ?_⟩
  simp only [Descriptor.epollCtlAdd, Bool.or_eq_true, decide_eq_true_eq] at hready ⊢
  rcases hready with (hedge | hreceived) | hready
  · exact h.received (.inl hedge) hskipped
  · exact hreceived
  · exact h.received (.inr hready) hskipped

theorem Watched.epollCtlMod (h : Watched m_sendTaskWakeupFd sessionId d inMap ready) :
    Watched m_sendTaskWakeupFd sessionId d.epollCtlMod inMap ready := by
  unfold Descriptor.epollCtlMod
  split
  · next hregistered =>
    refine ⟨fun _ => hregistered, fun _ => hregistered, fun hready hskipped => ?_⟩
    simp only [Bool.or_eq_true, decide_eq_true_eq] at hready ⊢
    rcases hready with (hedge | hreceived) | hready
    · exact h.received (.inl hedge) hskipped
    · exact hreceived
    · exact h.received (.inr hready) hskipped
  · exact h

/-- Only a session that the loop finds is read from. -/
theorem Watched.recv (h : Watched m_sendTaskWakeupFd sessionId d true ready)
    (hwakeup : sessionId ≠ m_sendTaskWakeupFd) (length : ℕ) :
    Watched m_sendTaskWakeupFd sessionId (d.recv length) true ready := by
  refine ⟨h.added, h.registered, fun _ hskipped => ?_⟩
  rcases hskipped with hnotAdded | heq
  · cases hnotAdded
  · exact absurd heq hwakeup

theorem Watched.emplace (h : Watched m_sendTaskWakeupFd sessionId d inMap ready)
    (hregistered : d.registered = true) : Watched m_sendTaskWakeupFd sessionId d true ready := by
  refine ⟨fun _ => hregistered, h.registered, fun hready hskipped => ?_⟩
  rcases hskipped with hnotAdded | heq
  · cases hnotAdded
  · exact h.received hready (.inr heq)

theorem Watched.of_ready (h : Watched m_sendTaskWakeupFd sessionId d inMap ready) {ready' : Bool}
    (hready : ready' = true → ready = true) :
    Watched m_sendTaskWakeupFd sessionId d inMap ready' :=
  ⟨h.added, fun hor => h.registered (hor.imp_right hready),
    fun hor => h.received (hor.imp_right hready)⟩

/-- An edge that `epoll_wait` returns turns into an event. -/
theorem Watched.take (h : Watched m_sendTaskWakeupFd sessionId d inMap false) (hedge : d.edge = true) :
    Watched m_sendTaskWakeupFd sessionId { d with edge := false } inMap true :=
  ⟨h.added, fun _ => h.registered (.inl hedge), fun _ => h.received (.inl hedge)⟩

theorem kept_arrive (n : ℕ) : Kept (d.arrive n) waiting ready := by
  intro hregistered _ _
  left
  change (d.edge || d.registered) = true
  rw [show d.registered = true from hregistered, Bool.or_true]

theorem kept_epollCtlAdd : Kept d.epollCtlAdd waiting ready := by
  intro _ hreceived _
  left
  change 0 < d.receiveQueue at hreceived
  change (d.edge || decide (0 < d.receiveQueue)) = true
  rw [decide_eq_true hreceived, Bool.or_true]

theorem Kept.epollCtlMod (h : Kept d waiting ready) : Kept d.epollCtlMod waiting ready := by
  unfold Descriptor.epollCtlMod
  split
  · intro _ hreceived _
    left
    change 0 < d.receiveQueue at hreceived
    change (d.edge || decide (0 < d.receiveQueue)) = true
    rw [decide_eq_true hreceived, Bool.or_true]
  · exact h

end Socket

/-- The invariant of all runs. -/
structure Polled (m_sendTaskWakeupFd : ℕ) (r : SlaveReactor) : Prop where
  watched : ∀ sessionId, Watched m_sendTaskWakeupFd sessionId (r.descriptor sessionId)
    (r.m_p2pSessions sessionId) (readable r.position.batch sessionId)
  nodup : (r.position.batch.filterMap EpollEvent.sessionId?).Nodup

/-- The invariant of the runs that lose no edge. -/
def AllKept (r : SlaveReactor) : Prop :=
  ∀ sessionId, Kept (r.descriptor sessionId) (r.m_isWaitingDisconnect sessionId)
    (readable r.position.batch sessionId)

section Loop

variable {m_sendTaskWakeupFd : ℕ} {r r' : SlaveReactor} {sessionId : SessionId}

/-! ### One step -/

theorem Polled.setDescriptor (h : Polled m_sendTaskWakeupFd r) {d : Descriptor}
    (hd : Watched m_sendTaskWakeupFd sessionId d (r.m_p2pSessions sessionId)
      (readable r.position.batch sessionId)) :
    Polled m_sendTaskWakeupFd (r.setDescriptor sessionId d) := by
  refine ⟨?_, h.nodup⟩
  have hwatched := (Function.forall_update_iff r.descriptor fun other d =>
    Watched m_sendTaskWakeupFd other d (r.m_p2pSessions other)
      (readable r.position.batch other)).mpr ⟨hd, fun other _ => h.watched other⟩
  exact hwatched

theorem Polled.epollCtlMod (h : Polled m_sendTaskWakeupFd r) :
    Polled m_sendTaskWakeupFd (r.epollCtlMod sessionId) :=
  h.setDescriptor (h.watched sessionId).epollCtlMod

theorem Polled.emplace (h : Polled m_sendTaskWakeupFd r)
    (hregistered : (r.descriptor sessionId).registered = true) :
    Polled m_sendTaskWakeupFd
      { r with m_p2pSessions := Function.update r.m_p2pSessions sessionId true } := by
  refine ⟨?_, h.nodup⟩
  have hwatched := (Function.forall_update_iff r.m_p2pSessions fun other inMap =>
    Watched m_sendTaskWakeupFd other (r.descriptor other) inMap
      (readable r.position.batch other)).mpr
        ⟨(h.watched sessionId).emplace hregistered, fun other _ => h.watched other⟩
  exact hwatched

theorem Polled.disconnectSession (h : Polled m_sendTaskWakeupFd r) :
    Polled m_sendTaskWakeupFd (r.disconnectSession sessionId) :=
  ⟨h.watched, h.nodup⟩

/-- The events still to be handled only become fewer. -/
theorem Polled.position (h : Polled m_sendTaskWakeupFd r) {position : Position}
    (hbatch : position.batch.Sublist r.position.batch) :
    Polled m_sendTaskWakeupFd { r with position := position } := by
  refine ⟨fun sessionId => (h.watched sessionId).of_ready fun hready => ?_,
    h.nodup.sublist (hbatch.filterMap _)⟩
  rw [readable, List.any_eq_true] at hready ⊢
  obtain ⟨e, he, hin⟩ := hready
  exact ⟨e, hbatch.subset he, hin⟩

theorem Polled.takeEdges (h : Polled m_sendTaskWakeupFd r) {ev : List EpollEvent}
    (hposition : r.position = .epollWait) (hreports : r.Reports ev) :
    Polled m_sendTaskWakeupFd (r.takeEdges ev) := by
  obtain ⟨-, hnodup, hpending⟩ := hreports
  refine ⟨fun sessionId => ?_, hnodup⟩
  have hwatched := h.watched sessionId
  rw [hposition] at hwatched
  change Watched _ _ (if readable ev sessionId = true then _ else _) _ (readable ev sessionId)
  by_cases hready : readable ev sessionId = true
  · rw [if_pos hready, hready]
    rw [readable, List.any_eq_true] at hready
    obtain ⟨e, he, hin⟩ := hready
    rw [Bool.and_eq_true, decide_eq_true_eq] at hin
    exact hwatched.take ((hpending e he sessionId (mem_sessionId?.mpr hin.1)).2 hin.2)
  · rw [if_neg hready]
    exact hwatched.of_ready fun h => absurd h hready

theorem Polled.handleEvent (h : Polled m_sendTaskWakeupFd r) {e : EpollEvent}
    {rest : List EpollEvent} {result : RecvResult} (hposition : r.position = .events (e :: rest))
    (hr' : r.handleEvent m_sendTaskWakeupFd e rest result = r') : Polled m_sendTaskWakeupFd r' := by
  have hrest : rest.Sublist r.position.batch := by
    rw [hposition]
    exact List.sublist_cons_self e rest
  have hpassed : Polled m_sendTaskWakeupFd { r with position := .events rest } := h.position hrest
  rcases handleEvent_cases hr' with
    ⟨-, rfl⟩ | ⟨-, -, -, rfl⟩ | ⟨hwakeup, hadded, -, -, position, hnext, rfl⟩
  · exact hpassed
  · exact hpassed.disconnectSession
  · have hbatch : position.batch = rest := by rcases hnext with rfl | rfl <;> rfl
    split
    · refine Polled.position (h.setDescriptor ?_) (hbatch ▸ hrest)
      have hwatched := h.watched (e.u64 m_sendTaskWakeupFd)
      rw [hadded] at hwatched ⊢
      exact hwatched.recv hwakeup _
    · exact h.position (hbatch ▸ hrest)

/-- **Step lemma of all runs.** -/
theorem Polled.step (h : Polled m_sendTaskWakeupFd r) {event : PollEvent}
    (hstep : r.step m_sendTaskWakeupFd event = some r') : Polled m_sendTaskWakeupFd r' := by
  cases Effect.of_step hstep with
  | arrive sessionId n hn => exact h.setDescriptor ((h.watched sessionId).arrive hn)
  | epollCtlAdd sessionId => exact h.setDescriptor (h.watched sessionId).epollCtlAdd
  | epollCtlMod sessionId => exact h.epollCtlMod
  | emplace sessionId hregistered => exact h.emplace hregistered
  | disconnectSession sessionId => exact h.disconnectSession
  | takeEdges ev hposition hreports => exact h.takeEdges hposition hreports
  | move position hbatch => exact h.position (hbatch ▸ List.Sublist.refl _)
  | handleEvent e rest result hposition _ => exact h.handleEvent hposition rfl

theorem polled_of_reachable (h : (slaveReactor m_sendTaskWakeupFd).Reachable r) :
    Polled m_sendTaskWakeupFd r := by
  refine h.invariant ?_ fun _ _ _ hr _ hstep => hr.step hstep
  rintro _ rfl
  refine ⟨fun _ => ⟨nofun, ?_, ?_⟩, List.nodup_nil⟩
  · rintro (hedge | hready)
    · cases hedge
    · cases hready
  · rintro (hedge | hready)
    · cases hedge
    · cases hready

/-! ### Runs that lose no edge -/

theorem AllKept.setDescriptor (h : AllKept r) {d : Descriptor}
    (hd : Kept d (r.m_isWaitingDisconnect sessionId) (readable r.position.batch sessionId)) :
    AllKept (r.setDescriptor sessionId d) := by
  have hkept := (Function.forall_update_iff r.descriptor fun other d =>
    Kept d (r.m_isWaitingDisconnect other) (readable r.position.batch other)).mpr
      ⟨hd, fun other _ => h other⟩
  exact hkept

theorem AllKept.disconnectSession (h : AllKept r) : AllKept (r.disconnectSession sessionId) := by
  intro other hregistered hreceived hwaiting
  change Function.update r.m_isWaitingDisconnect sessionId true other = false at hwaiting
  by_cases heq : other = sessionId
  · subst heq
    rw [Function.update_self] at hwaiting
    cases hwaiting
  · rw [Function.update_of_ne heq] at hwaiting
    exact h other hregistered hreceived hwaiting

theorem AllKept.takeEdges (h : AllKept r) {ev : List EpollEvent}
    (hposition : r.position = .epollWait) : AllKept (r.takeEdges ev) := by
  intro other
  have hkept := h other
  rw [hposition] at hkept
  change Kept (if readable ev other = true then _ else _) _ (readable ev other)
  split
  · next hready => exact fun _ _ _ => .inr hready
  · intro hregistered hreceived hwaiting
    rcases hkept hregistered hreceived hwaiting with hedge | hready
    · exact .inl hedge
    · cases hready

theorem AllKept.handleEvent (h : AllKept r) {e : EpollEvent} {rest : List EpollEvent}
    {result : RecvResult} (hposition : r.position = .events (e :: rest))
    (hkeeps : ∀ sessionId ∈ e.sessionId?, EventKeepsEdge m_sendTaskWakeupFd r sessionId e result)
    (hr' : r.handleEvent m_sendTaskWakeupFd e rest result = r') : AllKept r' := by
  intro sessionId
  have hkept := h sessionId
  rw [hposition] at hkept
  by_cases hreported : e.fd = .session sessionId ∧ e.EPOLLIN = true
  · obtain ⟨hfd, hin⟩ := hreported
    have hkeep := hkeeps sessionId (mem_sessionId?.mpr hfd) hin
    intro hregistered hreceived hwaiting
    left
    have hu64 : e.u64 m_sendTaskWakeupFd = sessionId := u64_of_fd hfd
    rcases handleEvent_cases hr' with
      ⟨hskipped, rfl⟩ | ⟨-, -, -, rfl⟩ | ⟨-, -, herror, hdata, position, -, rfl⟩
    · by_contra hedge
      rw [Bool.not_eq_true] at hedge
      obtain ⟨hwakeup, hadded, -⟩ := hkeep hwaiting hedge
      rw [hu64] at hskipped
      rcases hskipped with heq | hnotAdded
      · exact hwakeup heq
      · rw [hadded] at hnotAdded
        cases hnotAdded
    · change Function.update r.m_isWaitingDisconnect _ true sessionId = false at hwaiting
      rw [hu64, Function.update_self] at hwaiting
      cases hwaiting
    · rw [if_pos hin, hu64] at hwaiting hreceived ⊢
      change (Function.update r.descriptor sessionId _ sessionId).edge = true
      change 0 < (Function.update r.descriptor sessionId _ sessionId).receiveQueue at hreceived
      rw [Function.update_self] at hreceived ⊢
      by_contra hedge
      rw [Bool.not_eq_true] at hedge
      obtain ⟨-, -, hends | hends | hall⟩ := hkeep hwaiting hedge
      · exact herror hends
      · exact hends (hdata hin)
      · -- all bytes are read
        change 0 < (r.descriptor sessionId).receiveQueue - min _ _ at hreceived
        omega
  · obtain ⟨hbatch, hdescriptor, hmarked⟩ := handleEvent_other hreported hr'
    intro hregistered hreceived hwaiting
    rw [hdescriptor] at hregistered hreceived ⊢
    rw [hbatch]
    have hnotMarked : r.m_isWaitingDisconnect sessionId = false := by
      by_contra hne
      rw [Bool.not_eq_false] at hne
      rw [hmarked hne] at hwaiting
      cases hwaiting
    rcases hkept hregistered hreceived hnotMarked with hedge | hready
    · exact .inl hedge
    · exact .inr ((readable_cons.mp hready).resolve_left hreported)

/-- **Step lemma of the runs that lose no edge.** -/
theorem AllKept.step (h : AllKept r) {event : PollEvent}
    (hkeeps : KeepsEdge m_sendTaskWakeupFd r event)
    (hstep : r.step m_sendTaskWakeupFd event = some r') : AllKept r' := by
  cases Effect.of_step hstep with
  | arrive sessionId n => exact h.setDescriptor (kept_arrive n)
  | epollCtlAdd sessionId => exact h.setDescriptor kept_epollCtlAdd
  | epollCtlMod sessionId => exact h.setDescriptor (h sessionId).epollCtlMod
  | emplace sessionId => exact h
  | disconnectSession sessionId => exact h.disconnectSession
  | takeEdges ev hposition => exact h.takeEdges hposition
  | move position hbatch =>
    intro sessionId
    have hkept := h sessionId
    rw [← hbatch] at hkept
    exact hkept
  | handleEvent e rest result hposition =>
    refine h.handleEvent hposition ?_ rfl
    unfold KeepsEdge at hkeeps
    rw [hposition] at hkeeps
    exact hkeeps

/-- **Run lemma.** -/
theorem allKept_of_reaches
    (h : (slaveReactor m_sendTaskWakeupFd).Reaches (KeepsEdge m_sendTaskWakeupFd) r) : AllKept r := by
  refine h.invariant ?_ fun _ _ _ hr hkeeps hstep => hr.step hkeeps hstep
  rintro _ rfl _ hregistered
  cases hregistered

/-! ### Runs that lose one -/

/-- Bytes wait for the session, and neither an edge nor an event tells the reactor. -/
structure LostEdge (r : SlaveReactor) (sessionId : SessionId) : Prop where
  registered : (r.descriptor sessionId).registered = true
  received : 0 < (r.descriptor sessionId).receiveQueue
  edge : (r.descriptor sessionId).edge = false
  notWaiting : r.m_isWaitingDisconnect sessionId = false
  notReported : sessionId ∉ r.position.batch.filterMap EpollEvent.sessionId?

theorem LostEdge.not_edgesKept (h : LostEdge r sessionId) (hadded : r.m_p2pSessions sessionId = true) :
    ¬ EdgesKept r := by
  intro hkept
  have hedge := hkept sessionId hadded h.notWaiting h.received
  rw [h.edge] at hedge
  cases hedge

/-- The handling of another session's event leaves the session alone. -/
theorem LostEdge.handleEvent (h : LostEdge r sessionId) {e : EpollEvent} {rest : List EpollEvent}
    (hposition : r.position = .events (e :: rest))
    (hr' : r.handleEvent m_sendTaskWakeupFd e rest .failed = r') :
    LostEdge r' sessionId ∧ r'.m_p2pSessions = r.m_p2pSessions ∧
      (r'.position = .events rest ∨ ∃ other, r'.position = .epollOut other rest) := by
  have hreported := h.notReported
  rw [hposition] at hreported
  change sessionId ∉ (e :: rest).filterMap _ at hreported
  rw [List.mem_filterMap] at hreported
  have hother : e.fd ≠ .session sessionId := fun hfd =>
    hreported ⟨e, List.mem_cons_self, mem_sessionId?.mpr hfd⟩
  have hrest : sessionId ∉ rest.filterMap EpollEvent.sessionId? := by
    rw [List.mem_filterMap]
    rintro ⟨e', he', hsession⟩
    exact hreported ⟨e', List.mem_cons_of_mem _ he', hsession⟩
  rcases handleEvent_cases hr' with
    ⟨-, rfl⟩ | ⟨hwakeup, -, -, rfl⟩ | ⟨-, -, -, hdata, position, hnext, rfl⟩
  · exact ⟨⟨h.registered, h.received, h.edge, h.notWaiting, hrest⟩, rfl, .inl rfl⟩
  · refine ⟨⟨h.registered, h.received, h.edge, ?_, hrest⟩, rfl, .inl rfl⟩
    change Function.update r.m_isWaitingDisconnect _ true sessionId = false
    rw [Function.update_of_ne]
    · exact h.notWaiting
    · rintro rfl
      exact hother (fd_of_u64 hwakeup)
  · have hnotIn : ¬ e.EPOLLIN = true := fun hin => nomatch hdata hin
    rw [if_neg hnotIn]
    have hbatch : position.batch = rest := by rcases hnext with rfl | rfl <;> rfl
    refine ⟨⟨h.registered, h.received, h.edge, h.notWaiting, hbatch ▸ hrest⟩, rfl, ?_⟩
    exact hnext.imp id fun heq => ⟨_, heq⟩

/-- The reactor can go on until it blocks with an edge lost. -/
def BlocksWithout (m_sendTaskWakeupFd : ℕ) (r : SlaveReactor) : Prop :=
  ∃ events r', (slaveReactor m_sendTaskWakeupFd).run r events = some r' ∧
    r'.position = .epollWait ∧ ¬ EdgesKept r'

theorem BlocksWithout.step (event : PollEvent) (h : BlocksWithout m_sendTaskWakeupFd r')
    (hstep : r.step m_sendTaskWakeupFd event = some r') : BlocksWithout m_sendTaskWakeupFd r := by
  obtain ⟨events, r'', hrun, hblocked⟩ := h
  refine ⟨event :: events, r'', ?_, hblocked⟩
  rw [TransitionSystem.run, Option.bind_eq_some_iff]
  exact ⟨r', hstep, hrun⟩

/-- The loop of the `EPOLLOUT` branch may end at once. -/
theorem LostEdge.resume {batch : List EpollEvent}
    (hevents : ∀ r, LostEdge r sessionId → r.m_p2pSessions sessionId = true →
      r.position = .events batch → BlocksWithout m_sendTaskWakeupFd r)
    (h : LostEdge r sessionId) (hadded : r.m_p2pSessions sessionId = true)
    (hposition : r.position = .events batch ∨ ∃ other, r.position = .epollOut other batch) :
    BlocksWithout m_sendTaskWakeupFd r := by
  rcases hposition with hposition | ⟨other, hposition⟩
  · exact hevents r h hadded hposition
  · have hreported := h.notReported
    rw [hposition] at hreported
    refine BlocksWithout.step .writeBufferEmpty (hevents { r with position := .events batch }
      ⟨h.registered, h.received, h.edge, h.notWaiting, hreported⟩ hadded rfl) ?_
    unfold SlaveReactor.step
    rw [hposition]

/-- **A lost edge stays lost** while the loop handles the events that are left and blocks. -/
theorem LostEdge.blocks {batch : List EpollEvent} (h : LostEdge r sessionId)
    (hadded : r.m_p2pSessions sessionId = true) (hposition : r.position = .events batch) :
    BlocksWithout m_sendTaskWakeupFd r := by
  induction batch generalizing r with
  | nil =>
    have hblocked : ¬ EdgesKept { r with position := .epollWait } :=
      LostEdge.not_edgesKept
        ⟨h.registered, h.received, h.edge, h.notWaiting, List.not_mem_nil⟩ hadded
    exact .step .block ⟨[], _, rfl, rfl, hblocked⟩ (if_pos hposition)
  | cons e rest ih =>
    obtain ⟨r', hr'⟩ : ∃ r', r.handleEvent m_sendTaskWakeupFd e rest .failed = r' := ⟨_, rfl⟩
    obtain ⟨hlost, hmap, hnext⟩ := h.handleEvent hposition hr'
    refine .step (.handleEvent .failed)
      (LostEdge.resume (fun _ hlost hadded hposition => ih hlost hadded hposition) hlost
        (hmap ▸ hadded) hnext) ?_
    unfold SlaveReactor.step
    rw [hposition, ← hr']
    exact if_pos trivial

/-- **A step that does not keep the edge loses it.** -/
theorem lostEdge_of_not_keepsEdge (h : Polled m_sendTaskWakeupFd r) {event : PollEvent}
    (hloses : ¬ KeepsEdge m_sendTaskWakeupFd r event)
    (hstep : r.step m_sendTaskWakeupFd event = some r') :
    ∃ sessionId rest, LostEdge r' sessionId ∧
      (r'.position = .events rest ∨ ∃ other, r'.position = .epollOut other rest) := by
  unfold KeepsEdge at hloses
  split at hloses
  · next e rest result hposition =>
    simp only [EventKeepsEdge, not_forall] at hloses
    obtain ⟨sessionId, hsession, hin, hwaiting, hedge, hloses⟩ := hloses
    have hfd := mem_sessionId?.mp hsession
    have hu64 : e.u64 m_sendTaskWakeupFd = sessionId := u64_of_fd hfd
    have hwatched := h.watched sessionId
    have hnodup := h.nodup
    rw [hposition] at hwatched hnodup
    have hready : readable (e :: rest) sessionId = true := readable_cons.mpr (.inl ⟨hfd, hin⟩)
    have hregistered := hwatched.registered (.inr hready)
    have hrest : sessionId ∉ rest.filterMap EpollEvent.sessionId? := by
      change ((e :: rest).filterMap _).Nodup at hnodup
      rw [List.filterMap_cons_some hsession] at hnodup
      exact (List.nodup_cons.mp hnodup).1
    unfold SlaveReactor.step at hstep
    rw [hposition] at hstep
    obtain ⟨-, hr'⟩ := Option.ite_none_right_eq_some.mp hstep
    rw [Option.some.injEq] at hr'
    refine ⟨sessionId, rest, ?_⟩
    rcases handleEvent_cases hr' with
      ⟨hskipped, rfl⟩ | ⟨hwakeup, hadded, hends, -⟩ | ⟨hwakeup, hadded, herror, hdata, position, hnext, rfl⟩
    · rw [hu64] at hskipped
      have hreceived := hwatched.received (.inr hready) hskipped.symm
      exact ⟨⟨hregistered, hreceived, hedge, hwaiting, hrest⟩, .inl rfl⟩
    · rw [hu64] at hwakeup hadded
      exact absurd ⟨hwakeup, hadded, hends.imp_right fun h => .inl h.2⟩ hloses
    · rw [hu64] at hwakeup hadded hnext
      have hlarge : c_defaultSocketRecvBufferSize < (r.descriptor sessionId).receiveQueue := by
        by_contra hle
        exact hloses ⟨hwakeup, hadded, .inr (.inr (Nat.le_of_not_lt hle))⟩
      have hbatch : position.batch = rest := by rcases hnext with rfl | rfl <;> rfl
      rw [if_pos hin, hu64]
      have hself : (r.setDescriptor sessionId
          ((r.descriptor sessionId).recv c_defaultSocketRecvBufferSize)).descriptor sessionId =
          (r.descriptor sessionId).recv c_defaultSocketRecvBufferSize := Function.update_self ..
      refine ⟨⟨?_, ?_, ?_, hwaiting, hbatch ▸ hrest⟩, hnext.imp id fun heq => ⟨_, heq⟩⟩
      · rw [hself]
        exact hregistered
      · rw [hself]
        change 0 < (r.descriptor sessionId).receiveQueue - min _ _
        omega
      · rw [hself]
        exact hedge
  · exact absurd trivial hloses

/-- Once the session is in the map, the reactor blocks without its edge. -/
theorem LostEdge.emplace {rest : List EpollEvent} (h : LostEdge r sessionId)
    (hposition : r.position = .events rest ∨ ∃ other, r.position = .epollOut other rest) :
    BlocksWithout m_sendTaskWakeupFd r := by
  have hblocks : ∀ r, LostEdge r sessionId → r.m_p2pSessions sessionId = true →
      r.position = .events rest → BlocksWithout m_sendTaskWakeupFd r :=
    fun _ h hadded hposition => h.blocks hadded hposition
  by_cases hadded : r.m_p2pSessions sessionId = true
  · exact LostEdge.resume hblocks h hadded hposition
  · rw [Bool.not_eq_true] at hadded
    have hlost : LostEdge
        { r with m_p2pSessions := Function.update r.m_p2pSessions sessionId true } sessionId :=
      ⟨h.registered, h.received, h.edge, h.notWaiting, h.notReported⟩
    exact .step (.emplace sessionId)
      (LostEdge.resume hblocks hlost (Function.update_self ..) hposition)
      (if_pos ⟨h.registered, hadded⟩)

end Loop

/-- **No readable edge is lost** in the runs whose steps all keep their edge: such a reactor blocks with a
pending edge for every added session whose bytes wait for it.  **Any other step loses one**: from it the
reactor can go on until it blocks without the edge. -/
theorem edgesKept_of_keepsEdge (m_sendTaskWakeupFd : ℕ) :
    (∀ r, (slaveReactor m_sendTaskWakeupFd).Reaches (KeepsEdge m_sendTaskWakeupFd) r →
      r.position = .epollWait → EdgesKept r) ∧
    ∀ r event r', (slaveReactor m_sendTaskWakeupFd).Reachable r →
      ¬ KeepsEdge m_sendTaskWakeupFd r event → r.step m_sendTaskWakeupFd event = some r' →
        ∃ events r'', (slaveReactor m_sendTaskWakeupFd).run r' events = some r'' ∧
          r''.position = .epollWait ∧ ¬ EdgesKept r'' := by
  constructor
  · intro r h hposition sessionId hadded hwaiting hreceived
    have hregistered := ((polled_of_reachable h.reachable).watched sessionId).added hadded
    rcases allKept_of_reaches h sessionId hregistered hreceived hwaiting with hedge | hready
    · exact hedge
    · rw [hposition] at hready
      cases hready
  · intro r event r' h hloses hstep
    obtain ⟨sessionId, rest, hlost, hposition⟩ :=
      lostEdge_of_not_keepsEdge (polled_of_reachable h) hloses hstep
    exact hlost.emplace hposition

/-- The `EPOLLIN` event of a session. -/
def epollIn (sessionId : SessionId) : EpollEvent where
  fd := .session sessionId
  EPOLLERR := false
  EPOLLHUP := false
  EPOLLIN := true
  EPOLLOUT := false

/-- A session that is added before its bytes come, and read in time. -/
theorem edgesKept_read : ∃ r, (slaveReactor 5).Reaches (KeepsEdge 5) r ∧ r.position = .epollWait ∧
    EdgesKept r ∧ (r.descriptor 7).receiveQueue = 3 := by
  have hrun : ((slaveReactor 5).guardedRun (KeepsEdge 5) .start [.epollCtlAdd 7, .emplace 7,
      .arrive 7 32768, .epollWait [epollIn 7], .sendTasksHandled, .handleEvent .data, .block,
      .arrive 7 3]).map (fun r => (r.position, (r.descriptor 7).receiveQueue)) =
        some (.epollWait, 3) := by
    decide
  obtain ⟨r, hr, heq⟩ := Option.map_eq_some_iff.mp hrun
  rw [Prod.mk.injEq] at heq
  have hreaches := TransitionSystem.Reaches.of_guardedRun (.init rfl) hr
  exact ⟨r, hreaches, heq.1, (edgesKept_of_keepsEdge 5).1 r hreaches heq.1, heq.2⟩

/-- **Three ways to lose an edge.**  The session is not in the map yet when its event is handled; its id is
the number of the wakeup descriptor; it has received more than one `recv` takes. -/
theorem edges_lost :
    (∃ r, (slaveReactor 5).Reachable r ∧ r.position = .epollWait ∧ ¬ EdgesKept r ∧
      (r.descriptor 7).receiveQueue = 10) ∧
    (∃ r, (slaveReactor 5).Reachable r ∧ r.position = .epollWait ∧ ¬ EdgesKept r ∧
      (r.descriptor 5).receiveQueue = 10) ∧
    ∃ r, (slaveReactor 5).Reachable r ∧ r.position = .epollWait ∧ ¬ EdgesKept r ∧
      (r.descriptor 7).receiveQueue = 7232 := by
  have hlost : ∀ (sessionId n : ℕ) (events : List PollEvent), 0 < n →
      ((slaveReactor 5).run .start events).map (fun r => (r.position, r.m_p2pSessions sessionId,
        r.m_isWaitingDisconnect sessionId, r.descriptor sessionId)) =
          some (.epollWait, true, false, ⟨true, n, false⟩) →
      ∃ r, (slaveReactor 5).Reachable r ∧ r.position = .epollWait ∧ ¬ EdgesKept r ∧
        (r.descriptor sessionId).receiveQueue = n := by
    intro sessionId n events hn hrun
    obtain ⟨r, hr, heq⟩ := Option.map_eq_some_iff.mp hrun
    simp only [Prod.mk.injEq] at heq
    obtain ⟨hposition, hadded, hwaiting, hdescriptor⟩ := heq
    refine ⟨r, .of_run (.init rfl) hr, hposition, fun hkept => ?_, by rw [hdescriptor]⟩
    have hedge := hkept sessionId hadded hwaiting (by rw [hdescriptor]; exact hn)
    rw [hdescriptor] at hedge
    cases hedge
  refine ⟨hlost 7 10 [.epollCtlAdd 7, .arrive 7 10, .epollWait [epollIn 7], .sendTasksHandled,
    .handleEvent .failed, .block, .emplace 7] (by decide) (by decide),
    hlost 5 10 [.epollCtlAdd 5, .emplace 5, .arrive 5 10, .epollWait [epollIn 5], .sendTasksHandled,
    .handleEvent .failed, .block] (by decide) (by decide),
    hlost 7 7232 [.epollCtlAdd 7, .emplace 7, .arrive 7 40000, .epollWait [epollIn 7],
    .sendTasksHandled, .handleEvent .data, .block] (by decide) (by decide)⟩

end DistributedNetwork.Receiving
