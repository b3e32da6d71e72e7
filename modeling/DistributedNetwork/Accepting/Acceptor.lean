import DistributedNetwork.Buffer.RingBuffer
import DistributedNetwork.Library.TransitionSystem

/-!
# Accepting connections

One thread asks `select` whether the listening socket is readable and notifies the acceptor, whose thread
waits on a condition variable without a predicate: a notification that comes while it does not wait is lost.
Woken, it accepts until a call of `accept` fails, makes a session of each connection and hands it over.  The
hosts connector makes sessions with the same factory, in a thread of its own.

* `Server.step` — the kernel's queue, both threads, and the factory, whose `create` takes two steps;
* `connections_accounted` — every connection is accepted once, in the order of arrival, and then handed over
  or closed;
* `settled_after_two_waits` — no wake-up is missed: when the acceptor has returned to its wait twice, without
  an accept that failed, whatever had arrived before has been handed over or closed;
* `pending_wakes` — and the listener wakes it as long as connections are pending.
-/

namespace DistributedNetwork.Accepting

open DistributedNetwork.Library DistributedNetwork.Buffer

universe u

/-! ### Sessions and their factory -/

def c_p2pSessionReadBufferSize : ℕ := 16 * 1024

def c_p2pSessionWriteBufferSize : ℕ := 16 * 1024

/-- The threads that make sessions. -/
inductive Creator where
  | acceptor
  | hostsConnector
  deriving DecidableEq

structure P2PSession where
  m_fd : ℕ
  m_sessionId : ℕ
  m_readBuffer : RingBuffer
  m_writeBuffer : RingBuffer
  deriving DecidableEq

structure P2PSessionFactory where
  m_sessionId : ℕ := 1

namespace P2PSessionFactory

/-- The first half of `create`: the session is made with the id that the factory has now. -/
def construct (factory : P2PSessionFactory) (fd readBufferSize writeBufferSize : ℕ) : P2PSession where
  m_fd := fd
  m_sessionId := factory.m_sessionId
  m_readBuffer := .new readBufferSize
  m_writeBuffer := .new writeBufferSize

/-- The second half of `create`. -/
def increment (factory : P2PSessionFactory) : P2PSessionFactory where
  m_sessionId := sizeAdd factory.m_sessionId 1

end P2PSessionFactory

/-! ### The two threads -/

/-- Where the thread of the acceptor is. -/
inductive Position (Conn : Type u) where
  /-- before the wait -/
  | entering
  | waiting
  /-- at the top of the loop -/
  | accepting
  | accepted (connfd : ℕ) (conn : Conn)
  /-- the receive buffer is set, `create` is called -/
  | creating (connfd : ℕ) (conn : Conn)
  /-- in `create`, before the increment -/
  | created (p2pSession : P2PSession) (conn : Conn)
  /-- `create` has returned -/
  | handing (p2pSession : P2PSession) (conn : Conn)

namespace Position

variable {Conn : Type u}

/-- The connection that is accepted and not yet done with. -/
def conns : Position Conn → List Conn
  | entering | waiting | accepting => []
  | accepted _ conn | creating _ conn | created _ conn | handing _ conn => [conn]

/-- The session that is not yet handed over. -/
def sessions : Position Conn → List P2PSession
  | entering | waiting | accepting | accepted .. | creating .. => []
  | created p2pSession _ | handing p2pSession _ => [p2pSession]

/-- `while (connfd > 0)`. -/
def again (connfd : ℕ) : Position Conn :=
  if 0 < connfd then accepting else entering

/-- The descriptor at hand is one with which the loop goes on. -/
def GoesOn : Position Conn → Prop
  | entering | waiting | accepting => True
  | accepted connfd _ | creating connfd _ => 0 < connfd
  | created p2pSession _ | handing p2pSession _ => 0 < p2pSession.m_fd

theorem again_of_pos {connfd : ℕ} (h : 0 < connfd) : (again connfd : Position Conn) = accepting :=
  if_pos h

@[simp] theorem conns_again (connfd : ℕ) : (again connfd : Position Conn).conns = [] := by
  unfold again
  split <;> rfl

@[simp] theorem sessions_again (connfd : ℕ) : (again connfd : Position Conn).sessions = [] := by
  unfold again
  split <;> rfl

end Position

/-- What became of a connection. -/
inductive Outcome where
  | handedOver (p2pSession : P2PSession)
  /-- its receive buffer could not be set -/
  | closed
  /-- `accept` took it out of the queue and reported its error -/
  | aborted

namespace Outcome

def sessions : Outcome → List P2PSession
  | handedOver p2pSession => [p2pSession]
  | closed | aborted => []

end Outcome

structure Server (Conn : Type u) where
  /-- what the kernel holds for `accept` -/
  backlog : List Conn
  /-- `select` has found the listening socket readable -/
  notifying : Bool
  position : Position Conn
  m_p2pSessionFactory : P2PSessionFactory
  /-- the connector's session, between the two halves of `create` -/
  connecting : Option P2PSession
  /-- every session, with its creator -/
  created : List (Creator × P2PSession)
  arrived : List Conn
  settled : List (Conn × Outcome)

inductive AcceptEvent (Conn : Type u) where
  | arrive (conn : Conn)
  /-- `select` returns, `ok` unless it fails -/
  | select (ok : Bool)
  | connectHandler
  | wait
  /-- the wait ends without a notification -/
  | spurious
  | accept (connfd : ℕ)
  /-- `EAGAIN` -/
  | acceptAgain
  | acceptFailed
  | acceptAborted
  | setSocketKernelRecvBufferSize (ok : Bool)
  | construct
  | increment
  | newClientCallback
  | connectorConstruct (fd : ℕ)
  | connectorIncrement
  deriving DecidableEq

namespace Server

variable {Conn : Type u}

/-- The threads are started. -/
def init : Server Conn where
  backlog := []
  notifying := false
  position := .entering
  m_p2pSessionFactory := {}
  connecting := none
  created := []
  arrived := []
  settled := []

/-- `notify_one`: nobody remembers it. -/
def onConnect (s : Server Conn) : Server Conn :=
  match s.position with
  | .waiting => { s with position := .accepting }
  | _ => s

/-- The acceptor is done with a connection. -/
def settle (s : Server Conn) (conn : Conn) (outcome : Outcome) (position : Position Conn) : Server Conn :=
  { s with
    position := position
    settled := s.settled ++ [(conn, outcome)] }

/-- The acceptor calls `create`. -/
def constructFor (s : Server Conn) (connfd : ℕ) (conn : Conn) : Server Conn :=
  let p2pSession := s.m_p2pSessionFactory.construct connfd c_p2pSessionReadBufferSize
    c_p2pSessionWriteBufferSize
  { s with
    position := .created p2pSession conn
    created := s.created ++ [(.acceptor, p2pSession)] }

/-- The connector calls `create`. -/
def constructForHost (s : Server Conn) (fd : ℕ) : Server Conn :=
  let p2pSession := s.m_p2pSessionFactory.construct fd c_p2pSessionReadBufferSize
    c_p2pSessionWriteBufferSize
  { s with
    connecting := some p2pSession
    created := s.created ++ [(.hostsConnector, p2pSession)] }

/-- The loop of the acceptor. -/
def acceptorStep (s : Server Conn) : AcceptEvent Conn → Option (Server Conn)
  | .wait =>
    match s.position with
    | .entering => some { s with position := .waiting }
    | _ => none
  | .spurious =>
    match s.position with
    | .waiting => some { s with position := .accepting }
    | _ => none
  | .accept connfd =>
    match s.position, s.backlog with
    | .accepting, conn :: backlog =>
      some { s with
        backlog := backlog
        position := .accepted connfd conn }
    | _, _ => none
  | .acceptAgain =>
    match s.position, s.backlog with
    | .accepting, [] => some { s with position := .entering }
    | _, _ => none
  | .acceptFailed =>
    match s.position with
    | .accepting => some { s with position := .entering }
    | _ => none
  | .acceptAborted =>
    match s.position, s.backlog with
    | .accepting, conn :: backlog => some ({ s with backlog := backlog }.settle conn .aborted .entering)
    | _, _ => none
  | .setSocketKernelRecvBufferSize ok =>
    match s.position with
    | .accepted connfd conn =>
      if ok then some { s with position := .creating connfd conn }
      else some (s.settle conn .closed (.again connfd))
    | _ => none
  | .construct =>
    match s.position with
    | .creating connfd conn => some (s.constructFor connfd conn)
    | _ => none
  | .increment =>
    match s.position with
    | .created p2pSession conn =>
      some { s with
        position := .handing p2pSession conn
        m_p2pSessionFactory := s.m_p2pSessionFactory.increment }
    | _ => none
  | .newClientCallback =>
    match s.position with
    | .handing p2pSession conn =>
      some (s.settle conn (.handedOver p2pSession) (.again p2pSession.m_fd))
    | _ => none
  | _ => none

/-- The kernel, the listener and the connector; the other events are the acceptor's. -/
def step (s : Server Conn) : AcceptEvent Conn → Option (Server Conn)
  | .arrive conn =>
    some { s with
      backlog := s.backlog ++ [conn]
      arrived := s.arrived ++ [conn] }
  | .select ok =>
    if s.notifying then none
    else if ok then some { s with notifying := !s.backlog.isEmpty }
    else some s
  | .connectHandler => if s.notifying then some { s.onConnect with notifying := false } else none
  | .connectorConstruct fd =>
    match s.connecting with
    | none => some (s.constructForHost fd)
    | some _ => none
  | .connectorIncrement =>
    s.connecting.map fun _ =>
      { s with
        connecting := none
        m_p2pSessionFactory := s.m_p2pSessionFactory.increment }
  | event => s.acceptorStep event

/-- The sessions made by one thread. -/
def sessionsOf (s : Server Conn) (creator : Creator) : List P2PSession :=
  (s.created.filter fun entry => entry.1 = creator).map Prod.snd

/-- The sessions that were handed over. -/
def handedOver (s : Server Conn) : List P2PSession :=
  s.settled.flatMap fun entry => entry.2.sessions

end Server

/-- The runs of a server. -/
def server (Conn : Type u) : TransitionSystem (Server Conn) (AcceptEvent Conn) where
  init s := s = .init
  step := Server.step

/-! ### What an event does -/

section Steps

variable {Conn : Type u} {s s' : Server Conn} {event : AcceptEvent Conn}

/-- The steps, each with where the acceptor was. -/
inductive Does (s : Server Conn) : AcceptEvent Conn → Server Conn → Prop
  | arrive (conn : Conn) :
      Does s (.arrive conn) { s with
        backlog := s.backlog ++ [conn]
        arrived := s.arrived ++ [conn] }
  | select (hidle : s.notifying = false) : Does s (.select true) { s with notifying := !s.backlog.isEmpty }
  | selectFailed (hidle : s.notifying = false) : Does s (.select false) s
  | wake (hnotifying : s.notifying = true) (hposition : s.position = .waiting) :
      Does s .connectHandler { s with
        notifying := false
        position := .accepting }
  | lost (hnotifying : s.notifying = true) (hposition : s.position ≠ .waiting) :
      Does s .connectHandler { s with notifying := false }
  | wait (hposition : s.position = .entering) : Does s .wait { s with position := .waiting }
  | spurious (hposition : s.position = .waiting) : Does s .spurious { s with position := .accepting }
  | accept (connfd : ℕ) {conn : Conn} {backlog : List Conn} (hposition : s.position = .accepting)
      (hbacklog : s.backlog = conn :: backlog) :
      Does s (.accept connfd) { s with
        backlog := backlog
        position := .accepted connfd conn }
  | acceptAgain (hposition : s.position = .accepting) (hbacklog : s.backlog = []) :
      Does s .acceptAgain { s with position := .entering }
  | acceptFailed (hposition : s.position = .accepting) :
      Does s .acceptFailed { s with position := .entering }
  | acceptAborted {conn : Conn} {backlog : List Conn} (hposition : s.position = .accepting)
      (hbacklog : s.backlog = conn :: backlog) :
      Does s .acceptAborted ({ s with backlog := backlog }.settle conn .aborted .entering)
  | set {connfd : ℕ} {conn : Conn} (hposition : s.position = .accepted connfd conn) :
      Does s (.setSocketKernelRecvBufferSize true) { s with position := .creating connfd conn }
  | setFailed {connfd : ℕ} {conn : Conn} (hposition : s.position = .accepted connfd conn) :
      Does s (.setSocketKernelRecvBufferSize false) (s.settle conn .closed (.again connfd))
  | construct {connfd : ℕ} {conn : Conn} (hposition : s.position = .creating connfd conn) :
      Does s .construct (s.constructFor connfd conn)
  | increment {p2pSession : P2PSession} {conn : Conn} (hposition : s.position = .created p2pSession conn) :
      Does s .increment { s with
        position := .handing p2pSession conn
        m_p2pSessionFactory := s.m_p2pSessionFactory.increment }
  | newClientCallback {p2pSession : P2PSession} {conn : Conn}
      (hposition : s.position = .handing p2pSession conn) :
      Does s .newClientCallback
        (s.settle conn (.handedOver p2pSession) (.again p2pSession.m_fd))
  | connectorConstruct (fd : ℕ) (hidle : s.connecting = none) :
      Does s (.connectorConstruct fd) (s.constructForHost fd)
  | connectorIncrement {p2pSession : P2PSession} (hbusy : s.connecting = some p2pSession) :
      Does s .connectorIncrement { s with
        connecting := none
        m_p2pSessionFactory := s.m_p2pSessionFactory.increment }

/-- **Step inversion**, the acceptor. -/
theorem does_of_acceptorStep (h : s.acceptorStep event = some s') : Does s event s' := by
  unfold Server.acceptorStep at h
  split at h
  · split at h
    · next hposition =>
      cases h
      exact .wait hposition
    · cases h
  · split at h
    · next hposition =>
      cases h
      exact .spurious hposition
    · cases h
  · next connfd =>
    split at h
    · next conn backlog hposition hbacklog =>
      cases h
      exact .accept connfd hposition hbacklog
    · cases h
  · split at h
    · next hposition hbacklog =>
      cases h
      exact .acceptAgain hposition hbacklog
    · cases h
  · split at h
    · next hposition =>
      cases h
      exact .acceptFailed hposition
    · cases h
  · split at h
    · next conn backlog hposition hbacklog =>
      cases h
      exact .acceptAborted hposition hbacklog
    · cases h
  · next ok =>
    split at h
    · next connfd conn hposition =>
      cases ok with
      | true =>
        cases h
        exact .set hposition
      | false =>
        cases h
        exact .setFailed hposition
    · cases h
  · split at h
    · next connfd conn hposition =>
      cases h
      exact .construct hposition
    · cases h
  · split at h
    · next p2pSession conn hposition =>
      cases h
      exact .increment hposition
    · cases h
  · split at h
    · next p2pSession conn hposition =>
      cases h
      exact .newClientCallback hposition
    · cases h
  · cases h

theorem onConnect_waiting (h : s.position = .waiting) :
    s.onConnect = { s with position := .accepting } := by
  unfold Server.onConnect
  rw [h]

theorem onConnect_lost (h : s.position ≠ .waiting) : s.onConnect = s := by
  unfold Server.onConnect
  split
  · next hposition => exact absurd hposition h
  · rfl

/-- **Step inversion.** -/
theorem does_of_step (h : (server Conn).step s event = some s') : Does s event s' := by
  cases event with
  | arrive conn =>
    cases h
    exact .arrive conn
  | select ok =>
    obtain ⟨hidle, hok⟩ := Option.ite_none_left_eq_some.mp h
    rw [Bool.not_eq_true] at hidle
    cases ok with
    | true =>
      cases hok
      exact .select hidle
    | false =>
      cases hok
      exact .selectFailed hidle
  | connectHandler =>
    obtain ⟨hnotifying, hs'⟩ := Option.ite_none_right_eq_some.mp h
    cases hs'
    by_cases hposition : s.position = .waiting
    · rw [onConnect_waiting hposition]
      exact .wake hnotifying hposition
    · rw [onConnect_lost hposition]
      exact .lost hnotifying hposition
  | connectorConstruct fd =>
    change (match s.connecting with
      | none => some (s.constructForHost fd)
      | some _ => none) = some s' at h
    split at h
    · next hidle =>
      cases h
      exact .connectorConstruct fd hidle
    · cases h
  | connectorIncrement =>
    obtain ⟨p2pSession, hbusy, rfl⟩ := Option.map_eq_some_iff.mp h
    exact .connectorIncrement hbusy
  | _ => exact does_of_acceptorStep h

/-! ### Every connection once -/

/-- The connections that arrived are settled, at hand or pending, and the acceptor's sessions are handed over
or at hand. -/
structure Accounted (s : Server Conn) : Prop where
  arrived : s.arrived = s.settled.map Prod.fst ++ s.position.conns ++ s.backlog
  sessions : s.sessionsOf .acceptor = s.handedOver ++ s.position.sessions

theorem Accounted.init : Accounted (.init : Server Conn) :=
  ⟨rfl, rfl⟩

/-- Only the position has changed, and it still has the same at hand. -/
theorem Accounted.move (h : Accounted s) {position : Position Conn}
    (hconns : position.conns = s.position.conns) (hsessions : position.sessions = s.position.sessions) :
    Accounted { s with position := position } := by
  refine ⟨?_, ?_⟩
  · show s.arrived = _ ++ position.conns ++ _
    rw [hconns]
    exact h.arrived
  · show s.sessionsOf .acceptor = _ ++ position.sessions
    rw [hsessions]
    exact h.sessions

/-- The connection at hand is settled. -/
theorem Accounted.settle (h : Accounted s) {conn : Conn} {outcome : Outcome} {position : Position Conn}
    (hconns : s.position.conns = [conn]) (hsessions : s.position.sessions = outcome.sessions)
    (hnone : position.conns = []) (hnosession : position.sessions = []) :
    Accounted (s.settle conn outcome position) := by
  refine ⟨?_, ?_⟩
  · show s.arrived = (s.settled ++ [(conn, outcome)]).map Prod.fst ++ position.conns ++ s.backlog
    rw [h.arrived, hconns, hnone, List.map_append, List.append_nil]
    rfl
  · show s.sessionsOf .acceptor = (s.settle conn outcome position).handedOver ++ position.sessions
    rw [h.sessions, hsessions, hnosession, List.append_nil]
    simp [Server.handedOver, Server.settle]

theorem Server.sessionsOf_append (s : Server Conn) (creator : Creator) (entry : Creator × P2PSession)
    (position : Position Conn) (connecting : Option P2PSession) :
    Server.sessionsOf { s with
      position := position
      connecting := connecting
      created := s.created ++ [entry] } creator =
      s.sessionsOf creator ++ if entry.1 = creator then [entry.2] else [] := by
  by_cases hsame : entry.1 = creator <;> simp [Server.sessionsOf, hsame]

/-- **Step lemma.** -/
theorem Accounted.step (h : Accounted s) (hdoes : Does s event s') : Accounted s' := by
  have harrived := h.arrived
  have hsessions := h.sessions
  cases hdoes with
  | arrive conn =>
    refine ⟨?_, hsessions⟩
    show s.arrived ++ [conn] = _ ++ (s.backlog ++ [conn])
    rw [harrived, List.append_assoc]
  | select hidle => exact ⟨harrived, hsessions⟩
  | selectFailed hidle => exact h
  | wake hnotifying hposition =>
    have hmove : Accounted { s with position := .accepting } :=
      h.move (by rw [hposition]; rfl) (by rw [hposition]; rfl)
    exact ⟨hmove.arrived, hmove.sessions⟩
  | lost hnotifying hposition => exact ⟨harrived, hsessions⟩
  | wait hposition => exact h.move (by rw [hposition]; rfl) (by rw [hposition]; rfl)
  | spurious hposition => exact h.move (by rw [hposition]; rfl) (by rw [hposition]; rfl)
  | accept connfd hposition hbacklog =>
    rw [hposition] at harrived hsessions
    refine ⟨?_, hsessions⟩
    rw [harrived, hbacklog]
    simp [Position.conns]
  | acceptAgain hposition hbacklog => exact h.move (by rw [hposition]; rfl) (by rw [hposition]; rfl)
  | acceptFailed hposition => exact h.move (by rw [hposition]; rfl) (by rw [hposition]; rfl)
  | acceptAborted hposition hbacklog =>
    rw [hposition] at harrived hsessions
    refine ⟨?_, ?_⟩
    · rw [harrived, hbacklog]
      simp [Server.settle, Position.conns]
    · show s.sessionsOf .acceptor = _ ++ []
      rw [hsessions]
      simp [Server.handedOver, Server.settle, Outcome.sessions, Position.sessions]
  | set hposition => exact h.move (by rw [hposition]; rfl) (by rw [hposition]; rfl)
  | setFailed hposition =>
    exact h.settle (by rw [hposition]; rfl) (by rw [hposition]; rfl) (Position.conns_again _)
      (Position.sessions_again _)
  | construct hposition =>
    rw [hposition] at harrived hsessions
    refine ⟨harrived, ?_⟩
    unfold Server.constructFor
    rw [Server.sessionsOf_append, hsessions]
    simp [Position.sessions, Server.handedOver]
  | increment hposition =>
    rw [hposition] at harrived hsessions
    exact ⟨harrived, hsessions⟩
  | newClientCallback hposition =>
    exact h.settle (by rw [hposition]; rfl) (by rw [hposition]; rfl) (Position.conns_again _)
      (Position.sessions_again _)
  | connectorConstruct fd hidle =>
    refine ⟨harrived, ?_⟩
    unfold Server.constructForHost
    rw [Server.sessionsOf_append, hsessions]
    simp [Server.handedOver]
  | connectorIncrement hbusy => exact ⟨harrived, hsessions⟩

/-- **Every connection once.**  In every reachable state the connections that have arrived are, in this order,
those that are done with, the one at hand and those that are pending; the sessions handed over are those that
the acceptor has made, but for the one at hand. -/
theorem connections_accounted (h : (server Conn).Reachable s) : Accounted s := by
  refine h.invariant ?_ fun _ _ _ hs _ hstep => hs.step (does_of_step hstep)
  intro s hs
  cases hs
  exact .init

/-- The first connection has arrived. -/
def firstArrived : Server ℕ :=
  { Server.init with
    backlog := [0]
    arrived := [0] }

/-- It is handed over; a second one, which arrives meanwhile, is closed. -/
def twoWaits : List (AcceptEvent ℕ) :=
  [.wait, .select true, .connectHandler, .accept 5, .setSocketKernelRecvBufferSize true, .construct,
    .increment, .newClientCallback, .arrive 1, .accept 6, .setSocketKernelRecvBufferSize false, .acceptAgain, .wait]

theorem connections_accounted_twoWaits :
    ∃ s' : Server ℕ, (server ℕ).run firstArrived twoWaits = some s' ∧ Accounted s' := by
  have hs : (server ℕ).Reachable firstArrived := .step (a := .arrive 0) (.init rfl) trivial rfl
  have hsome : ((server ℕ).run firstArrived twoWaits).isSome = true := rfl
  obtain ⟨s', hrun⟩ := Option.isSome_iff_exists.mp hsome
  exact ⟨s', hrun, connections_accounted (hs.of_run hrun)⟩

/-! ### No missed wake-up -/

/-- No accept fails but for want of connections, and none returns the descriptor `0`, which ends the loop
too. -/
def Clean : AcceptEvent Conn → Prop
  | .acceptFailed | .acceptAborted | .accept 0 => False
  | _ => True

def isWait : AcceptEvent Conn → Bool
  | .wait => true
  | _ => false

/-- All of `conns` have been handed over or closed. -/
def Settled (conns : List Conn) (s : Server Conn) : Prop :=
  conns <+: s.settled.map Prod.fst

/-- `waits` counts the returns to the wait since `conns` had arrived. -/
structure Rounds (conns : List Conn) (waits : ℕ) (s : Server Conn) : Prop where
  arrived : conns <+: s.arrived
  goesOn : 1 ≤ waits → s.position.GoesOn
  entering : 1 ≤ waits → s.position = .entering → Settled conns s
  twice : 2 ≤ waits → Settled conns s

variable {conns : List Conn} {waits : ℕ}

/-- Nothing that is settled changes. -/
theorem Rounds.move (h : Rounds conns waits s) (harrived : s'.arrived = s.arrived)
    (hsettled : s'.settled = s.settled) (hgoesOn : s.position.GoesOn → s'.position.GoesOn)
    (hentering : s'.position = .entering → s.position = .entering ∨ Settled conns s) :
    Rounds conns waits s' := by
  unfold Settled at hentering
  refine ⟨harrived ▸ h.arrived, fun hwaits => hgoesOn (h.goesOn hwaits), fun hwaits hposition => ?_,
    fun hwaits => ?_⟩
  · unfold Settled
    rw [hsettled]
    rcases hentering hposition with hold | hnew
    · exact h.entering hwaits hold
    · exact hnew
  · unfold Settled
    rw [hsettled]
    exact h.twice hwaits

/-- The loop goes on behind a connection that is done with. -/
theorem Rounds.settle (h : Rounds conns waits s) {conn : Conn} {outcome : Outcome} {connfd : ℕ}
    (hconnfd : s.position.GoesOn → 0 < connfd) :
    Rounds conns waits (s.settle conn outcome (.again connfd)) := by
  have hgrows : s.settled.map Prod.fst <+: (s.settled ++ [(conn, outcome)]).map Prod.fst := by
    rw [List.map_append]
    exact List.prefix_append _ _
  refine ⟨h.arrived, fun hwaits => ?_, fun hwaits hposition => ?_,
    fun hwaits => (h.twice hwaits).trans hgrows⟩
  · show (Position.again connfd : Position Conn).GoesOn
    rw [Position.again_of_pos (hconnfd (h.goesOn hwaits))]
    trivial
  · change (Position.again connfd : Position Conn) = .entering at hposition
    rw [Position.again_of_pos (hconnfd (h.goesOn hwaits))] at hposition
    cases hposition

/-- The second return to the wait. -/
theorem Rounds.wait (h : Rounds conns waits s) (hposition : s.position = .entering) :
    Rounds conns (waits + 1) { s with position := .waiting } := by
  refine ⟨h.arrived, fun _ => trivial, nofun, fun hwaits => ?_⟩
  exact h.entering (by omega) hposition

/-- **Step lemma.**  The loop ends when nothing is pending. -/
theorem Rounds.step (h : Rounds conns waits s) (haccounted : Accounted s) (hclean : Clean event)
    (hwait : isWait event = false) (hdoes : Does s event s') : Rounds conns waits s' := by
  have harrived := haccounted.arrived
  cases hdoes with
  | arrive conn =>
    exact ⟨h.arrived.trans (List.prefix_append _ _), h.goesOn, h.entering, h.twice⟩
  | select hidle => exact h.move rfl rfl id .inl
  | selectFailed hidle => exact h
  | wake hnotifying hposition => exact h.move rfl rfl (fun _ => trivial) nofun
  | lost hnotifying hposition => exact h.move rfl rfl id .inl
  | wait hposition => cases hwait
  | spurious hposition => exact h.move rfl rfl (fun _ => trivial) nofun
  | accept connfd hposition hbacklog =>
    have hpos : 0 < connfd := by
      cases connfd with
      | zero => exact absurd hclean id
      | succ n => exact n.succ_pos
    exact h.move rfl rfl (fun _ => hpos) nofun
  | acceptAgain hposition hbacklog =>
    refine h.move rfl rfl (fun _ => trivial) fun _ => .inr ?_
    have hall : s.arrived = s.settled.map Prod.fst := by
      rw [harrived, hposition, hbacklog, List.append_nil]
      exact List.append_nil _
    unfold Settled
    rw [← hall]
    exact h.arrived
  | acceptFailed hposition => exact absurd hclean id
  | acceptAborted hposition hbacklog => exact absurd hclean id
  | set hposition =>
    refine h.move rfl rfl ?_ nofun
    rw [hposition]
    exact id
  | setFailed hposition =>
    refine h.settle ?_
    rw [hposition]
    exact id
  | construct hposition =>
    refine h.move rfl rfl ?_ nofun
    rw [hposition]
    exact id
  | increment hposition =>
    refine h.move rfl rfl ?_ nofun
    rw [hposition]
    exact id
  | newClientCallback hposition =>
    refine h.settle ?_
    rw [hposition]
    exact id
  | connectorConstruct fd hidle => exact h.move rfl rfl id .inl
  | connectorIncrement hbusy => exact h.move rfl rfl id .inl

/-- **Run lemma.** -/
theorem rounds_of_run (hs : (server Conn).Reachable s) {events : List (AcceptEvent Conn)}
    (hclean : ∀ event ∈ events, Clean event) (hrun : (server Conn).run s events = some s') :
    Rounds s.arrived (events.countP isWait) s' := by
  refine TransitionSystem.run_history (S := server Conn)
    (P := fun events s' => (∀ event ∈ events, Clean event) → Rounds s.arrived (events.countP isWait) s')
    ?_ ?_ hrun hclean
  · exact fun _ => ⟨List.prefix_rfl, nofun, nofun, nofun⟩
  · intro events s₁ event s₂ hbefore hrun₁ hstep hclean
    obtain ⟨hclean₁, hevent⟩ := List.forall_mem_append.mp hclean
    have hrounds := hbefore hclean₁
    have haccounted := connections_accounted (hs.of_run hrun₁)
    have hdoes := does_of_step hstep
    rw [List.countP_append, List.countP_singleton]
    by_cases hwait : isWait event = true
    · cases hdoes with
      | wait hposition => exact hrounds.wait hposition
      | _ => cases hwait
    · rw [if_neg hwait]
      exact hrounds.step haccounted (hevent event (List.mem_singleton_self _))
        (Bool.eq_false_iff.mpr hwait) hdoes

/-- **No wake-up is missed for good.**  Whatever the interleaving, in a run in which no accept fails (but for
want of connections) or returns the descriptor `0`, the acceptor has returned to its wait twice only when all
that had arrived at the start of the run has been handed over or closed. -/
theorem settled_after_two_waits (hs : (server Conn).Reachable s) {events : List (AcceptEvent Conn)}
    (hclean : ∀ event ∈ events, Clean event) (htwice : 2 ≤ events.countP isWait)
    (hrun : (server Conn).run s events = some s') : s.arrived <+: s'.settled.map Prod.fst :=
  (rounds_of_run hs hclean hrun).twice htwice

/-- A waiting acceptor with pending connections is woken by what the listener does next. -/
theorem pending_wakes (hposition : s.position = .waiting) (hpending : s.backlog ≠ []) :
    ∃ events s', (server Conn).run s events = some s' ∧ s'.position = .accepting ∧
      ∀ event ∈ events, event = .select true ∨ event = .connectHandler := by
  have hwake : ∀ t : Server Conn, t.position = .waiting → t.notifying = true →
      (server Conn).step t .connectHandler = some { t with
        notifying := false
        position := .accepting } := by
    intro t ht hnotifying
    show (if t.notifying = true then some { t.onConnect with notifying := false } else none) = _
    rw [if_pos hnotifying, onConnect_waiting ht]
  by_cases hnotifying : s.notifying = true
  · refine ⟨[.connectHandler], { s with notifying := false, position := .accepting }, ?_, rfl, by simp⟩
    rw [TransitionSystem.run, hwake s hposition hnotifying]
    rfl
  · have hselect : (server Conn).step s (.select true) = some { s with notifying := true } := by
      show (if s.notifying = true then none
        else if true = true then some { s with notifying := !s.backlog.isEmpty } else some s) = _
      rw [if_neg hnotifying, if_pos rfl]
      simpa using hpending
    refine ⟨[.select true, .connectHandler], { s with notifying := false, position := .accepting }, ?_, rfl,
      by simp⟩
    rw [TransitionSystem.run, hselect, Option.bind_some, TransitionSystem.run,
      hwake { s with notifying := true } hposition rfl]
    rfl

end Steps

theorem settled_after_two_waits_first : ∃ s' : Server ℕ, (server ℕ).run firstArrived twoWaits = some s' ∧
    firstArrived.arrived <+: s'.settled.map Prod.fst := by
  have hs : (server ℕ).Reachable firstArrived := .step (a := .arrive 0) (.init rfl) trivial rfl
  have hsome : ((server ℕ).run firstArrived twoWaits).isSome = true := rfl
  obtain ⟨s', hrun⟩ := Option.isSome_iff_exists.mp hsome
  refine ⟨s', hrun, settled_after_two_waits hs ?_ (by decide) hrun⟩
  simp [twoWaits, Clean]

end DistributedNetwork.Accepting
