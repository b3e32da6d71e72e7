import Mathlib.Logic.Function.Basic
import DistributedNetwork.Library.TransitionSystem
import DistributedNetwork.Decoding.BufferLimits
import DistributedNetwork.Sending.SlaveReactor

/-!
# The `epoll` loop of a `SlaveReactor`

Sockets are polled edge-triggered: `epoll_wait` returns an `EPOLLIN` edge **once**, and bytes that are left
in the receive queue raise no new one.  The loop reads once per edge, into a buffer of 32 KiB.

* `Descriptor` — the kernel's side of a socket: its receive queue and its pending edge;
* `SlaveReactor.step` — arrivals, the two steps of `addSession`, and the loop from one system call to the
  next;
* `handleEvent_cases`, `Effect.of_step` — what the loop does with one event, and a step with the sockets.
-/

namespace DistributedNetwork.Receiving

open DistributedNetwork.Library
open DistributedNetwork.Decoding (c_defaultSocketRecvBufferSize)
open DistributedNetwork.Sending (SessionId SendResult Errno)

def c_maxEvent : ℕ := 500

/-! ### The kernel -/

/-- A socket: whether the reactor polls it, the bytes in its receive queue, its pending `EPOLLIN` edge. -/
structure Descriptor where
  registered : Bool
  receiveQueue : ℕ
  edge : Bool
  deriving DecidableEq

namespace Descriptor

def arrive (d : Descriptor) (n : ℕ) : Descriptor :=
  { d with receiveQueue := d.receiveQueue + n, edge := d.edge || d.registered }

/-- `EPOLL_CTL_ADD`. -/
def epollCtlAdd (d : Descriptor) : Descriptor :=
  { d with registered := true, edge := d.edge || decide (0 < d.receiveQueue) }

/-- `EPOLL_CTL_MOD`: it fails on a descriptor that is not polled. -/
def epollCtlMod (d : Descriptor) : Descriptor :=
  if d.registered = true then { d with edge := d.edge || decide (0 < d.receiveQueue) } else d

def recv (d : Descriptor) (length : ℕ) : Descriptor :=
  { d with receiveQueue := d.receiveQueue - min d.receiveQueue length }

end Descriptor

inductive Fd where
  | sendTaskWakeup
  | session (sessionId : SessionId)
  deriving DecidableEq

structure EpollEvent where
  fd : Fd
  EPOLLERR : Bool
  EPOLLHUP : Bool
  EPOLLIN : Bool
  EPOLLOUT : Bool
  deriving DecidableEq

namespace EpollEvent

/-- `ev.data.u64`: the wakeup descriptor's number, or the session id. -/
def u64 (m_sendTaskWakeupFd : ℕ) (ev : EpollEvent) : ℕ :=
  match ev.fd with
  | .sendTaskWakeup => m_sendTaskWakeupFd
  | .session sessionId => sessionId

def sessionId? (ev : EpollEvent) : Option SessionId :=
  match ev.fd with
  | .sendTaskWakeup => none
  | .session sessionId => some sessionId

end EpollEvent

/-- Some of the events reports the session's `EPOLLIN` edge. -/
def readable (ev : List EpollEvent) (sessionId : SessionId) : Bool :=
  ev.any fun e => decide (e.fd = .session sessionId) && e.EPOLLIN

/-- What `recv` returns: data, `0`, or `-1`. -/
inductive RecvResult where
  | data
  | closed
  | failed
  deriving DecidableEq

/-- Data comes out of a queue that holds some, `0` out of an empty one. -/
def Descriptor.Returns (d : Descriptor) : RecvResult → Prop
  | .data => 0 < d.receiveQueue
  | .closed => d.receiveQueue = 0
  | .failed => True

instance (d : Descriptor) (result : RecvResult) : Decidable (d.Returns result) := by
  cases result <;> unfold Descriptor.Returns <;> infer_instance

/-! ### The reactor -/

/-- Where the reactor's thread stands, with the events it has still to handle. -/
inductive Position where
  | epollWait
  | handleSendTasks (ev : List EpollEvent)
  | events (ev : List EpollEvent)
  /-- in the loop of the `EPOLLOUT` branch -/
  | epollOut (sessionId : SessionId) (ev : List EpollEvent)
  deriving DecidableEq

def Position.batch : Position → List EpollEvent
  | .epollWait => []
  | .handleSendTasks ev => ev
  | .events ev => ev
  | .epollOut _ ev => ev

structure SlaveReactor where
  descriptor : SessionId → Descriptor
  m_isWaitingDisconnect : SessionId → Bool
  m_p2pSessions : SessionId → Bool
  position : Position

inductive PollEvent where
  | arrive (sessionId : SessionId) (n : ℕ)
  /-- the first step of `addSession` -/
  | epollCtlAdd (sessionId : SessionId)
  /-- its second step -/
  | emplace (sessionId : SessionId)
  /-- another thread marks the session -/
  | setWaitingDisconnect (sessionId : SessionId)
  /-- `epoll_wait` returns -/
  | epollWait (ev : List EpollEvent)
  /-- a `send` of `handleSend` returns -/
  | handleSend (sessionId : SessionId) (result : SendResult)
  | sendTasksHandled
  /-- the loop turns to the next event; `result` is what its `recv` returns, if there is one -/
  | handleEvent (result : RecvResult)
  /-- a `send` of the `EPOLLOUT` branch returns -/
  | send (result : SendResult)
  | writeBufferEmpty
  /-- all events are handled and the thread calls `epoll_wait` again -/
  | block
  deriving DecidableEq

namespace SlaveReactor

def setDescriptor (r : SlaveReactor) (sessionId : SessionId) (d : Descriptor) : SlaveReactor :=
  { r with descriptor := Function.update r.descriptor sessionId d }

def epollCtlMod (r : SlaveReactor) (sessionId : SessionId) : SlaveReactor :=
  r.setDescriptor sessionId (r.descriptor sessionId).epollCtlMod

/-- `disconnectSession`: the session is marked and handed to the destroyer. -/
def disconnectSession (r : SlaveReactor) (sessionId : SessionId) : SlaveReactor :=
  { r with m_isWaitingDisconnect := Function.update r.m_isWaitingDisconnect sessionId true }

/-- The edges that `epoll_wait` reports are pending until then. -/
def Reports (r : SlaveReactor) (ev : List EpollEvent) : Prop :=
  ev.length ≤ c_maxEvent ∧ (ev.filterMap EpollEvent.sessionId?).Nodup ∧
    ∀ e ∈ ev, ∀ sessionId ∈ e.sessionId?,
      (r.descriptor sessionId).registered = true ∧
        (e.EPOLLIN = true → (r.descriptor sessionId).edge = true)

instance (r : SlaveReactor) (ev : List EpollEvent) : Decidable (r.Reports ev) :=
  inferInstanceAs (Decidable (_ ∧ _ ∧ _))

def takeEdges (r : SlaveReactor) (ev : List EpollEvent) : SlaveReactor :=
  { r with
    descriptor := fun sessionId =>
      if readable ev sessionId = true then { r.descriptor sessionId with edge := false }
      else r.descriptor sessionId
    position := .handleSendTasks ev }

/-- A `send` of `handleSend`; on `ECONNRESET` and `EPIPE` only the destroyer is told. -/
def handleSend (r : SlaveReactor) (sessionId : SessionId) (result : SendResult) : SlaveReactor :=
  if r.m_isWaitingDisconnect sessionId = true then r
  else match result with
    | .failed .EAGAIN | .failed .EWOULDBLOCK => r.epollCtlMod sessionId
    | _ => r

def handleEpollOut (r : SlaveReactor) (sessionId : SessionId) (ev : List EpollEvent) : SlaveReactor :=
  if r.m_isWaitingDisconnect sessionId = true then r
  else { r with position := .epollOut sessionId ev }

/-- The body of the loop over the events; `rest` are the events after this one. -/
def handleEvent (m_sendTaskWakeupFd : ℕ) (r : SlaveReactor) (e : EpollEvent) (rest : List EpollEvent)
    (result : RecvResult) : SlaveReactor :=
  let r := { r with position := .events rest }
  let sessionId := e.u64 m_sendTaskWakeupFd
  if m_sendTaskWakeupFd = sessionId then r
  else if r.m_p2pSessions sessionId = false then r
  else if e.EPOLLERR = true ∨ e.EPOLLHUP = true then r.disconnectSession sessionId
  else if e.EPOLLIN = true ∧ result ≠ .data then r.disconnectSession sessionId
  else
    -- one `recv` for one edge
    let r := if e.EPOLLIN = true then
        r.setDescriptor sessionId ((r.descriptor sessionId).recv c_defaultSocketRecvBufferSize)
      else r
    if e.EPOLLOUT = true then r.handleEpollOut sessionId rest else r

def send (r : SlaveReactor) (sessionId : SessionId) : SendResult → SlaveReactor
  | .accepted n => if 0 < n then r.epollCtlMod sessionId else r
  | .failed .EAGAIN | .failed .EWOULDBLOCK => r.epollCtlMod sessionId
  | .failed .ECONNRESET | .failed .EPIPE => r.disconnectSession sessionId
  | .failed (.other _) => r

def step (m_sendTaskWakeupFd : ℕ) (r : SlaveReactor) : PollEvent → Option SlaveReactor
  | .arrive sessionId n =>
    if 0 < n then some (r.setDescriptor sessionId ((r.descriptor sessionId).arrive n)) else none
  | .epollCtlAdd sessionId =>
    if (r.descriptor sessionId).registered = false then
      some (r.setDescriptor sessionId (r.descriptor sessionId).epollCtlAdd)
    else none
  | .emplace sessionId =>
    if (r.descriptor sessionId).registered = true ∧ r.m_p2pSessions sessionId = false then
      some { r with m_p2pSessions := Function.update r.m_p2pSessions sessionId true }
    else none
  | .setWaitingDisconnect sessionId => some (r.disconnectSession sessionId)
  | .epollWait ev =>
    if r.position = .epollWait ∧ r.Reports ev then some (r.takeEdges ev) else none
  | .handleSend sessionId result =>
    match r.position with
    | .handleSendTasks _ => some (r.handleSend sessionId result)
    | _ => none
  | .sendTasksHandled =>
    match r.position with
    | .handleSendTasks ev => some { r with position := .events ev }
    | _ => none
  | .handleEvent result =>
    match r.position with
    | .events (e :: rest) =>
      if (r.descriptor (e.u64 m_sendTaskWakeupFd)).Returns result then
        some (r.handleEvent m_sendTaskWakeupFd e rest result)
      else none
    | _ => none
  | .send result =>
    match r.position with
    | .epollOut sessionId _ => some (r.send sessionId result)
    | _ => none
  | .writeBufferEmpty =>
    match r.position with
    | .epollOut _ ev => some { r with position := .events ev }
    | _ => none
  | .block =>
    if r.position = .events [] then some { r with position := .epollWait } else none

def start : SlaveReactor where
  descriptor _ := ⟨false, 0, false⟩
  m_isWaitingDisconnect _ := false
  m_p2pSessions _ := false
  position := .epollWait

end SlaveReactor

/-- A reactor whose wakeup descriptor has the given number. -/
def slaveReactor (m_sendTaskWakeupFd : ℕ) : TransitionSystem SlaveReactor PollEvent where
  init r := r = .start
  step := SlaveReactor.step m_sendTaskWakeupFd

/-! ### What a step does -/

section Loop

variable {m_sendTaskWakeupFd : ℕ} {r r' : SlaveReactor} {sessionId : SessionId}

theorem readable_cons {e : EpollEvent} {rest : List EpollEvent} :
    readable (e :: rest) sessionId = true ↔
      (e.fd = .session sessionId ∧ e.EPOLLIN = true) ∨ readable rest sessionId = true := by
  rw [readable, List.any_cons, Bool.or_eq_true, Bool.and_eq_true, decide_eq_true_eq]
  rfl

theorem mem_sessionId? {e : EpollEvent} :
    sessionId ∈ e.sessionId? ↔ e.fd = .session sessionId := by
  obtain ⟨fd, _, _, _, _⟩ := e
  cases fd with
  | sendTaskWakeup => simp [EpollEvent.sessionId?]
  | session other => simp [EpollEvent.sessionId?]

theorem u64_of_fd {e : EpollEvent} (h : e.fd = .session sessionId) :
    e.u64 m_sendTaskWakeupFd = sessionId := by
  unfold EpollEvent.u64
  rw [h]

/-- An event that is not taken for a wakeup is the session's. -/
theorem fd_of_u64 {e : EpollEvent} (h : e.u64 m_sendTaskWakeupFd ≠ m_sendTaskWakeupFd) :
    e.fd = .session (e.u64 m_sendTaskWakeupFd) := by
  unfold EpollEvent.u64 at h ⊢
  split
  · next hfd =>
    rw [hfd] at h
    exact absurd rfl h
  · next hfd => exact hfd

/-- **What the loop does with an event**: it passes over it, disconnects the session, or reads once and
goes on. -/
theorem handleEvent_cases {e : EpollEvent} {rest : List EpollEvent} {result : RecvResult}
    (h : r.handleEvent m_sendTaskWakeupFd e rest result = r') :
    ((e.u64 m_sendTaskWakeupFd = m_sendTaskWakeupFd ∨
        r.m_p2pSessions (e.u64 m_sendTaskWakeupFd) = false) ∧
      r' = { r with position := .events rest }) ∨
    (e.u64 m_sendTaskWakeupFd ≠ m_sendTaskWakeupFd ∧
      r.m_p2pSessions (e.u64 m_sendTaskWakeupFd) = true ∧
      ((e.EPOLLERR = true ∨ e.EPOLLHUP = true) ∨ e.EPOLLIN = true ∧ result ≠ .data) ∧
      r' = { r with position := .events rest }.disconnectSession (e.u64 m_sendTaskWakeupFd)) ∨
    (e.u64 m_sendTaskWakeupFd ≠ m_sendTaskWakeupFd ∧
      r.m_p2pSessions (e.u64 m_sendTaskWakeupFd) = true ∧
      ¬ (e.EPOLLERR = true ∨ e.EPOLLHUP = true) ∧ (e.EPOLLIN = true → result = .data) ∧
      ∃ position, (position = .events rest ∨ position = .epollOut (e.u64 m_sendTaskWakeupFd) rest) ∧
        r' = { (if e.EPOLLIN = true then
          r.setDescriptor (e.u64 m_sendTaskWakeupFd)
            ((r.descriptor (e.u64 m_sendTaskWakeupFd)).recv c_defaultSocketRecvBufferSize)
          else r) with position := position }) := by
  unfold SlaveReactor.handleEvent at h
  dsimp only at h
  by_cases hwakeup : m_sendTaskWakeupFd = e.u64 m_sendTaskWakeupFd
  · rw [if_pos hwakeup] at h
    exact .inl ⟨.inl hwakeup.symm, h.symm⟩
  rw [if_neg hwakeup] at h
  by_cases hadded : r.m_p2pSessions (e.u64 m_sendTaskWakeupFd) = false
  · rw [if_pos hadded] at h
    exact .inl ⟨.inr hadded, h.symm⟩
  rw [if_neg hadded] at h
  rw [Bool.not_eq_false] at hadded
  by_cases herror : e.EPOLLERR = true ∨ e.EPOLLHUP = true
  · rw [if_pos herror] at h
    exact .inr (.inl ⟨Ne.symm hwakeup, hadded, .inl herror, h.symm⟩)
  rw [if_neg herror] at h
  by_cases hoffline : e.EPOLLIN = true ∧ result ≠ .data
  · rw [if_pos hoffline] at h
    exact .inr (.inl ⟨Ne.symm hwakeup, hadded, .inr hoffline, h.symm⟩)
  rw [if_neg hoffline] at h
  have hdata : e.EPOLLIN = true → result = .data := fun hin => by_contra fun hne => hoffline ⟨hin, hne⟩
  refine .inr (.inr ⟨Ne.symm hwakeup, hadded, herror, hdata, ?_⟩)
  unfold SlaveReactor.handleEpollOut at h
  subst h
  by_cases hout : e.EPOLLOUT = true
  · rw [if_pos hout]
    split_ifs
    · exact ⟨_, .inl rfl, rfl⟩
    · exact ⟨_, .inr rfl, rfl⟩
    · exact ⟨_, .inl rfl, rfl⟩
    · exact ⟨_, .inr rfl, rfl⟩
  · rw [if_neg hout]
    split_ifs
    · exact ⟨_, .inl rfl, rfl⟩
    · exact ⟨_, .inl rfl, rfl⟩

/-- A session whose edge the event does not report is left as it is. -/
theorem handleEvent_other {e : EpollEvent} {rest : List EpollEvent} {result : RecvResult}
    (hother : ¬ (e.fd = .session sessionId ∧ e.EPOLLIN = true))
    (hr' : r.handleEvent m_sendTaskWakeupFd e rest result = r') :
    r'.position.batch = rest ∧ r'.descriptor sessionId = r.descriptor sessionId ∧
      (r.m_isWaitingDisconnect sessionId = true → r'.m_isWaitingDisconnect sessionId = true) := by
  rcases handleEvent_cases hr' with
    ⟨-, rfl⟩ | ⟨-, -, -, rfl⟩ | ⟨hwakeup, -, -, -, position, hnext, rfl⟩
  · exact ⟨rfl, rfl, id⟩
  · refine ⟨rfl, rfl, fun hwaiting => ?_⟩
    change Function.update r.m_isWaitingDisconnect _ true sessionId = true
    rw [Function.update_apply, hwaiting, ite_self]
  · have hbatch : position.batch = rest := by rcases hnext with rfl | rfl <;> rfl
    split
    · next hin =>
      refine ⟨hbatch, ?_, id⟩
      change Function.update r.descriptor _ _ sessionId = _
      rw [Function.update_of_ne]
      rintro rfl
      exact hother ⟨fd_of_u64 hwakeup, hin⟩
    · exact ⟨hbatch, rfl, id⟩

/-- What a step does to the sockets and to the events that are still to be handled. -/
inductive Effect (m_sendTaskWakeupFd : ℕ) (r : SlaveReactor) : PollEvent → SlaveReactor → Prop
  | arrive {event : PollEvent} (sessionId : SessionId) (n : ℕ) : 0 < n →
      Effect m_sendTaskWakeupFd r event
        (r.setDescriptor sessionId ((r.descriptor sessionId).arrive n))
  | epollCtlAdd {event : PollEvent} (sessionId : SessionId) :
      Effect m_sendTaskWakeupFd r event
        (r.setDescriptor sessionId (r.descriptor sessionId).epollCtlAdd)
  | epollCtlMod {event : PollEvent} (sessionId : SessionId) :
      Effect m_sendTaskWakeupFd r event (r.epollCtlMod sessionId)
  | emplace {event : PollEvent} (sessionId : SessionId) :
      (r.descriptor sessionId).registered = true →
      Effect m_sendTaskWakeupFd r event
        { r with m_p2pSessions := Function.update r.m_p2pSessions sessionId true }
  | disconnectSession {event : PollEvent} (sessionId : SessionId) :
      Effect m_sendTaskWakeupFd r event (r.disconnectSession sessionId)
  | takeEdges {event : PollEvent} (ev : List EpollEvent) :
      r.position = .epollWait → r.Reports ev →
      Effect m_sendTaskWakeupFd r event (r.takeEdges ev)
  | move {event : PollEvent} (position : Position) : position.batch = r.position.batch →
      Effect m_sendTaskWakeupFd r event { r with position := position }
  | handleEvent (e : EpollEvent) (rest : List EpollEvent) (result : RecvResult) :
      r.position = .events (e :: rest) → (r.descriptor (e.u64 m_sendTaskWakeupFd)).Returns result →
      Effect m_sendTaskWakeupFd r (.handleEvent result)
        (r.handleEvent m_sendTaskWakeupFd e rest result)

/-- **Step inversion.** -/
theorem Effect.of_step {event : PollEvent} (hstep : r.step m_sendTaskWakeupFd event = some r') :
    Effect m_sendTaskWakeupFd r event r' := by
  cases event with
  | arrive sessionId n =>
    obtain ⟨hn, hr'⟩ := Option.ite_none_right_eq_some.mp hstep
    cases hr'
    exact .arrive sessionId n hn
  | epollCtlAdd sessionId =>
    obtain ⟨-, hr'⟩ := Option.ite_none_right_eq_some.mp hstep
    cases hr'
    exact .epollCtlAdd sessionId
  | emplace sessionId =>
    obtain ⟨⟨hregistered, -⟩, hr'⟩ := Option.ite_none_right_eq_some.mp hstep
    cases hr'
    exact .emplace sessionId hregistered
  | setWaitingDisconnect sessionId =>
    cases hstep
    exact .disconnectSession sessionId
  | epollWait ev =>
    obtain ⟨⟨hposition, hreports⟩, hr'⟩ := Option.ite_none_right_eq_some.mp hstep
    cases hr'
    exact .takeEdges ev hposition hreports
  | handleSend sessionId result =>
    unfold SlaveReactor.step SlaveReactor.handleSend at hstep
    dsimp only at hstep
    split at hstep
    · split at hstep
      · cases hstep
        exact .move r.position rfl
      · split at hstep <;> cases hstep
        · exact .epollCtlMod sessionId
        · exact .epollCtlMod sessionId
        · exact .move r.position rfl
    · cases hstep
  | sendTasksHandled =>
    unfold SlaveReactor.step at hstep
    dsimp only at hstep
    split at hstep
    · next ev hposition =>
      cases hstep
      exact .move (.events ev) (by rw [hposition]; rfl)
    · cases hstep
  | handleEvent result =>
    unfold SlaveReactor.step at hstep
    dsimp only at hstep
    split at hstep
    · next e rest hposition =>
      obtain ⟨hreturns, hr'⟩ := Option.ite_none_right_eq_some.mp hstep
      cases hr'
      exact .handleEvent e rest result hposition hreturns
    · cases hstep
  | send result =>
    unfold SlaveReactor.step at hstep
    dsimp only at hstep
    split at hstep
    · next sessionId ev hposition =>
      unfold SlaveReactor.send at hstep
      split at hstep
      · split_ifs at hstep <;> cases hstep
        · exact .epollCtlMod sessionId
        · exact .move r.position rfl
      · cases hstep
        exact .epollCtlMod sessionId
      · cases hstep
        exact .epollCtlMod sessionId
      · cases hstep
        exact .disconnectSession sessionId
      · cases hstep
        exact .disconnectSession sessionId
      · cases hstep
        exact .move r.position rfl
    · cases hstep
  | writeBufferEmpty =>
    unfold SlaveReactor.step at hstep
    dsimp only at hstep
    split at hstep
    · next sessionId ev hposition =>
      cases hstep
      exact .move (.events ev) (by rw [hposition]; rfl)
    · cases hstep
  | block =>
    obtain ⟨hposition, hr'⟩ := Option.ite_none_right_eq_some.mp hstep
    cases hr'
    exact .move .epollWait (by rw [hposition]; rfl)

end Loop

end DistributedNetwork.Receiving
