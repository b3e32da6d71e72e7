import Mathlib.Logic.Function.Basic
import DistributedNetwork.Library.TransitionSystem
import DistributedNetwork.Buffer.RingBuffer

/-!
# Sending in a `SlaveReactor`

A message reaches the kernel on one of two paths.  `handleSend` sends it directly while the session's
write buffer is empty and buffers what the kernel does not take; the `EPOLLOUT` branch sends from the
write buffer.  Every `send` is a step of its own, with any outcome, so that a step is either a call of
another thread or what the reactor's thread does from one `send` to the next.

A failed assertion ends the process (`aborted`).
-/

namespace DistributedNetwork.Sending

open DistributedNetwork.Buffer DistributedNetwork.Library

abbrev SessionId := ℕ

def c_p2pSessionWriteBufferSize : ℕ := 16 * 1024

inductive Errno where
  | EAGAIN
  | EWOULDBLOCK
  | ECONNRESET
  | EPIPE
  | other (code : ℕ)
  deriving DecidableEq

/-- What `send` returns: how many bytes the kernel took, or `-1` with `errno`. -/
inductive SendResult where
  | accepted (n : ℕ)
  | failed (errno : Errno)
  deriving DecidableEq

structure SendTask where
  sessionId : SessionId
  data : List Byte
  deriving DecidableEq

/-- The sending side of a session.  `messages` are those taken from the queue and not rejected for lack
of space, `accepted` is what the kernel took. -/
structure Sender where
  m_writeBuffer : RingBuffer
  m_isWaitingDisconnect : Bool
  disconnectHandled : Bool
  messages : List (List Byte)
  accepted : List Byte

/-- Where the reactor's thread stands: at the `send` of `handleSend`, or at the one of the `EPOLLOUT`
branch, whose `data` is an offset into the write buffer. -/
inductive Loop where
  | direct (data : List Byte) (sendLen : ℕ)
  | buffered (data length sendLen : ℕ)
  deriving DecidableEq

structure SlaveReactor where
  m_sendTasks : List SendTask
  /-- the batch that `handleSendTasks` has swapped out -/
  sendTasks : List SendTask
  sessions : SessionId → Sender
  sending : Option (SessionId × Loop)
  aborted : Bool

inductive ReactorEvent where
  | sendData (sessionId : SessionId) (data : List Byte)
  /-- another thread marks the session -/
  | setWaitingDisconnect (sessionId : SessionId)
  /-- `handleSendTasks` takes the queue over -/
  | swapTasks
  /-- `handleSendTasks` turns to the next task of its batch -/
  | handleSend
  | epollOut (sessionId : SessionId)
  /-- the `send` at which the thread stands returns -/
  | send (result : SendResult)
  deriving DecidableEq

namespace SlaveReactor

def setSession (s : SlaveReactor) (sessionId : SessionId) (session : Sender) : SlaveReactor :=
  { s with sessions := Function.update s.sessions sessionId session }

def abort (s : SlaveReactor) : SlaveReactor :=
  { s with aborted := true }

def sendData (s : SlaveReactor) (sessionId : SessionId) (data : List Byte) : ℤ × SlaveReactor :=
  if data.length > c_p2pSessionWriteBufferSize then (-1, s)
  else if (s.sessions sessionId).m_isWaitingDisconnect = true then (-1, s)
  else (0, { s with m_sendTasks := s.m_sendTasks ++ [⟨sessionId, data⟩] })

/-! ### The direct path -/

/-- The test of the loop `while (sendLen < data->size())`. -/
def continueDirect (s : SlaveReactor) (sessionId : SessionId) (data : List Byte) (sendLen : ℕ) :
    SlaveReactor :=
  { s with
    sending := if sendLen < data.length then some (sessionId, .direct data sendLen) else none }

def handleSend (s : SlaveReactor) (task : SendTask) : SlaveReactor :=
  let session := s.sessions task.sessionId
  let data := task.data
  if session.m_isWaitingDisconnect = true then s
  else if session.m_writeBuffer.dataLength ≠ 0 then
    -- what is buffered has to go first
    if data.length > session.m_writeBuffer.space then s
    else
      let (ret, writeBuffer) := session.m_writeBuffer.writeData data
      if ret = -1 then s.abort
      else s.setSession task.sessionId { session with
        m_writeBuffer := (writeBuffer.increaseUsedSpace data.length).2
        messages := session.messages ++ [data] }
  else
    (s.setSession task.sessionId { session with messages := session.messages ++ [data] }).continueDirect
      task.sessionId data 0

def sendDirect (s : SlaveReactor) (sessionId : SessionId) (data : List Byte) (sendLen : ℕ) :
    SendResult → SlaveReactor
  | .accepted n =>
    let session := s.sessions sessionId
    (s.setSession sessionId { session with
      accepted := session.accepted ++ (data.drop sendLen).take n }).continueDirect sessionId data
        (sendLen + n)
  | .failed .EAGAIN | .failed .EWOULDBLOCK =>
    let session := s.sessions sessionId
    let rest := data.drop sendLen
    let (ret, writeBuffer) := session.m_writeBuffer.writeData rest
    if ret = -1 then s.abort
    else
      { s.setSession sessionId { session with
          m_writeBuffer := (writeBuffer.increaseUsedSpace rest.length).2 } with
        sending := none }
  | .failed .ECONNRESET | .failed .EPIPE =>
    { s.setSession sessionId { s.sessions sessionId with disconnectHandled := true } with
      sending := none }
  -- any other error leaves the loop as well
  | .failed (.other _) => { s with sending := none }

/-! ### The buffered path -/

/-- The test of the loop `while (writeBuffer->dataLength() > 0)`, and the next contiguous piece. -/
def nextPiece (s : SlaveReactor) (sessionId : SessionId) : SlaveReactor :=
  let writeBuffer := (s.sessions sessionId).m_writeBuffer
  if 0 < writeBuffer.dataLength then
    match writeBuffer.getContinuousData with
    | (_, none) => s.abort
    | (_, some (data, length)) => { s with sending := some (sessionId, .buffered data length 0) }
  else { s with sending := none }

def handleEpollOut (s : SlaveReactor) (sessionId : SessionId) : SlaveReactor :=
  let session := s.sessions sessionId
  if session.m_isWaitingDisconnect = true then s
  else if session.m_writeBuffer.dataLength = 0 then s.abort
  else s.nextPiece sessionId

/-- The loop `while (sendLen < length)`, which sends `length` bytes from `data` every time. -/
def sendBuffered (s : SlaveReactor) (sessionId : SessionId) (data length sendLen : ℕ) :
    SendResult → SlaveReactor
  | .accepted n =>
    let session := s.sessions sessionId
    let s' := s.setSession sessionId { session with
      m_writeBuffer := (session.m_writeBuffer.decreaseUsedSpace n).2
      accepted := session.accepted ++ slice session.m_writeBuffer.m_buffer data n }
    if sendLen + n < length then
      { s' with sending := some (sessionId, .buffered data length (sendLen + n)) }
    else s'.nextPiece sessionId
  | .failed .ECONNRESET | .failed .EPIPE =>
    s.setSession sessionId { s.sessions sessionId with
      m_isWaitingDisconnect := true
      disconnectHandled := true }
  | .failed _ => s

/-! ### Steps -/

/-- The kernel takes at least one byte and at most as many as requested. -/
def Possible (requested : ℕ) : SendResult → Prop
  | .accepted n => 1 ≤ n ∧ n ≤ requested
  | .failed _ => True

instance (requested : ℕ) (result : SendResult) : Decidable (Possible requested result) := by
  cases result <;> unfold Possible <;> infer_instance

def step (s : SlaveReactor) (event : ReactorEvent) : Option SlaveReactor :=
  if s.aborted = true then none
  else match event with
  | .sendData sessionId data => some (s.sendData sessionId data).2
  | .setWaitingDisconnect sessionId =>
    let session := s.sessions sessionId
    some (s.setSession sessionId { session with m_isWaitingDisconnect := true })
  | .swapTasks =>
    if s.sending = none ∧ s.sendTasks = [] then
      some { s with m_sendTasks := [], sendTasks := s.m_sendTasks }
    else none
  | .handleSend =>
    match s.sending, s.sendTasks with
    | none, task :: tasks => some ({ s with sendTasks := tasks }.handleSend task)
    | _, _ => none
  | .epollOut sessionId =>
    if s.sending = none ∧ s.sendTasks = [] then some (s.handleEpollOut sessionId) else none
  | .send result =>
    match s.sending with
    | some (sessionId, .direct data sendLen) =>
      if Possible (data.length - sendLen) result then
        some (s.sendDirect sessionId data sendLen result)
      else none
    | some (sessionId, .buffered data length sendLen) =>
      if sendLen < length ∧ Possible length result then
        some (s.sendBuffered sessionId data length sendLen result)
      else none
    | none => none

def start (capacity : ℕ) : SlaveReactor where
  m_sendTasks := []
  sendTasks := []
  sessions _ := ⟨.new capacity, false, false, [], []⟩
  sending := none
  aborted := false

end SlaveReactor

/-- A reactor whose sessions have write buffers of `capacity` bytes. -/
def slaveReactor (capacity : ℕ) : TransitionSystem SlaveReactor ReactorEvent where
  init s := s = .start capacity
  step := SlaveReactor.step

end DistributedNetwork.Sending
