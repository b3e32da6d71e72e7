import DistributedNetwork.Sending.DrainLoop

/-!
# Buffering what was accepted

`sendData` accepts messages of up to `c_p2pSessionWriteBufferSize` bytes, and a write buffer of that size
holds two bytes less.  Behind queued bytes the space is asked for first; in front of an empty buffer nothing
is asked, and the rest of a message is written after `EAGAIN`.

* `buffers_iff` — a write into the buffer and the following increase succeed for what the space holds;
* `buffering_iff` — in every run the two succeed wherever `handleSend` makes them **if and only if** no more
  than the usable capacity is left of a message when `EAGAIN` comes.
-/

namespace DistributedNetwork.Sending

open DistributedNetwork.Buffer DistributedNetwork.Library

/-- Neither the write nor the increase that follows it fails. -/
def Buffers (writeBuffer : RingBuffer) (data : List Byte) : Prop :=
  (writeBuffer.writeData data).1 = 0 ∧
    ((writeBuffer.writeData data).2.increaseUsedSpace data.length).1 = 0

/-- Where `handleSend` writes into the buffer, it succeeds: behind queued bytes once the space has been
asked for, and with the rest of a message when the kernel takes no more. -/
def BufferingSucceeds (s : SlaveReactor) : ReactorEvent → Prop
  | .handleSend =>
    match s.sending, s.sendTasks with
    | none, task :: _ =>
      (s.sessions task.sessionId).m_isWaitingDisconnect = false →
        (s.sessions task.sessionId).m_writeBuffer.dataLength ≠ 0 →
          task.data.length ≤ (s.sessions task.sessionId).m_writeBuffer.space →
            Buffers (s.sessions task.sessionId).m_writeBuffer task.data
    | _, _ => True
  | .send (.failed .EAGAIN) | .send (.failed .EWOULDBLOCK) =>
    match s.sending with
    | some (sessionId, .direct data sendLen) =>
      Buffers (s.sessions sessionId).m_writeBuffer (data.drop sendLen)
    | _ => True
  | _ => True

/-- What is left of a message when the kernel takes no more fits the usable capacity. -/
def RestFits (s : SlaveReactor) : ReactorEvent → Prop
  | .send (.failed .EAGAIN) | .send (.failed .EWOULDBLOCK) =>
    match s.sending with
    | some (_, .direct data sendLen) =>
      data.length - sendLen ≤ c_p2pSessionWriteBufferSize - c_reservedSpace
    | _ => True
  | _ => True

section Steps

variable {n : ℕ} {s s' : SlaveReactor} {event : ReactorEvent}

/-- **What can be buffered**: as much as the space holds. -/
theorem buffers_iff (hn : n < 2 ^ 31) {rb : RingBuffer} {q data : List Byte} (h : rb.Represents n q) :
    Buffers rb data ↔ data.length ≤ n - 2 - q.length := by
  have hfits : q.length + 2 ≤ n := h.fits
  unfold Buffers
  rcases Nat.lt_or_ge (n - 2 - q.length) data.length with hbig | hsmall
  · rw [h.writeData_reject hn hbig]
    exact iff_of_false (fun hboth => by cases hboth.1) (by omega)
  · have hspace : q.length + data.length ≤ n - 2 := by omega
    obtain ⟨mem, hwrite, hmem, hholds⟩ := h.writeData_accept hn hspace
    obtain ⟨rb', hincrease, -⟩ := h.increaseUsedSpace_spec hn hmem hspace hholds
    rw [hwrite]
    exact iff_of_true ⟨rfl, congrArg Prod.fst hincrease⟩ hsmall

/-- **Behind queued bytes** the space has been asked for. -/
theorem handleSend_buffers (hn : n < 2 ^ 31)
    (hfronted : ∀ sessionId, FrontedAt n s sessionId) : BufferingSucceeds s .handleSend := by
  unfold BufferingSucceeds
  dsimp only
  split
  · next task tasks hidle htasks =>
    intro _ _ hspace
    have hqueue := hfronted task.sessionId
    unfold FrontedAt at hqueue
    rw [SlaveReactor.loop_of_idle hidle] at hqueue
    obtain ⟨q, hrep, -⟩ := hqueue
    rw [hrep.space_eq hn] at hspace
    exact (buffers_iff hn hrep).mpr hspace
  · trivial

/-- **In front of an empty buffer** the whole usable capacity is there. -/
theorem sendDirect_buffers_iff (hn : n < 2 ^ 31) {sessionId : SessionId} {data : List Byte}
    {sendLen : ℕ} (hfronted : FrontedAt n s sessionId)
    (hsending : s.sending = some (sessionId, .direct data sendLen)) :
    Buffers (s.sessions sessionId).m_writeBuffer (data.drop sendLen) ↔
      data.length - sendLen ≤ n - c_reservedSpace := by
  unfold FrontedAt at hfronted
  rw [SlaveReactor.loop_of_current hsending] at hfronted
  rw [buffers_iff hn hfronted, List.length_drop, List.length_nil]
  exact Iff.rfl

/-- A rest that is too long ends the process. -/
theorem sendDirect_aborts (hn : n < 2 ^ 31) {sessionId : SessionId} {data : List Byte}
    {sendLen : ℕ} (hfronted : FrontedAt n s sessionId)
    (hsending : s.sending = some (sessionId, .direct data sendLen))
    (hbig : ¬ data.length - sendLen ≤ n - c_reservedSpace) :
    (s.sendDirect sessionId data sendLen (.failed .EAGAIN)).aborted = true := by
  unfold FrontedAt at hfronted
  rw [SlaveReactor.loop_of_current hsending] at hfronted
  have hrest : n - 2 - ([] : List Byte).length < (data.drop sendLen).length := by
    rw [List.length_drop, List.length_nil]
    exact Nat.not_le.mp hbig
  unfold SlaveReactor.sendDirect
  simp only [RingBuffer.Represents.writeData_reject hfronted hn hrest]
  rfl

end Steps

/-- **Step lemma.** -/
theorem buffering_step_iff {s s' : SlaveReactor} {event : ReactorEvent}
    (h : (slaveReactor c_p2pSessionWriteBufferSize).Reachable s)
    (hstep : (slaveReactor c_p2pSessionWriteBufferSize).step s event = some s') :
    BufferingSucceeds s event ↔ RestFits s event := by
  have hn : c_p2pSessionWriteBufferSize < 2 ^ 31 := by decide
  have hfronted (sessionId : SessionId) : FrontedAt c_p2pSessionWriteBufferSize s sessionId :=
    frontedAt_of_reachable sessionId (by decide) hn h (running_of_step hstep)
  have hnoMore : BufferingSucceeds s (.send (.failed .EAGAIN)) ↔
      RestFits s (.send (.failed .EAGAIN)) := by
    unfold BufferingSucceeds RestFits
    dsimp only
    split
    · next sessionId data sendLen hsending =>
      exact sendDirect_buffers_iff hn (hfronted sessionId) hsending
    · exact Iff.rfl
  cases event with
  | handleSend => exact iff_of_true (handleSend_buffers hn hfronted) trivial
  | send result =>
    cases result with
    | accepted k => exact Iff.rfl
    | failed errno =>
      cases errno with
      | EAGAIN => exact hnoMore
      | EWOULDBLOCK => exact hnoMore
      | ECONNRESET => exact Iff.rfl
      | EPIPE => exact Iff.rfl
      | other code => exact Iff.rfl
  | sendData sessionId data => exact Iff.rfl
  | setWaitingDisconnect sessionId => exact Iff.rfl
  | swapTasks => exact Iff.rfl
  | epollOut sessionId => exact Iff.rfl

/-- **Accepted messages can be buffered.**  In every run, every write of `handleSend` into a write buffer and
the increase that follows it succeed **if and only if** whatever is left of a message when the kernel takes no
more is two bytes shorter than the buffer. -/
theorem buffering_iff (events : List ReactorEvent) :
    (slaveReactor c_p2pSessionWriteBufferSize).Along BufferingSucceeds
        (.start c_p2pSessionWriteBufferSize) events ↔
      (slaveReactor c_p2pSessionWriteBufferSize).Along RestFits
        (.start c_p2pSessionWriteBufferSize) events :=
  TransitionSystem.along_congr (.init rfl)
    (fun _ _ _ hreachable hstep => buffering_step_iff hreachable hstep) events

/-- The reactor takes a message and stands at its first `send`. -/
def turnTo (message : List Byte) : List ReactorEvent :=
  [.sendData 0 message, .swapTasks, .handleSend]

theorem run_turnTo (message : List Byte) (hpos : 0 < message.length)
    (haccepted : message.length ≤ c_p2pSessionWriteBufferSize) :
    ∃ s, (slaveReactor c_p2pSessionWriteBufferSize).run (.start c_p2pSessionWriteBufferSize)
        (turnTo message) = some s ∧
      s.aborted = false ∧ s.sending = some (0, .direct message 0) := by
  let start := SlaveReactor.start c_p2pSessionWriteBufferSize
  have hsendData : start.sendData 0 message = (0, { start with m_sendTasks := [⟨0, message⟩] }) := by
    unfold SlaveReactor.sendData
    rw [if_neg (Nat.not_lt.mpr haccepted)]
    rfl
  have htake : (slaveReactor c_p2pSessionWriteBufferSize).step start (.sendData 0 message) =
      some { start with m_sendTasks := [⟨0, message⟩] } :=
    congrArg (fun answer : ℤ × SlaveReactor => some answer.2) hsendData
  have hempty : (start.sessions 0).m_writeBuffer.dataLength = 0 := by decide
  have hsend : (start.handleSend ⟨0, message⟩).sending = some (0, .direct message 0) := by
    unfold SlaveReactor.handleSend
    dsimp only
    rw [if_neg (by decide), if_neg (fun hne => hne hempty)]
    exact if_pos hpos
  have hrunning : (start.handleSend ⟨0, message⟩).aborted = false := by
    unfold SlaveReactor.handleSend
    dsimp only
    rw [if_neg (by decide), if_neg (fun hne => hne hempty)]
    rfl
  refine ⟨start.handleSend ⟨0, message⟩, ?_, hrunning, hsend⟩
  unfold turnTo TransitionSystem.run
  rw [htake]
  rfl

/-- **The assertion fails** on a message one byte longer than the usable capacity, which `sendData` accepts,
when the kernel takes none of it. -/
theorem buffering_fails :
    (SlaveReactor.sendData (.start c_p2pSessionWriteBufferSize) 0 (List.replicate 16383 0)).1 = 0 ∧
      (∃ s, (slaveReactor c_p2pSessionWriteBufferSize).run (.start c_p2pSessionWriteBufferSize)
        (turnTo (List.replicate 16383 0) ++ [.send (.failed .EAGAIN)]) = some s ∧ s.aborted = true) ∧
      ¬ (slaveReactor c_p2pSessionWriteBufferSize).Along BufferingSucceeds
        (.start c_p2pSessionWriteBufferSize)
        (turnTo (List.replicate 16383 0) ++ [.send (.failed .EAGAIN)]) := by
  have hlength : (List.replicate 16383 (0 : Byte)).length = 16383 := List.length_replicate
  have haccepted : ¬ (List.replicate 16383 (0 : Byte)).length > c_p2pSessionWriteBufferSize := by
    rw [hlength]
    decide
  obtain ⟨s, hrun, hrunning, hsending⟩ :=
    run_turnTo (List.replicate 16383 0) (by rw [hlength]; decide) (Nat.not_lt.mp haccepted)
  have hreachable : (slaveReactor c_p2pSessionWriteBufferSize).Reachable s := .of_run (.init rfl) hrun
  have hstep : (slaveReactor c_p2pSessionWriteBufferSize).step s (.send (.failed .EAGAIN)) =
      some (s.sendDirect 0 (List.replicate 16383 0) 0 (.failed .EAGAIN)) := by
    show s.step (.send (.failed .EAGAIN)) = _
    unfold SlaveReactor.step
    rw [if_neg (by rw [hrunning]; decide)]
    simp only [hsending]
    exact if_pos trivial
  have hbig : ¬ 16383 - 0 ≤ c_p2pSessionWriteBufferSize - c_reservedSpace := by decide
  have hfronted := frontedAt_of_reachable 0 (by decide) (by decide) hreachable hrunning
  refine ⟨?_, ⟨_, ?_, sendDirect_aborts (by decide) hfronted hsending (by rw [hlength]; exact hbig)⟩,
    fun halong => ?_⟩
  · unfold SlaveReactor.sendData
    rw [if_neg haccepted]
    rfl
  · rw [TransitionSystem.run_append, hrun, Option.bind_some, TransitionSystem.run, hstep]
    rfl
  · have hfits := (buffering_step_iff hreachable hstep).mp
      (halong (turnTo (List.replicate 16383 0)) _ [] s _ rfl hrun hstep)
    unfold RestFits at hfits
    simp only [hsending, hlength] at hfits
    exact hbig hfits

end DistributedNetwork.Sending
