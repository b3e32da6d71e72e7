import DistributedNetwork.Sending.SendStream

/-!
# The drain loop of an `EPOLLOUT` event

The branch sends from the write buffer until it is empty.  Its inner loop counts the bytes of one
contiguous piece, its outer loop asks the buffer; neither looks at a failed `send`.

* `Fronted` — in every reachable state the live bytes of a write buffer do not go round the end of its
  block, and inside a piece the bytes taken and the bytes left add up to the piece;
* `sendsLeft` — the measure: every successful `send` lowers it, also one that takes bytes a second time and
  whose count the buffer refuses;
* `drain_leaves_iff` — the event comes to an end **if and only if** no call made in it fails, and then it makes
  at most two calls a byte.
-/

namespace DistributedNetwork.Sending

open DistributedNetwork.Buffer DistributedNetwork.Library

variable {n k : ℕ}

/-! ### Write buffers that do not go round the end -/

/-- The write buffer of a session, by where the thread stands in its loops. -/
def Fronted (n : ℕ) (rb : RingBuffer) : Option Loop → Prop
  | none => ∃ q, rb.Represents n q ∧ rb.m_startOffset = 0
  | some (.direct _ _) => rb.Represents n []
  | some (.buffered _ length sendLen) => ∃ q, rb.Represents n q ∧ rb.m_startOffset + q.length < n ∧
      0 < q.length ∧ sendLen + q.length = length

/-- Dropping less than all of a used part in one piece moves its start. -/
theorem decreaseUsedSpace_start {rb : RingBuffer} {q : List Byte} (hn : n < 2 ^ 31)
    (h : rb.Represents n q) (hlt : rb.m_startOffset + q.length < n) (hk : k < q.length) :
    (rb.decreaseUsedSpace k).2.m_startOffset = rb.m_startOffset + k := by
  have hend := h.end_eq
  rw [Nat.mod_eq_of_lt hlt] at hend
  unfold RingBuffer.decreaseUsedSpace
  rw [h.dataLength_eq hn, if_neg (by omega), if_neg (by omega), h.size_eq, sizeAdd_eq (by omega),
    Nat.mod_eq_of_lt (by omega)]
  dsimp only
  rw [if_neg (by omega)]

section Session

variable {s s' : SlaveReactor} {sessionId : SessionId} {q : List Byte} {data length sendLen : ℕ}

/-- The thread stands at a `send` of the branch, with live bytes in front of it. -/
structure InDrain (n : ℕ) (s : SlaveReactor) (sessionId : SessionId) (data length sendLen : ℕ)
    (q : List Byte) : Prop where
  running : s.aborted = false
  sending : s.sending = some (sessionId, .buffered data length sendLen)
  represents : (s.sessions sessionId).m_writeBuffer.Represents n q
  inside : (s.sessions sessionId).m_writeBuffer.m_startOffset + q.length < n
  pos : 0 < q.length
  total : sendLen + q.length = length

def Draining (n : ℕ) (s : SlaveReactor) (sessionId : SessionId) : Prop :=
  ∃ data length sendLen q, InDrain n s sessionId data length sendLen q

/-- The thread has left the branch, and nothing is buffered. -/
structure Drained (n : ℕ) (s : SlaveReactor) (sessionId : SessionId) : Prop where
  running : s.aborted = false
  sending : s.sending = none
  represents : (s.sessions sessionId).m_writeBuffer.Represents n []

/-- The measure: live bytes count twice, and a piece that was begun counts once. -/
def sendsLeft (s : SlaveReactor) : ℕ :=
  match s.sending with
  | some (sessionId, .buffered _ _ sendLen) =>
    2 * (s.sessions sessionId).m_writeBuffer.dataLength + min sendLen 1
  | _ => 0

theorem InDrain.sendsLeft_eq (hn : n < 2 ^ 31) (h : InDrain n s sessionId data length sendLen q) :
    sendsLeft s = 2 * q.length + min sendLen 1 := by
  unfold sendsLeft
  rw [h.sending]
  dsimp only
  rw [h.represents.dataLength_eq hn]

/-- The next piece is everything that is left. -/
theorem nextPiece_cases (hn : n < 2 ^ 31) (hrunning : s.aborted = false)
    (hrep : (s.sessions sessionId).m_writeBuffer.Represents n q)
    (hlt : (s.sessions sessionId).m_writeBuffer.m_startOffset + q.length < n) :
    Drained n (s.nextPiece sessionId) sessionId ∨
      ∃ data, InDrain n (s.nextPiece sessionId) sessionId data q.length 0 q := by
  unfold SlaveReactor.nextPiece
  simp only [hrep.dataLength_eq hn]
  rcases Nat.eq_zero_or_pos q.length with hempty | hpos
  · rw [hempty, if_neg (Nat.lt_irrefl 0)]
    cases List.length_eq_zero_iff.mp hempty
    exact .inl ⟨hrunning, rfl, hrep⟩
  · rw [if_pos hpos, hrep.getContinuousData_whole hn hpos hlt]
    exact .inr ⟨_, ⟨hrunning, rfl, hrep, hlt, hpos, Nat.zero_add _⟩⟩

/-- Bytes that were sent before: the buffer refuses the count, and the piece is over. -/
theorem InDrain.accepted_again (hn : n < 2 ^ 31) (h : InDrain n s sessionId data length sendLen q)
    (hk : k ≤ length) (hover : q.length < k) :
    Drained n (s.sendBuffered sessionId data length sendLen (.accepted k)) sessionId ∨
      Draining n (s.sendBuffered sessionId data length sendLen (.accepted k)) sessionId ∧
        sendsLeft (s.sendBuffered sessionId data length sendLen (.accepted k)) < sendsLeft s := by
  have hpos := h.pos
  have htotal := h.total
  unfold SlaveReactor.sendBuffered
  dsimp only
  rw [if_neg (show ¬ sendLen + k < length by omega), h.represents.decreaseUsedSpace_reject hn hover]
  generalize hs₁ : s.setSession sessionId _ = s₁
  have hrunning : s₁.aborted = false := hs₁ ▸ h.running
  have hbuffer : (s₁.sessions sessionId).m_writeBuffer = (s.sessions sessionId).m_writeBuffer := by
    rw [← hs₁, s.setSession_sessions_self]
  rcases nextPiece_cases hn hrunning (hbuffer ▸ h.represents) (hbuffer ▸ h.inside) with
    hdrained | ⟨data', hnext⟩
  · exact .inl hdrained
  · refine .inr ⟨⟨_, _, _, _, hnext⟩, ?_⟩
    rw [hnext.sendsLeft_eq hn, h.sendsLeft_eq hn]
    omega

/-- New bytes leave the buffer; the inner loop goes on if some of the piece are left. -/
theorem InDrain.accepted_new (hn : n < 2 ^ 31) (h : InDrain n s sessionId data length sendLen q)
    (hone : 1 ≤ k) (hnew : k ≤ q.length) :
    Drained n (s.sendBuffered sessionId data length sendLen (.accepted k)) sessionId ∨
      Draining n (s.sendBuffered sessionId data length sendLen (.accepted k)) sessionId ∧
        sendsLeft (s.sendBuffered sessionId data length sendLen (.accepted k)) < sendsLeft s := by
  have hpos := h.pos
  have htotal := h.total
  have hinside := h.inside
  obtain ⟨rb, hdecrease, hrep⟩ := h.represents.decreaseUsedSpace_spec hn hnew
  have hdrop : (q.drop k).length = q.length - k := List.length_drop
  unfold SlaveReactor.sendBuffered
  dsimp only
  rw [hdecrease]
  generalize hs₁ : s.setSession sessionId _ = s₁
  have hrunning : s₁.aborted = false := hs₁ ▸ h.running
  have hbuffer : (s₁.sessions sessionId).m_writeBuffer = rb := by
    rw [← hs₁, s.setSession_sessions_self]
  by_cases hmore : k < q.length
  · have hstart := decreaseUsedSpace_start hn h.represents hinside hmore
    rw [hdecrease] at hstart
    rw [if_pos (show sendLen + k < length by omega)]
    have hnext : InDrain n { s₁ with sending := some (sessionId, .buffered data length (sendLen + k)) }
        sessionId data length (sendLen + k) (q.drop k) := by
      refine ⟨hrunning, rfl, hbuffer ▸ hrep, ?_, by omega, by omega⟩
      show (s₁.sessions sessionId).m_writeBuffer.m_startOffset + _ < n
      rw [hbuffer, hstart]
      omega
    refine .inr ⟨⟨_, _, _, _, hnext⟩, ?_⟩
    rw [hnext.sendsLeft_eq hn, h.sendsLeft_eq hn]
    omega
  · -- nothing is left to send
    have hnil : q.drop k = [] := List.length_eq_zero_iff.mp (by omega)
    rw [hnil] at hrep
    rw [if_neg (show ¬ sendLen + k < length by omega)]
    have hlt : (s₁.sessions sessionId).m_writeBuffer.m_startOffset + ([] : List Byte).length < n := by
      rw [hbuffer, hrep.reset rfl, List.length_nil]
      omega
    rcases nextPiece_cases hn hrunning (hbuffer ▸ hrep) hlt with hdrained | ⟨data', hnext⟩
    · exact .inl hdrained
    · exact absurd hnext.pos (Nat.lt_irrefl 0)

/-- **A successful send** drains the buffer, or lowers the measure. -/
theorem InDrain.accepted (hn : n < 2 ^ 31) (h : InDrain n s sessionId data length sendLen q)
    (hone : 1 ≤ k) (hk : k ≤ length) :
    Drained n (s.sendBuffered sessionId data length sendLen (.accepted k)) sessionId ∨
      Draining n (s.sendBuffered sessionId data length sendLen (.accepted k)) sessionId ∧
        sendsLeft (s.sendBuffered sessionId data length sendLen (.accepted k)) < sendsLeft s := by
  rcases Nat.lt_or_ge q.length k with hover | hnew
  · exact h.accepted_again hn hk hover
  · exact h.accepted_new hn hone hnew

/-- **A failed send** leaves the thread where it is. -/
theorem InDrain.failed (h : InDrain n s sessionId data length sendLen q) (errno : Errno) :
    InDrain n (s.sendBuffered sessionId data length sendLen (.failed errno)) sessionId data length sendLen
      q := by
  have hgone : InDrain n (s.sendBuffered sessionId data length sendLen (.failed .EPIPE)) sessionId data
      length sendLen q := by
    have hbuffer : ((s.sendBuffered sessionId data length sendLen (.failed .EPIPE)).sessions
        sessionId).m_writeBuffer = (s.sessions sessionId).m_writeBuffer := by
      show Sender.m_writeBuffer ((s.setSession _ _).sessions _) = _
      rw [s.setSession_sessions_self]
    exact ⟨h.running, h.sending, hbuffer ▸ h.represents, hbuffer ▸ h.inside, h.pos, h.total⟩
  cases errno with
  | EAGAIN => exact h
  | EWOULDBLOCK => exact h
  | ECONNRESET => exact hgone
  | EPIPE => exact hgone
  | other code => exact h

/-! ### Reachable write buffers -/

/-- The write buffer of the session suits the place where the thread stands. -/
def FrontedAt (n : ℕ) (s : SlaveReactor) (sessionId : SessionId) : Prop :=
  Fronted n (s.sessions sessionId).m_writeBuffer (s.loop sessionId)

theorem Drained.frontedAt (h : Drained n s sessionId) : FrontedAt n s sessionId := by
  unfold FrontedAt
  rw [SlaveReactor.loop_of_idle h.sending]
  exact ⟨[], h.represents, h.represents.reset rfl⟩

theorem Draining.frontedAt (h : Draining n s sessionId) : FrontedAt n s sessionId := by
  obtain ⟨data, length, sendLen, q, h⟩ := h
  unfold FrontedAt
  rw [SlaveReactor.loop_of_current h.sending]
  exact ⟨q, h.represents, h.inside, h.pos, h.total⟩

theorem FrontedAt.inDrain (h : FrontedAt n s sessionId) (hrunning : s.aborted = false)
    (hsending : s.sending = some (sessionId, .buffered data length sendLen)) :
    ∃ q, InDrain n s sessionId data length sendLen q := by
  unfold FrontedAt at h
  rw [SlaveReactor.loop_of_current hsending] at h
  obtain ⟨q, hrep, hinside, hpos, htotal⟩ := h
  exact ⟨q, hrunning, hsending, hrep, hinside, hpos, htotal⟩

theorem continueDirect_frontedAt {message : List Byte}
    (hrep : (s.sessions sessionId).m_writeBuffer.Represents n []) :
    FrontedAt n (s.continueDirect sessionId message sendLen) sessionId := by
  unfold FrontedAt SlaveReactor.continueDirect SlaveReactor.loop
  split
  · show Fronted n _ (if sessionId = sessionId then _ else _)
    rw [if_pos rfl]
    exact hrep
  · exact ⟨[], hrep, hrep.reset rfl⟩

theorem handleSend_frontedAt (hn : n < 2 ^ 31) {task : SendTask} (hidle : s.sending = none)
    (h : FrontedAt n s task.sessionId) (hrunning : (s.handleSend task).aborted = false) :
    FrontedAt n (s.handleSend task) task.sessionId := by
  have hloop := SlaveReactor.loop_of_idle hidle task.sessionId
  have hfronted := h
  unfold FrontedAt at hfronted
  rw [hloop] at hfronted
  obtain ⟨q, hrep, hstart⟩ := hfronted
  have hfits : q.length + 2 ≤ n := hrep.fits
  unfold SlaveReactor.handleSend at hrunning ⊢
  simp only [hrep.dataLength_eq hn, hrep.space_eq hn] at hrunning ⊢
  split
  · exact h
  split
  · split
    · exact h
    · next hspace =>
      obtain ⟨writeBuffer, hwrite, hrep', hstart'⟩ :=
        buffer_accepted hn hrep (show q.length + task.data.length ≤ n - 2 by omega)
      simp only [hwrite]
      show Fronted n ((s.setSession _ _).sessions _).m_writeBuffer (s.loop _)
      rw [s.setSession_sessions_self, hloop]
      exact ⟨_, hrep', hstart'.trans hstart⟩
  · next hempty =>
    obtain rfl : q = [] := List.length_eq_zero_iff.mp (not_not.mp hempty)
    apply continueDirect_frontedAt
    rw [s.setSession_sessions_self]
    exact hrep

theorem sendDirect_frontedAt (hn : n < 2 ^ 31) {message : List Byte} {result : SendResult}
    (hrep : (s.sessions sessionId).m_writeBuffer.Represents n [])
    (hrunning : (s.sendDirect sessionId message sendLen result).aborted = false) :
    FrontedAt n (s.sendDirect sessionId message sendLen result) sessionId := by
  have hbuffer : (s.sendDirect sessionId message sendLen (.failed .EAGAIN)).aborted = false →
      FrontedAt n (s.sendDirect sessionId message sendLen (.failed .EAGAIN)) sessionId := by
    intro hrunning
    unfold SlaveReactor.sendDirect at hrunning ⊢
    rcases Nat.lt_or_ge (n - 2) (message.drop sendLen).length with hbig | hsmall
    · simp only [hrep.writeData_reject hn hbig] at hrunning
      cases hrunning
    · obtain ⟨writeBuffer, hwrite, hrep', hstart'⟩ :=
        buffer_accepted hn hrep (show ([] : List Byte).length + (message.drop sendLen).length ≤ n - 2 by
          simpa using hsmall)
      simp only [hwrite]
      show Fronted n ((s.setSession _ _).sessions _).m_writeBuffer none
      rw [s.setSession_sessions_self]
      exact ⟨_, hrep', hstart'.trans (hrep.reset rfl)⟩
  have hgone : FrontedAt n (s.sendDirect sessionId message sendLen (.failed .EPIPE)) sessionId := by
    show Fronted n ((s.setSession _ _).sessions _).m_writeBuffer none
    rw [s.setSession_sessions_self]
    exact ⟨[], hrep, hrep.reset rfl⟩
  cases result with
  | accepted k =>
    apply continueDirect_frontedAt
    rw [s.setSession_sessions_self]
    exact hrep
  | failed errno =>
    cases errno with
    | EAGAIN => exact hbuffer hrunning
    | EWOULDBLOCK => exact hbuffer hrunning
    | ECONNRESET => exact hgone
    | EPIPE => exact hgone
    | other code => exact ⟨[], hrep, hrep.reset rfl⟩

/-- An event of a session that is not being disconnected, with bytes to send, enters the branch. -/
theorem handleEpollOut_draining (hn : n < 2 ^ 31) (hrunning : s.aborted = false)
    (hidle : s.sending = none) (h : FrontedAt n s sessionId)
    (hwaiting : (s.sessions sessionId).m_isWaitingDisconnect = false)
    (hdata : (s.sessions sessionId).m_writeBuffer.dataLength ≠ 0) :
    ∃ data q, InDrain n (s.handleEpollOut sessionId) sessionId data q.length 0 q ∧
      q.length = (s.sessions sessionId).m_writeBuffer.dataLength := by
  unfold FrontedAt at h
  rw [SlaveReactor.loop_of_idle hidle] at h
  obtain ⟨q, hrep, hstart⟩ := h
  have hfits : q.length + 2 ≤ n := hrep.fits
  have hlength := hrep.dataLength_eq hn
  unfold SlaveReactor.handleEpollOut
  dsimp only
  rw [if_neg (by rw [hwaiting]; decide), if_neg hdata]
  rcases nextPiece_cases hn hrunning hrep (by omega) with hdrained | ⟨data, hnext⟩
  · -- nothing would be buffered
    have hempty := hdrained.represents.dataLength_eq hn
    have hsame : (s.nextPiece sessionId).sessions = s.sessions := by
      unfold SlaveReactor.nextPiece
      dsimp only
      split
      · split
        · rfl
        · rfl
      · rfl
    rw [hsame] at hempty
    exact absurd hempty hdata
  · exact ⟨data, q, hnext, hlength.symm⟩

theorem handleEpollOut_frontedAt (hn : n < 2 ^ 31) (hrunning : s.aborted = false)
    (hidle : s.sending = none) (h : FrontedAt n s sessionId)
    (hafter : (s.handleEpollOut sessionId).aborted = false) :
    FrontedAt n (s.handleEpollOut sessionId) sessionId := by
  cases hwaiting : (s.sessions sessionId).m_isWaitingDisconnect with
  | true =>
    unfold SlaveReactor.handleEpollOut
    dsimp only
    rw [if_pos hwaiting]
    exact h
  | false =>
    by_cases hdata : (s.sessions sessionId).m_writeBuffer.dataLength = 0
    · unfold SlaveReactor.handleEpollOut at hafter
      dsimp only at hafter
      rw [if_neg (by rw [hwaiting]; decide), if_pos hdata] at hafter
      cases hafter
    · obtain ⟨data, q, hdrain, -⟩ := handleEpollOut_draining hn hrunning hidle h hwaiting hdata
      exact Draining.frontedAt ⟨_, _, _, _, hdrain⟩

theorem sendBuffered_frontedAt (hn : n < 2 ^ 31) (h : InDrain n s sessionId data length sendLen q)
    {result : SendResult} (hpossible : SlaveReactor.Possible length result) :
    FrontedAt n (s.sendBuffered sessionId data length sendLen result) sessionId := by
  cases result with
  | accepted k =>
    rcases h.accepted hn hpossible.1 hpossible.2 with hdrained | ⟨hdraining, -⟩
    · exact hdrained.frontedAt
    · exact hdraining.frontedAt
  | failed errno => exact Draining.frontedAt ⟨_, _, _, _, h.failed errno⟩

/-- What the steps of one session's loops leave of the others. -/
theorem FrontedAt.local (h : FrontedAt n s sessionId) {current : SessionId}
    (hbefore : LocalTo current s s) (hafter : LocalTo current s s')
    (hown : current = sessionId → FrontedAt n s' sessionId) : FrontedAt n s' sessionId := by
  by_cases hcurrent : current = sessionId
  · exact hown hcurrent
  · have hother : sessionId ≠ current := fun he => hcurrent he.symm
    unfold FrontedAt at h ⊢
    rw [hafter.sessions _ hother, hafter.loop _ hother]
    rwa [hbefore.loop _ hother] at h

/-- **Step lemma**, for whatever the kernel answers. -/
theorem frontedAt_step (hn : n < 2 ^ 31) (h : FrontedAt n s sessionId) {event : ReactorEvent}
    (hstep : s.step event = some s') (hafter : s'.aborted = false) : FrontedAt n s' sessionId := by
  unfold SlaveReactor.step at hstep
  split at hstep
  · cases hstep
  next haborted =>
  have hrunning : s.aborted = false := by simpa using haborted
  cases event with
  | sendData current message =>
    cases hstep
    unfold SlaveReactor.sendData
    split
    · exact h
    split
    · exact h
    · exact h
  | setWaitingDisconnect current =>
    cases hstep
    by_cases hcurrent : current = sessionId
    · subst hcurrent
      unfold FrontedAt
      rw [s.setSession_sessions_self]
      exact h
    · unfold FrontedAt
      rw [s.setSession_sessions_ne _ fun he => hcurrent he.symm]
      exact h
  | swapTasks =>
    obtain ⟨-, hs'⟩ := Option.ite_none_right_eq_some.mp hstep
    cases hs'
    exact h
  | handleSend =>
    dsimp only at hstep
    split at hstep
    · next task tasks hidle htasks =>
      cases hstep
      have hbefore : LocalTo task.sessionId { s with sendTasks := tasks }
        { s with sendTasks := tasks } := .of_idle hidle
      have hnext : FrontedAt n { s with sendTasks := tasks } sessionId := h
      refine hnext.local hbefore hbefore.handleSend fun hcurrent => ?_
      subst hcurrent
      exact handleSend_frontedAt hn hidle hnext hafter
    · cases hstep
  | epollOut current =>
    obtain ⟨⟨hidle, -⟩, hs'⟩ := Option.ite_none_right_eq_some.mp hstep
    cases hs'
    have hbefore : LocalTo current s s := .of_idle hidle
    refine h.local hbefore hbefore.handleEpollOut fun hcurrent => ?_
    subst hcurrent
    exact handleEpollOut_frontedAt hn hrunning hidle h hafter
  | send result =>
    dsimp only at hstep
    split at hstep
    · next current message sendLen hcurrent =>
      obtain ⟨-, hs'⟩ := Option.ite_none_right_eq_some.mp hstep
      cases hs'
      have hbefore : LocalTo current s s := .of_current hcurrent
      refine h.local hbefore (hbefore.sendDirect _ _ _) fun hself => ?_
      subst hself
      unfold FrontedAt at h
      rw [SlaveReactor.loop_of_current hcurrent] at h
      exact sendDirect_frontedAt hn h hafter
    · next current data length sendLen hcurrent =>
      obtain ⟨⟨-, hpossible⟩, hs'⟩ := Option.ite_none_right_eq_some.mp hstep
      cases hs'
      have hbefore : LocalTo current s s := .of_current hcurrent
      refine h.local hbefore (hbefore.sendBuffered _ _ _ _) fun hself => ?_
      subst hself
      obtain ⟨q, hdrain⟩ := h.inDrain hrunning hcurrent
      exact sendBuffered_frontedAt hn hdrain hpossible
    · cases hstep

/-- Nothing happens after a failed assertion. -/
theorem running_of_step {event : ReactorEvent} (hstep : (slaveReactor n).step s event = some s') :
    s.aborted = false := by
  change s.step event = some s' at hstep
  unfold SlaveReactor.step at hstep
  split at hstep
  · cases hstep
  · next haborted => simpa using haborted

theorem frontedAt_of_reachable (sessionId : SessionId) (htwo : 2 ≤ n) (hn : n < 2 ^ 31)
    (h : (slaveReactor n).Reachable s) (hrunning : s.aborted = false) : FrontedAt n s sessionId := by
  have hinv : s.aborted = false → FrontedAt n s sessionId := by
    refine h.invariant (I := fun s => s.aborted = false → FrontedAt n s sessionId) ?_ ?_
    · intro s hs _
      cases hs
      exact ⟨[], .new htwo, rfl⟩
    · intro s event s' hs _ hstep hafter
      exact frontedAt_step hn (hs (running_of_step hstep)) hstep hafter
  exact hinv hrunning

/-! ### The calls of one event -/

theorem InDrain.step_eq (h : InDrain n s sessionId data length sendLen q) {result : SendResult}
    (hpossible : SlaveReactor.Possible length result) :
    (slaveReactor n).step s (.send result) =
      some (s.sendBuffered sessionId data length sendLen result) := by
  have hpos := h.pos
  have htotal := h.total
  show s.step (.send result) = _
  unfold SlaveReactor.step
  rw [if_neg (by rw [h.running]; decide)]
  simp only [h.sending]
  exact if_pos ⟨by omega, hpossible⟩

theorem step_send_of_idle (hidle : s.sending = none) (result : SendResult) :
    (slaveReactor n).step s (.send result) = none := by
  show s.step (.send result) = none
  unfold SlaveReactor.step
  split
  · rfl
  · simp only [hidle]

/-- A call either takes the thread out of the branch or leaves it in there. -/
theorem Draining.step (hn : n < 2 ^ 31) (h : Draining n s sessionId) {result : SendResult}
    (hstep : (slaveReactor n).step s (.send result) = some s') :
    Drained n s' sessionId ∨ Draining n s' sessionId := by
  obtain ⟨data, length, sendLen, q, h⟩ := h
  have hpossible : SlaveReactor.Possible length result := by
    change s.step (.send result) = some s' at hstep
    unfold SlaveReactor.step at hstep
    rw [if_neg (by rw [h.running]; decide)] at hstep
    simp only [h.sending] at hstep
    exact (Option.ite_none_right_eq_some.mp hstep).1.2
  rw [h.step_eq hpossible] at hstep
  cases hstep
  cases result with
  | accepted k => exact (h.accepted hn hpossible.1 hpossible.2).imp_right And.left
  | failed errno => exact .inr ⟨_, _, _, _, h.failed errno⟩

/-- An event is handled by a thread that runs and is in no loop. -/
theorem epollOut_cases (hstep : (slaveReactor n).step s (.epollOut sessionId) = some s') :
    s.aborted = false ∧ s.sending = none ∧ s' = s.handleEpollOut sessionId := by
  change s.step (.epollOut sessionId) = some s' at hstep
  unfold SlaveReactor.step at hstep
  split at hstep
  · cases hstep
  · next haborted =>
    obtain ⟨⟨hidle, -⟩, heq⟩ := Option.ite_none_right_eq_some.mp hstep
    cases heq
    exact ⟨by simpa using haborted, hidle, rfl⟩

/-- A session that waits for its end is skipped. -/
theorem handleEpollOut_waiting (hwaiting : (s.sessions sessionId).m_isWaitingDisconnect = true) :
    s.handleEpollOut sessionId = s := by
  unfold SlaveReactor.handleEpollOut
  dsimp only
  rw [if_pos hwaiting]

/-- The first `k` calls of an event, with the outcomes `results`. -/
def sends (results : ℕ → SendResult) (k : ℕ) : List ReactorEvent :=
  (List.range k).map fun i => .send (results i)

theorem run_sends_succ (results : ℕ → SendResult) (k : ℕ) :
    (slaveReactor n).run s (sends results (k + 1)) =
      ((slaveReactor n).run s (sends results k)).bind fun s' =>
        (slaveReactor n).step s' (.send (results k)) := by
  rw [sends, List.range_succ, List.map_append, TransitionSystem.run_append]
  refine congrArg _ (funext fun s' => ?_)
  simp only [List.map_singleton, TransitionSystem.run]
  exact Option.bind_fun_some _

/-- What the kernel answers in one event that begins in the state `s`: every count is between `1` and the
length asked for, and once a call has failed the later ones fail too. -/
structure Answers (n : ℕ) (s : SlaveReactor) (results : ℕ → SendResult) : Prop where
  possible : ∀ k s' sessionId data length sendLen,
    (slaveReactor n).run s (sends results k) = some s' →
      s'.sending = some (sessionId, .buffered data length sendLen) →
        SlaveReactor.Possible length (results k)
  persistent : ∀ i j errno, i ≤ j → results i = .failed errno → ∃ errno', results j = .failed errno'

section Event

variable {results : ℕ → SendResult}

/-- During the event the thread is in the branch, or it has left all loops. -/
theorem draining_of_run (hn : n < 2 ^ 31) (hstart : s.sending ≠ none → Draining n s sessionId)
    (hrun : (slaveReactor n).run s (sends results k) = some s') (hsending : s'.sending ≠ none) :
    Draining n s' sessionId := by
  induction k generalizing s' with
  | zero =>
    cases hrun
    exact hstart hsending
  | succ k ih =>
    rw [run_sends_succ, Option.bind_eq_some_iff] at hrun
    obtain ⟨mid, hmid, hstep⟩ := hrun
    by_cases hidle : mid.sending = none
    · rw [step_send_of_idle hidle] at hstep
      cases hstep
    · rcases (ih hmid hidle).step hn hstep with hdrained | hdraining
      · exact absurd hdrained.sending hsending
      · exact hdraining

/-- Nothing is called once the loops are left. -/
theorem run_le_of_left {k₀ : ℕ} {s₀ : SlaveReactor}
    (hleft : (slaveReactor n).run s (sends results k₀) = some s₀) (hidle : s₀.sending = none)
    (hrun : (slaveReactor n).run s (sends results k) = some s') : k ≤ k₀ := by
  by_contra hlt
  obtain ⟨j, rfl⟩ := Nat.exists_eq_add_of_lt (Nat.not_le.mp hlt)
  clear hlt
  induction j generalizing s' with
  | zero =>
    rw [Nat.add_zero, run_sends_succ, hleft, Option.bind_some, step_send_of_idle hidle] at hrun
    cases hrun
  | succ j ih =>
    rw [run_sends_succ, Option.bind_eq_some_iff] at hrun
    obtain ⟨mid, hmid, -⟩ := hrun
    exact ih hmid

/-- **Spinning.**  From a call that fails on, the thread never leaves the branch. -/
theorem spins_of_failed (hresults : Answers n s results) {errno : Errno}
    (hfailed : results k = .failed errno) (hrun : (slaveReactor n).run s (sends results k) = some s')
    (hdraining : Draining n s' sessionId) (j : ℕ) :
    ∃ s'', (slaveReactor n).run s (sends results (k + j)) = some s'' ∧ Draining n s'' sessionId := by
  induction j with
  | zero => exact ⟨s', hrun, hdraining⟩
  | succ j ih =>
    obtain ⟨mid, hmid, data, length, sendLen, q, hdrain⟩ := ih
    obtain ⟨errno', hj⟩ := hresults.persistent k (k + j) errno (Nat.le_add_right k j) hfailed
    refine ⟨_, ?_, _, _, _, _, hdrain.failed errno'⟩
    show (slaveReactor n).run s (sends results (k + j + 1)) = _
    rw [run_sends_succ, hmid, Option.bind_some, hj]
    exact hdrain.step_eq trivial

/-- **Draining.**  As long as the calls succeed, the event is over after as many as the measure says. -/
theorem drains_of_accepted (hn : n < 2 ^ 31) (hresults : Answers n s results)
    (hall : ∀ k s', (slaveReactor n).run s (sends results k) = some s' → s'.sending ≠ none →
      ∃ m, results k = .accepted m) (bound : ℕ)
    (hrun : (slaveReactor n).run s (sends results k) = some s') (hdraining : Draining n s' sessionId)
    (hbound : sendsLeft s' ≤ bound) :
    ∃ j ≤ bound, ∃ s'', (slaveReactor n).run s (sends results (k + j)) = some s'' ∧
      Drained n s'' sessionId := by
  induction bound generalizing k s' with
  | zero =>
    obtain ⟨data, length, sendLen, q, hdrain⟩ := hdraining
    have hpos := hdrain.pos
    rw [hdrain.sendsLeft_eq hn] at hbound
    omega
  | succ bound ih =>
    obtain ⟨data, length, sendLen, q, hdrain⟩ := hdraining
    obtain ⟨m, hm⟩ := hall k s' hrun (by rw [hdrain.sending]; nofun)
    have hpossible := hresults.possible k s' _ _ _ _ hrun hdrain.sending
    rw [hm] at hpossible
    have hnext : (slaveReactor n).run s (sends results (k + 1)) =
        some (s'.sendBuffered sessionId data length sendLen (.accepted m)) := by
      rw [run_sends_succ, hrun, Option.bind_some, hm]
      exact hdrain.step_eq hpossible
    rcases hdrain.accepted hn hpossible.1 hpossible.2 with hdrained | ⟨hdraining, hless⟩
    · exact ⟨1, Nat.le_add_left 1 bound, _, hnext, hdrained⟩
    · obtain ⟨j, hj, s'', hlater, hdrained⟩ := ih hnext hdraining (by omega)
      refine ⟨j + 1, by omega, s'', ?_, hdrained⟩
      rw [show k + (j + 1) = k + 1 + j by omega]
      exact hlater

end Event

end Session

/-- After `k` calls of `send` the thread is out of the branch. -/
def LeavesAfter (s₁ : SlaveReactor) (results : ℕ → SendResult) (k : ℕ) : Prop :=
  ∃ s', (slaveReactor c_p2pSessionWriteBufferSize).run s₁ (sends results k) = some s' ∧
    s'.aborted = false ∧ s'.sending = none

/-- **The drain loop.**  An `EPOLLOUT` event of a reachable reactor, with bytes in the session's write buffer:
the thread leaves the branch, sooner or later, **if and only if** no call made while it is in there fails; and
when it leaves, it has done so after at most two calls of `send` a byte. -/
theorem drain_leaves_iff (s s₁ : SlaveReactor) (sessionId : SessionId)
    (h : (slaveReactor c_p2pSessionWriteBufferSize).Reachable s)
    (hdata : (s.sessions sessionId).m_writeBuffer.dataLength ≠ 0)
    (hevent : (slaveReactor c_p2pSessionWriteBufferSize).step s (.epollOut sessionId) = some s₁)
    (results : ℕ → SendResult) (hresults : Answers c_p2pSessionWriteBufferSize s₁ results) :
    ((∃ k, LeavesAfter s₁ results k) ↔
      ∀ k s', (slaveReactor c_p2pSessionWriteBufferSize).run s₁ (sends results k) = some s' →
        s'.sending ≠ none → ∃ m, results k = .accepted m) ∧
    ((∃ k, LeavesAfter s₁ results k) →
      ∃ k ≤ 2 * (s.sessions sessionId).m_writeBuffer.dataLength, LeavesAfter s₁ results k) := by
  have hn : c_p2pSessionWriteBufferSize < 2 ^ 31 := by decide
  obtain ⟨hrunning, hidle, rfl⟩ := epollOut_cases hevent
  have hfronted := frontedAt_of_reachable sessionId (by decide) hn h hrunning
  cases hwaiting : (s.sessions sessionId).m_isWaitingDisconnect with
  | true =>
    -- there is no call at all
    rw [handleEpollOut_waiting hwaiting]
    have hleaves : LeavesAfter s results 0 := ⟨s, rfl, hrunning, hidle⟩
    refine ⟨⟨fun _ k s' hrun hsending => ?_, fun _ => ⟨0, hleaves⟩⟩, fun _ => ⟨0, Nat.zero_le _, hleaves⟩⟩
    have hleft : (slaveReactor c_p2pSessionWriteBufferSize).run s (sends results 0) = some s := rfl
    have hk : k = 0 := Nat.le_zero.mp (run_le_of_left hleft hidle hrun)
    subst hk
    cases hrun
    exact absurd hidle hsending
  | false =>
    obtain ⟨data, q, hdrain, hlength⟩ :=
      handleEpollOut_draining hn hrunning hidle hfronted hwaiting hdata
    have hdraining : Draining c_p2pSessionWriteBufferSize (s.handleEpollOut sessionId) sessionId :=
      ⟨_, _, _, _, hdrain⟩
    -- a call that fails keeps the thread in the branch for good
    have haccepted : (∃ k, LeavesAfter (s.handleEpollOut sessionId) results k) → ∀ k s',
        (slaveReactor c_p2pSessionWriteBufferSize).run (s.handleEpollOut sessionId) (sends results k) =
          some s' → s'.sending ≠ none → ∃ m, results k = .accepted m := by
      rintro ⟨k₀, s₀, hleft, -, hidle₀⟩ k s' hrun hsending
      cases hresult : results k with
      | accepted m => exact ⟨m, rfl⟩
      | failed errno =>
        have hk := run_le_of_left hleft hidle₀ hrun
        obtain ⟨s'', hrun'', data', length', sendLen', q', hspin⟩ := spins_of_failed hresults hresult hrun
          (draining_of_run hn (fun _ => hdraining) hrun hsending) (k₀ - k)
        rw [Nat.add_sub_cancel' hk, hleft] at hrun''
        cases hrun''
        rw [hspin.sending] at hidle₀
        cases hidle₀
    have hbounded : (∀ k s', (slaveReactor c_p2pSessionWriteBufferSize).run (s.handleEpollOut sessionId)
        (sends results k) = some s' → s'.sending ≠ none → ∃ m, results k = .accepted m) →
        ∃ k ≤ 2 * (s.sessions sessionId).m_writeBuffer.dataLength,
          LeavesAfter (s.handleEpollOut sessionId) results k := by
      intro hall
      have hstart : (slaveReactor c_p2pSessionWriteBufferSize).run (s.handleEpollOut sessionId)
          (sends results 0) = some (s.handleEpollOut sessionId) := rfl
      have hmeasure : sendsLeft (s.handleEpollOut sessionId) ≤
          2 * (s.sessions sessionId).m_writeBuffer.dataLength := by
        rw [hdrain.sendsLeft_eq hn, hlength]
        omega
      obtain ⟨j, hj, s', hrun, hdrained⟩ :=
        drains_of_accepted hn hresults hall _ hstart hdraining hmeasure
      rw [Nat.zero_add] at hrun
      exact ⟨j, hj, s', hrun, hdrained.running, hdrained.sending⟩
    refine ⟨⟨haccepted, fun hall => ?_⟩, fun hleaves => hbounded (haccepted hleaves)⟩
    obtain ⟨k, -, hleaves⟩ := hbounded hall
    exact ⟨k, hleaves⟩

/-- The kernel takes one byte of three, and the other two are buffered. -/
def leaveTwo : List ReactorEvent :=
  [.sendData 0 [1, 2, 3], .swapTasks, .handleSend, .send (.accepted 1), .send (.failed .EAGAIN)]

/-- The state it leaves, and the event that follows. -/
theorem leaveTwo_draining : ∃ s s₁, (slaveReactor c_p2pSessionWriteBufferSize).Reachable s ∧
    (s.sessions 0).m_writeBuffer.dataLength = 2 ∧
    (slaveReactor c_p2pSessionWriteBufferSize).step s (.epollOut 0) = some s₁ ∧
    Draining c_p2pSessionWriteBufferSize s₁ 0 := by
  have hrun : ((slaveReactor c_p2pSessionWriteBufferSize).run (.start c_p2pSessionWriteBufferSize)
      leaveTwo).map (fun s => ((s.sessions 0).m_writeBuffer.dataLength,
        (s.sessions 0).m_isWaitingDisconnect, s.aborted, decide (s.sending = none ∧ s.sendTasks = []))) =
      some (2, false, false, true) := by
    decide
  obtain ⟨s, hs, hobserved⟩ := Option.map_eq_some_iff.mp hrun
  simp only [Prod.mk.injEq, decide_eq_true_eq] at hobserved
  obtain ⟨hlength, hwaiting, hrunning, hidle⟩ := hobserved
  have hreachable : (slaveReactor c_p2pSessionWriteBufferSize).Reachable s := .of_run (.init rfl) hs
  have hfronted := frontedAt_of_reachable 0 (by decide) (by decide) hreachable hrunning
  obtain ⟨data, q, hdrain, -⟩ := handleEpollOut_draining (by decide) hrunning hidle.1 hfronted hwaiting
    (by rw [hlength]; decide)
  refine ⟨s, _, hreachable, hlength, ?_, _, _, _, _, hdrain⟩
  show s.step (.epollOut 0) = some (s.handleEpollOut 0)
  unfold SlaveReactor.step
  rw [if_neg (by rw [hrunning]; decide)]
  exact if_pos hidle

/-- The kernel takes the two bytes one by one. -/
theorem drain_leaves_iff_bytewise : ∃ s s₁, (slaveReactor c_p2pSessionWriteBufferSize).Reachable s ∧
    (slaveReactor c_p2pSessionWriteBufferSize).step s (.epollOut 0) = some s₁ ∧
    ∃ k ≤ 2 * (s.sessions 0).m_writeBuffer.dataLength, LeavesAfter s₁ (fun _ => .accepted 1) k := by
  obtain ⟨s, s₁, hreachable, hlength, hstep, hdraining⟩ := leaveTwo_draining
  have hanswers : Answers c_p2pSessionWriteBufferSize s₁ fun _ => .accepted 1 := by
    refine ⟨fun k s' sessionId data length sendLen hrun hsending => ⟨Nat.le_refl 1, ?_⟩, fun _ _ _ _ => nofun⟩
    obtain ⟨_, _, _, _, hdrain⟩ :=
      draining_of_run (by decide) (fun _ => hdraining) hrun (by rw [hsending]; nofun)
    have hpos := hdrain.pos
    have htotal := hdrain.total
    cases hdrain.sending.symm.trans hsending
    omega
  obtain ⟨hiff, hbound⟩ :=
    drain_leaves_iff s s₁ 0 hreachable (by rw [hlength]; decide) hstep _ hanswers
  exact ⟨s, s₁, hreachable, hstep, hbound (hiff.mpr fun _ _ _ _ => ⟨1, rfl⟩)⟩

/-- **The reactor spins.**  The socket is not writable any more: every call fails with `EAGAIN`, and whatever
the number of calls, the thread is still in the branch. -/
theorem drain_spins : ∃ s s₁, (slaveReactor c_p2pSessionWriteBufferSize).Reachable s ∧
    (s.sessions 0).m_writeBuffer.dataLength = 2 ∧
    (slaveReactor c_p2pSessionWriteBufferSize).step s (.epollOut 0) = some s₁ ∧
    Answers c_p2pSessionWriteBufferSize s₁ (fun _ => .failed .EAGAIN) ∧
    ∀ k, ∃ s', (slaveReactor c_p2pSessionWriteBufferSize).run s₁
      (sends (fun _ => .failed .EAGAIN) k) = some s' ∧ s'.sending ≠ none := by
  obtain ⟨s, s₁, hreachable, hlength, hstep, hdraining⟩ := leaveTwo_draining
  have hanswers : Answers c_p2pSessionWriteBufferSize s₁ fun _ => .failed .EAGAIN :=
    ⟨fun _ _ _ _ _ _ _ _ => trivial, fun _ _ errno _ _ => ⟨.EAGAIN, rfl⟩⟩
  refine ⟨s, s₁, hreachable, hlength, hstep, hanswers, fun k => ?_⟩
  obtain ⟨s', hrun, _, _, _, _, hdrain⟩ := spins_of_failed (k := 0) hanswers rfl rfl hdraining k
  rw [Nat.zero_add] at hrun
  exact ⟨s', hrun, by rw [hdrain.sending]; nofun⟩

end DistributedNetwork.Sending
