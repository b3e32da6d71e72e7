import DistributedNetwork.Buffer.Layout
import DistributedNetwork.Sending.SlaveReactor

/-!
# The stream a session sends

The bytes that the kernel takes from a session ought to be the session's messages, one after the
other.

* `Undisrupted` — the run condition of one session: a `send` of the `EPOLLOUT` branch succeeds only
  where nothing of the piece has been taken yet, and `handleSend` sees no error but the four it knows;
* `sendStream_prefix` — under it the accepted bytes are a **prefix** of the messages, whatever the
  other sessions do;
* `sendStream_broken` — a second success within a piece sends its first bytes again, and an unknown
  error cuts a message short.
-/

namespace DistributedNetwork.Sending

open DistributedNetwork.Buffer DistributedNetwork.Library

/-- The run condition for a session. -/
def Undisrupted (sessionId : SessionId) (s : SlaveReactor) : ReactorEvent → Prop
  | .send (.accepted _) => ∀ data length sendLen,
      s.sending = some (sessionId, .buffered data length sendLen) → sendLen = 0
  | .send (.failed errno) => ∀ data sendLen,
      s.sending = some (sessionId, .direct data sendLen) → ∀ code, errno ≠ .other code
  | _ => True

/-- Where the reactor stands in the session's loops. -/
def SlaveReactor.loop (s : SlaveReactor) (sessionId : SessionId) : Option Loop :=
  match s.sending with
  | some (current, loop) => if current = sessionId then some loop else none
  | none => none

theorem SlaveReactor.setSession_sessions_self (s : SlaveReactor) (sessionId : SessionId)
    (session : Sender) : (s.setSession sessionId session).sessions sessionId = session :=
  Function.update_self ..

theorem SlaveReactor.setSession_sessions_ne (s : SlaveReactor) {sessionId other : SessionId}
    (session : Sender) (hother : other ≠ sessionId) :
    (s.setSession sessionId session).sessions other = s.sessions other :=
  Function.update_of_ne hother ..

/-- The session is marked waiting-disconnect or has been handed to the disconnect handler. -/
def Sender.Ending (session : Sender) : Prop :=
  session.m_isWaitingDisconnect = true ∨ session.disconnectHandled = true

/-! ### The invariant -/

variable {n : ℕ}

/-- What the kernel has not taken yet: the rest of the message being sent, or the buffered bytes. -/
inductive Intact (n : ℕ) (session : Sender) : Option Loop → Prop
  | idle {q : List Byte} (hrep : session.m_writeBuffer.Represents n q)
      (hstart : session.m_writeBuffer.m_startOffset = 0)
      (hstream : session.accepted ++ q = session.messages.flatten) : Intact n session none
  | direct {data : List Byte} {sendLen : ℕ} (hrep : session.m_writeBuffer.Represents n [])
      (hlen : sendLen < data.length)
      (hstream : session.accepted ++ data.drop sendLen = session.messages.flatten) :
      Intact n session (some (.direct data sendLen))
  | piece {q : List Byte} (hrep : session.m_writeBuffer.Represents n q)
      (hstart : session.m_writeBuffer.m_startOffset = 0)
      (hstream : session.accepted ++ q = session.messages.flatten) :
      Intact n session (some (.buffered 0 q.length 0))
  | partly {data length sendLen : ℕ} {q : List Byte} (hpos : 0 < sendLen)
      (hstream : session.accepted ++ q = session.messages.flatten) :
      Intact n session (some (.buffered data length sendLen))

theorem Intact.accepted_prefix {session : Sender} {loop : Option Loop}
    (h : Intact n session loop) : session.accepted <+: session.messages.flatten := by
  cases h with
  | idle _ _ hstream => exact ⟨_, hstream⟩
  | direct _ _ hstream => exact ⟨_, hstream⟩
  | piece _ _ hstream => exact ⟨_, hstream⟩
  | partly _ hstream => exact ⟨_, hstream⟩

/-- The invariant of a session: it is being disconnected, or its stream is intact. -/
def Holds (n : ℕ) (s : SlaveReactor) (sessionId : SessionId) : Prop :=
  (s.sessions sessionId).Ending ∨
  (s.sessions sessionId).accepted <+: (s.sessions sessionId).messages.flatten ∧
    (s.aborted = false → Intact n (s.sessions sessionId) (s.loop sessionId))

theorem Holds.of_intact {s : SlaveReactor} {sessionId : SessionId}
    (h : Intact n (s.sessions sessionId) (s.loop sessionId)) : Holds n s sessionId :=
  .inr ⟨h.accepted_prefix, fun _ => h⟩

/-- An aborted process sends nothing more. -/
theorem Holds.abort {s : SlaveReactor} {sessionId : SessionId}
    (h : (s.sessions sessionId).accepted <+: (s.sessions sessionId).messages.flatten) :
    Holds n s.abort sessionId :=
  .inr ⟨h, nofun⟩

/-- Steps that leave the session and its loops alone. -/
theorem Holds.frame {s s' : SlaveReactor} {sessionId : SessionId} (h : Holds n s sessionId)
    (hrunning : s.aborted = false) (hsession : s'.sessions sessionId = s.sessions sessionId)
    (hloop : s'.loop sessionId = s.loop sessionId) : Holds n s' sessionId := by
  unfold Holds
  rw [hsession, hloop]
  obtain hending | ⟨hbegins, hintact⟩ := h
  · exact .inl hending
  · exact .inr ⟨hbegins, fun _ => hintact hrunning⟩

/-! ### Buffering -/

section Bounded

variable {rb : RingBuffer} {q data : List Byte} (hn : n < 2 ^ 31)

theorem increaseUsedSpace_start (rb : RingBuffer) (size : ℕ) :
    (rb.increaseUsedSpace size).2.m_startOffset = rb.m_startOffset := by
  unfold RingBuffer.increaseUsedSpace
  split <;> rfl

include hn in
/-- What fits is appended to the buffered bytes, and the start stays where it is. -/
theorem buffer_accepted (h : rb.Represents n q) (hdata : q.length + data.length ≤ n - 2) :
    ∃ writeBuffer, rb.writeData data = (0, writeBuffer) ∧
      (writeBuffer.increaseUsedSpace data.length).2.Represents n (q ++ data) ∧
      (writeBuffer.increaseUsedSpace data.length).2.m_startOffset = rb.m_startOffset := by
  obtain ⟨mem, hwrite, hmem, hholds⟩ := h.writeData_accept hn hdata
  obtain ⟨rb', hincrease, hrep⟩ := h.increaseUsedSpace_spec hn hmem hdata hholds
  refine ⟨_, hwrite, ?_, increaseUsedSpace_start ..⟩
  rw [hincrease]
  exact hrep

end Bounded

/-! ### The session whose loop runs -/

section Session

variable {s : SlaveReactor} {sessionId : SessionId} {q data : List Byte} (hn : n < 2 ^ 31)

theorem continueDirect_intact {sendLen : ℕ}
    (hrep : (s.sessions sessionId).m_writeBuffer.Represents n [])
    (hstream : (s.sessions sessionId).accepted ++ data.drop sendLen =
      (s.sessions sessionId).messages.flatten) :
    Intact n ((s.continueDirect sessionId data sendLen).sessions sessionId)
      ((s.continueDirect sessionId data sendLen).loop sessionId) := by
  unfold SlaveReactor.continueDirect SlaveReactor.loop
  split
  · next hmore =>
    show Intact n (s.sessions sessionId) (if sessionId = sessionId then _ else _)
    rw [if_pos rfl]
    exact .direct hrep hmore hstream
  · next hall =>
    rw [List.drop_eq_nil_of_le (by omega)] at hstream
    exact .idle hrep (hrep.reset rfl) hstream

include hn in
/-- The buffered bytes start at offset `0`, so the next piece is all of them. -/
theorem nextPiece_intact (hrep : (s.sessions sessionId).m_writeBuffer.Represents n q)
    (hstart : (s.sessions sessionId).m_writeBuffer.m_startOffset = 0)
    (hstream : (s.sessions sessionId).accepted ++ q = (s.sessions sessionId).messages.flatten) :
    Intact n ((s.nextPiece sessionId).sessions sessionId)
      ((s.nextPiece sessionId).loop sessionId) := by
  have hfits : q.length + 2 ≤ n := hrep.fits
  unfold SlaveReactor.nextPiece
  simp only [hrep.dataLength_eq hn]
  rcases Nat.eq_zero_or_pos q.length with hempty | hpos
  · rw [hempty, if_neg (Nat.lt_irrefl 0)]
    exact .idle hrep hstart hstream
  · rw [if_pos hpos, hrep.getContinuousData_whole hn hpos (by omega), hstart]
    show Intact n (s.sessions sessionId) (if sessionId = sessionId then _ else _)
    rw [if_pos rfl]
    exact .piece hrep hstart hstream

include hn in
theorem handleSend_holds {task : SendTask} (h : Intact n (s.sessions task.sessionId) none)
    (hloop : s.loop task.sessionId = none) : Holds n (s.handleSend task) task.sessionId := by
  have hbegins := h.accepted_prefix
  obtain ⟨hrep, hstart, hstream⟩ := h
  rename_i q
  have hfits : q.length + 2 ≤ n := hrep.fits
  unfold SlaveReactor.handleSend
  simp only [hrep.dataLength_eq hn, hrep.space_eq hn]
  split
  · next hwaiting => exact .inl (.inl hwaiting)
  split
  · split
    · -- rejected whole
      apply Holds.of_intact
      rw [hloop]
      exact .idle hrep hstart hstream
    · next hspace =>
      obtain ⟨writeBuffer, hwrite, hrep', hstart'⟩ :=
        buffer_accepted hn hrep (show q.length + task.data.length ≤ n - 2 by omega)
      simp only [hwrite]
      apply Holds.of_intact
      show Intact n ((s.setSession _ _).sessions _) (s.loop _)
      rw [s.setSession_sessions_self, hloop]
      refine .idle hrep' (hstart'.trans hstart) ?_
      simp [← hstream]
  · next hempty =>
    obtain rfl : q = [] := List.length_eq_zero_iff.mp (not_not.mp hempty)
    apply Holds.of_intact
    apply continueDirect_intact
    · rw [s.setSession_sessions_self]
      exact hrep
    · rw [s.setSession_sessions_self]
      simp [← hstream]

include hn in
theorem sendDirect_holds {sendLen : ℕ} {result : SendResult}
    (h : Intact n (s.sessions sessionId) (some (.direct data sendLen)))
    (hknown : ∀ code, result ≠ .failed (.other code)) :
    Holds n (s.sendDirect sessionId data sendLen result) sessionId := by
  have hbegins := h.accepted_prefix
  cases h with
  | direct hrep hlen hstream =>
  have hbuffer : Holds n (s.sendDirect sessionId data sendLen (.failed .EAGAIN)) sessionId := by
    unfold SlaveReactor.sendDirect
    rcases Nat.lt_or_ge (n - 2) (data.drop sendLen).length with hbig | hsmall
    · simp only [hrep.writeData_reject hn hbig]
      exact .abort hbegins
    · obtain ⟨writeBuffer, hwrite, hrep', hstart'⟩ :=
        buffer_accepted hn hrep (show ([] : List Byte).length + (data.drop sendLen).length ≤ n - 2 by
          simpa using hsmall)
      simp only [hwrite]
      apply Holds.of_intact
      show Intact n ((s.setSession _ _).sessions _) none
      rw [s.setSession_sessions_self]
      exact .idle hrep' (hstart'.trans (hrep.reset rfl)) hstream
  have hgone : Holds n (s.sendDirect sessionId data sendLen (.failed .EPIPE)) sessionId := by
    refine .inl (.inr ?_)
    show Sender.disconnectHandled ((s.setSession _ _).sessions _) = true
    rw [s.setSession_sessions_self]
  cases result with
  | accepted k =>
    apply Holds.of_intact
    apply continueDirect_intact
    · rw [s.setSession_sessions_self]
      exact hrep
    · rw [s.setSession_sessions_self, ← hstream, List.append_assoc, ← List.drop_drop, List.take_append_drop]
  | failed errno =>
    cases errno with
    | EAGAIN => exact hbuffer
    | EWOULDBLOCK => exact hbuffer
    | ECONNRESET => exact hgone
    | EPIPE => exact hgone
    | other code => exact absurd rfl (hknown code)

include hn in
theorem handleEpollOut_holds (h : Intact n (s.sessions sessionId) none) :
    Holds n (s.handleEpollOut sessionId) sessionId := by
  have hbegins := h.accepted_prefix
  obtain ⟨hrep, hstart, hstream⟩ := h
  unfold SlaveReactor.handleEpollOut
  dsimp only
  split
  · next hwaiting => exact .inl (.inl hwaiting)
  split
  · exact .abort hbegins
  · exact .of_intact (nextPiece_intact hn hrep hstart hstream)

include hn in
theorem sendBuffered_holds {data length sendLen : ℕ} {result : SendResult}
    (h : Intact n (s.sessions sessionId) (some (.buffered data length sendLen)))
    (hloop : s.loop sessionId = some (.buffered data length sendLen))
    (hpossible : SlaveReactor.Possible length result)
    (hfirst : ∀ k, result = .accepted k → sendLen = 0) :
    Holds n (s.sendBuffered sessionId data length sendLen result) sessionId := by
  have hsame : Holds n s sessionId := .of_intact (hloop ▸ h)
  have hgone : Holds n (s.sendBuffered sessionId data length sendLen (.failed .EPIPE)) sessionId := by
    refine .inl (.inl ?_)
    show Sender.m_isWaitingDisconnect ((s.setSession _ _).sessions _) = true
    rw [s.setSession_sessions_self]
  cases result with
  | accepted k =>
    obtain rfl := hfirst k rfl
    cases h with
    | partly hpos _ => exact absurd hpos (Nat.lt_irrefl 0)
    | @piece q hrep hstart hstream =>
    obtain ⟨hone, hk⟩ := hpossible
    have hfits : q.length + 2 ≤ n := hrep.fits
    have hbytes : slice (s.sessions sessionId).m_writeBuffer.m_buffer 0 k = q.take k := by
      have hslice := hrep.slice_eq (p := 0) (k := k) (by omega) (by rw [hstart]; omega)
      rwa [hstart] at hslice
    obtain ⟨writeBuffer, hdecrease, hrep'⟩ := hrep.decreaseUsedSpace_spec hn hk
    have hrest : ((s.sessions sessionId).accepted ++ q.take k) ++ q.drop k =
        (s.sessions sessionId).messages.flatten := by
      rw [List.append_assoc, List.take_append_drop, hstream]
    unfold SlaveReactor.sendBuffered
    simp only [hbytes, hdecrease]
    apply Holds.of_intact
    split
    · next hmore =>
      show Intact n ((s.setSession _ _).sessions _) (if sessionId = sessionId then _ else _)
      rw [s.setSession_sessions_self, if_pos rfl]
      have hpos : 0 < 0 + k := by omega
      exact .partly hpos hrest
    · next hdone =>
      have hall : q.length ≤ k := by omega
      have hdrop : q.drop k = [] := List.drop_eq_nil_of_le hall
      apply nextPiece_intact hn (q := q.drop k)
      · rw [s.setSession_sessions_self]
        exact hrep'
      · rw [s.setSession_sessions_self]
        exact hrep'.reset hdrop
      · rw [s.setSession_sessions_self]
        exact hrest
  | failed errno =>
    cases errno with
    | EAGAIN => exact hsame
    | EWOULDBLOCK => exact hsame
    | ECONNRESET => exact hgone
    | EPIPE => exact hgone
    | other code => exact hsame

end Session

/-! ### The other sessions -/

theorem SlaveReactor.loop_of_idle {s : SlaveReactor} (h : s.sending = none)
    (sessionId : SessionId) : s.loop sessionId = none := by
  unfold SlaveReactor.loop
  rw [h]

theorem SlaveReactor.loop_of_current {s : SlaveReactor} {sessionId : SessionId} {loop : Loop}
    (h : s.sending = some (sessionId, loop)) : s.loop sessionId = some loop := by
  unfold SlaveReactor.loop
  rw [h]
  exact if_pos rfl

/-- The steps of one session's loops: the others keep their states, the thread is in no loop of
theirs, and a session that is ending stays so. -/
structure LocalTo (sessionId : SessionId) (s s' : SlaveReactor) : Prop where
  sessions : ∀ other, other ≠ sessionId → s'.sessions other = s.sessions other
  loop : ∀ other, other ≠ sessionId → s'.loop other = none
  ending : (s.sessions sessionId).Ending → (s'.sessions sessionId).Ending

namespace LocalTo

variable {s s' : SlaveReactor} {sessionId : SessionId}

theorem of_idle (h : s.sending = none) : LocalTo sessionId s s where
  sessions _ _ := rfl
  loop other _ := SlaveReactor.loop_of_idle h other
  ending := id

theorem of_current {loop : Loop} (h : s.sending = some (sessionId, loop)) : LocalTo sessionId s s where
  sessions _ _ := rfl
  loop other hother := by
    unfold SlaveReactor.loop
    rw [h]
    exact if_neg hother.symm
  ending := id

theorem abort (h : LocalTo sessionId s s') : LocalTo sessionId s s'.abort :=
  ⟨h.sessions, h.loop, h.ending⟩

theorem setSession (h : LocalTo sessionId s s') {session : Sender}
    (hending : (s'.sessions sessionId).Ending → session.Ending) :
    LocalTo sessionId s (s'.setSession sessionId session) where
  sessions other hother := by rw [s'.setSession_sessions_ne session hother, h.sessions other hother]
  loop := h.loop
  ending he := by
    rw [s'.setSession_sessions_self]
    exact hending (h.ending he)

theorem idle (h : LocalTo sessionId s s') : LocalTo sessionId s { s' with sending := none } :=
  ⟨h.sessions, fun _ _ => rfl, h.ending⟩

theorem enter (h : LocalTo sessionId s s') (loop : Loop) :
    LocalTo sessionId s { s' with sending := some (sessionId, loop) } :=
  ⟨h.sessions, fun _ hother => if_neg hother.symm, h.ending⟩

theorem continueDirect (h : LocalTo sessionId s s') (data : List Byte) (sendLen : ℕ) :
    LocalTo sessionId s (s'.continueDirect sessionId data sendLen) := by
  unfold SlaveReactor.continueDirect
  split
  · exact h.enter _
  · exact h.idle

theorem nextPiece (h : LocalTo sessionId s s') : LocalTo sessionId s (s'.nextPiece sessionId) := by
  unfold SlaveReactor.nextPiece
  dsimp only
  split
  · split
    · exact h.abort
    · exact h.enter _
  · exact h.idle

theorem handleSend {task : SendTask} (h : LocalTo task.sessionId s s) :
    LocalTo task.sessionId s (s.handleSend task) := by
  unfold SlaveReactor.handleSend
  dsimp only
  split
  · exact h
  split
  · split
    · exact h
    · split
      · exact h.abort
      · exact h.setSession fun he => he
  · apply LocalTo.continueDirect
    exact h.setSession fun he => he

theorem sendDirect (h : LocalTo sessionId s s) (data : List Byte) (sendLen : ℕ)
    (result : SendResult) : LocalTo sessionId s (s.sendDirect sessionId data sendLen result) := by
  unfold SlaveReactor.sendDirect
  split
  · apply LocalTo.continueDirect
    exact h.setSession fun he => he
  · dsimp only
    split
    · exact h.abort
    · exact LocalTo.idle (h.setSession fun he => he)
  · dsimp only
    split
    · exact h.abort
    · exact LocalTo.idle (h.setSession fun he => he)
  · exact LocalTo.idle (h.setSession fun _ => .inr rfl)
  · exact LocalTo.idle (h.setSession fun _ => .inr rfl)
  · exact h.idle

theorem handleEpollOut (h : LocalTo sessionId s s) :
    LocalTo sessionId s (s.handleEpollOut sessionId) := by
  unfold SlaveReactor.handleEpollOut
  dsimp only
  split
  · exact h
  split
  · exact h.abort
  · exact h.nextPiece

theorem sendBuffered (h : LocalTo sessionId s s) (data length sendLen : ℕ) (result : SendResult) :
    LocalTo sessionId s (s.sendBuffered sessionId data length sendLen result) := by
  unfold SlaveReactor.sendBuffered
  split
  · dsimp only
    split
    · apply LocalTo.enter
      exact h.setSession fun he => he
    · apply LocalTo.nextPiece
      exact h.setSession fun he => he
  · exact h.setSession fun _ => .inl rfl
  · exact h.setSession fun _ => .inl rfl
  · exact h

end LocalTo

/-! ### Runs -/

section Runs

variable {s s' : SlaveReactor} {sessionId : SessionId}

/-- A step of some session's loops keeps the invariant of `sessionId` if it does so where that session
is its own and not ending. -/
theorem Holds.local (h : Holds n s sessionId) (hrunning : s.aborted = false) {current : SessionId}
    (hbefore : LocalTo current s s) (hafter : LocalTo current s s')
    (hown : current = sessionId → Intact n (s.sessions sessionId) (s.loop sessionId) →
      Holds n s' sessionId) : Holds n s' sessionId := by
  by_cases hcurrent : current = sessionId
  · obtain hending | ⟨-, hintact⟩ := h
    · subst hcurrent
      exact .inl (hafter.ending hending)
    · exact hown hcurrent (hintact hrunning)
  · have hother : sessionId ≠ current := fun he => hcurrent he.symm
    exact h.frame hrunning (hafter.sessions _ hother)
      ((hafter.loop _ hother).trans (hbefore.loop _ hother).symm)

/-- **Step lemma.** -/
theorem holds_step (hn : n < 2 ^ 31) (h : Holds n s sessionId) {event : ReactorEvent}
    (hguard : Undisrupted sessionId s event) (hstep : s.step event = some s') :
    Holds n s' sessionId := by
  unfold SlaveReactor.step at hstep
  split at hstep
  · cases hstep
  next haborted =>
  have hrunning : s.aborted = false := by simpa using haborted
  cases event with
  | sendData current data =>
    cases hstep
    unfold SlaveReactor.sendData
    split
    · exact h
    split
    · exact h
    · exact h.frame hrunning rfl rfl
  | setWaitingDisconnect current =>
    cases hstep
    by_cases hcurrent : current = sessionId
    · subst hcurrent
      refine .inl (.inl ?_)
      rw [s.setSession_sessions_self]
    · exact h.frame hrunning (s.setSession_sessions_ne _ fun he => hcurrent he.symm) rfl
  | swapTasks =>
    obtain ⟨-, hs'⟩ := Option.ite_none_right_eq_some.mp hstep
    cases hs'
    exact h.frame hrunning rfl rfl
  | handleSend =>
    dsimp only at hstep
    split at hstep
    · next task tasks hidle htasks =>
      cases hstep
      have hbefore : LocalTo task.sessionId { s with sendTasks := tasks }
        { s with sendTasks := tasks } := .of_idle hidle
      have hnext : Holds n { s with sendTasks := tasks } sessionId := h.frame hrunning rfl rfl
      have hloop := SlaveReactor.loop_of_idle (s := { s with sendTasks := tasks }) hidle
      refine hnext.local hrunning hbefore hbefore.handleSend ?_
      intro hcurrent hintact
      subst hcurrent
      rw [hloop] at hintact
      exact handleSend_holds hn hintact (hloop _)
    · cases hstep
  | epollOut current =>
    obtain ⟨⟨hidle, -⟩, hs'⟩ := Option.ite_none_right_eq_some.mp hstep
    cases hs'
    have hbefore : LocalTo current s s := .of_idle hidle
    refine h.local hrunning hbefore hbefore.handleEpollOut ?_
    intro hcurrent hintact
    subst hcurrent
    rw [SlaveReactor.loop_of_idle hidle] at hintact
    exact handleEpollOut_holds hn hintact
  | send result =>
    dsimp only at hstep
    split at hstep
    · next current data sendLen hcurrent =>
      obtain ⟨-, hs'⟩ := Option.ite_none_right_eq_some.mp hstep
      cases hs'
      have hbefore : LocalTo current s s := .of_current hcurrent
      refine h.local hrunning hbefore (hbefore.sendDirect _ _ _) ?_
      intro hself hintact
      subst hself
      rw [SlaveReactor.loop_of_current hcurrent] at hintact
      apply sendDirect_holds hn hintact
      intro code hresult
      subst hresult
      exact hguard data sendLen hcurrent code rfl
    · next current data length sendLen hcurrent =>
      obtain ⟨⟨-, hpossible⟩, hs'⟩ := Option.ite_none_right_eq_some.mp hstep
      cases hs'
      have hbefore : LocalTo current s s := .of_current hcurrent
      refine h.local hrunning hbefore (hbefore.sendBuffered _ _ _ _) ?_
      intro hself hintact
      subst hself
      have hloop := SlaveReactor.loop_of_current hcurrent
      rw [hloop] at hintact
      apply sendBuffered_holds hn hintact hloop hpossible
      intro k hresult
      subst hresult
      exact hguard data length sendLen hcurrent
    · cases hstep

theorem holds_of_reaches (htwo : 2 ≤ n) (hn : n < 2 ^ 31)
    (h : (slaveReactor n).Reaches (Undisrupted sessionId) s) : Holds n s sessionId := by
  refine h.invariant ?_ fun _ _ _ hs hguard hstep => holds_step hn hs hguard hstep
  intro s hs
  cases hs
  exact .of_intact (.idle (.new htwo) rfl rfl)

end Runs

/-! ### The stream -/

/-- **The stream is a prefix of the messages.**  For a session whose sends stay undisrupted, in any
interleaving with the other sessions: as long as it is neither marked nor handed to the disconnect
handler, the bytes that the kernel has taken are a prefix of its messages, in queue order. -/
theorem sendStream_prefix {sessionId : SessionId} {s : SlaveReactor}
    (h : (slaveReactor c_p2pSessionWriteBufferSize).Reaches (Undisrupted sessionId) s)
    (hwaiting : (s.sessions sessionId).m_isWaitingDisconnect = false)
    (hhandled : (s.sessions sessionId).disconnectHandled = false) :
    (s.sessions sessionId).accepted <+: (s.sessions sessionId).messages.flatten := by
  obtain (hmarked | hgone) | ⟨hbegins, -⟩ := holds_of_reaches (by decide) (by decide) h
  · rw [hwaiting] at hmarked
    cases hmarked
  · rw [hhandled] at hgone
    cases hgone
  · exact hbegins

/-- The kernel takes one byte of a message, then nothing, then the buffered rest. -/
theorem sendStream_prefix_buffered : ∃ s : SlaveReactor, (s.sessions 0).accepted = [1, 2, 3] ∧
    (s.sessions 0).accepted <+: (s.sessions 0).messages.flatten := by
  have hstart : (slaveReactor c_p2pSessionWriteBufferSize).Reaches (Undisrupted 0)
    (.start c_p2pSessionWriteBufferSize) := .init rfl
  have hqueued := hstart.step (a := ReactorEvent.sendData 0 [1, 2, 3]) trivial rfl
  have hswapped := hqueued.step (a := ReactorEvent.swapTasks) trivial rfl
  have hhandled := hswapped.step (a := ReactorEvent.handleSend) trivial rfl
  have hfirst := hhandled.step (a := ReactorEvent.send (.accepted 1)) nofun rfl
  have hfull := hfirst.step (a := ReactorEvent.send (.failed .EAGAIN)) (fun _ _ _ _ => nofun) rfl
  have hpolled := hfull.step (a := ReactorEvent.epollOut 0) trivial rfl
  have hrest := hpolled.step (a := ReactorEvent.send (.accepted 2)) (by
    intro data length sendLen hsending
    cases hsending
    rfl) rfl
  exact ⟨_, rfl, sendStream_prefix hrest rfl rfl⟩

/-- **The stream breaks.**  A partial count in the `EPOLLOUT` branch is followed by a send of the same
bytes; and an error that `handleSend` does not know drops the rest of a message, after which the next
one is sent. -/
theorem sendStream_broken :
    (∃ s, (slaveReactor c_p2pSessionWriteBufferSize).Reachable s ∧
      (s.sessions 0).m_isWaitingDisconnect = false ∧ (s.sessions 0).disconnectHandled = false ∧
      (s.sessions 0).accepted = [1, 2, 1, 2] ∧
      ¬ (s.sessions 0).accepted <+: (s.sessions 0).messages.flatten) ∧
    ∃ s, (slaveReactor c_p2pSessionWriteBufferSize).Reachable s ∧
      (s.sessions 0).m_isWaitingDisconnect = false ∧ (s.sessions 0).disconnectHandled = false ∧
      (s.sessions 0).accepted = [1, 3] ∧
      ¬ (s.sessions 0).accepted <+: (s.sessions 0).messages.flatten := by
  have hstart : (slaveReactor c_p2pSessionWriteBufferSize).Reachable
    (.start c_p2pSessionWriteBufferSize) := .init rfl
  have hagain : ((slaveReactor c_p2pSessionWriteBufferSize).run (.start c_p2pSessionWriteBufferSize)
      [.sendData 0 [1, 2, 3, 4], .swapTasks, .handleSend, .send (.failed .EAGAIN), .epollOut 0,
        .send (.accepted 2), .send (.accepted 2)]).map (fun s =>
      ((s.sessions 0).m_isWaitingDisconnect, (s.sessions 0).disconnectHandled,
        (s.sessions 0).accepted, (s.sessions 0).messages)) =
      some (false, false, [1, 2, 1, 2], [[1, 2, 3, 4]]) := by
    decide
  have hcut : ((slaveReactor c_p2pSessionWriteBufferSize).run (.start c_p2pSessionWriteBufferSize)
      [.sendData 0 [1, 2], .sendData 0 [3], .swapTasks, .handleSend, .send (.accepted 1),
        .send (.failed (.other 12)), .handleSend, .send (.accepted 1)]).map (fun s =>
      ((s.sessions 0).m_isWaitingDisconnect, (s.sessions 0).disconnectHandled,
        (s.sessions 0).accepted, (s.sessions 0).messages)) =
      some (false, false, [1, 3], [[1, 2], [3]]) := by
    decide
  obtain ⟨s₁, hrun₁, hs₁⟩ := Option.map_eq_some_iff.mp hagain
  obtain ⟨s₂, hrun₂, hs₂⟩ := Option.map_eq_some_iff.mp hcut
  simp only [Prod.mk.injEq] at hs₁ hs₂
  obtain ⟨hw₁, hd₁, ha₁, hm₁⟩ := hs₁
  obtain ⟨hw₂, hd₂, ha₂, hm₂⟩ := hs₂
  refine ⟨⟨s₁, .of_run hstart hrun₁, hw₁, hd₁, ha₁, ?_⟩, ⟨s₂, .of_run hstart hrun₂, hw₂, hd₂, ha₂, ?_⟩⟩
  · rw [ha₁, hm₁]
    decide
  · rw [ha₂, hm₂]
    decide

end DistributedNetwork.Sending
