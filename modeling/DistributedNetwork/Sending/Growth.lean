import DistributedNetwork.Sending.SendStream

/-!
# What one step does to one session

Whatever the reactor does, what the kernel has taken from a session and the messages of the session only
grow, and a session that is ending stays so.

* `Extends` — a session before and after a step, with the messages that are new;
* `Queued` — a property of all messages of a session that wait in a queue;
* `step_extends` — a property of what `sendData` is given is one of every new message.
-/

namespace DistributedNetwork.Sending

open DistributedNetwork.Buffer DistributedNetwork.Library

/-- The session stays ending, the kernel has taken more of its bytes, and these messages are new. -/
structure Extends (session session' : Sender) (new : List (List Byte)) : Prop where
  ending : session.Ending → session'.Ending
  accepted : session.accepted <+: session'.accepted
  messages : session'.messages = session.messages ++ new

section Steps

variable {s s' : SlaveReactor} {sessionId current : SessionId} {session : Sender}
variable {new : List (List Byte)}

theorem Extends.refl (session : Sender) : Extends session session [] :=
  ⟨id, List.prefix_rfl, (List.append_nil _).symm⟩

theorem Extends.of_eq {session' : Sender} (h : session' = session) : Extends session session' [] :=
  h ▸ .refl session

/-- A write to the state of one session. -/
theorem Extends.setSession (h : current = sessionId → Extends (s.sessions sessionId) session new)
    (hother : current ≠ sessionId → new = []) :
    Extends (s.sessions sessionId) ((s.setSession current session).sessions sessionId) new := by
  by_cases hcurrent : current = sessionId
  · have hself := s.setSession_sessions_self current session
    rw [hcurrent] at hself ⊢
    rw [hself]
    exact h hcurrent
  · rw [s.setSession_sessions_ne session (Ne.symm hcurrent), hother hcurrent]
    exact .refl _

theorem continueDirect_sessions (s : SlaveReactor) (current : SessionId) (data : List Byte)
    (sendLen : ℕ) : (s.continueDirect current data sendLen).sessions = s.sessions := rfl

theorem nextPiece_sessions (s : SlaveReactor) (current : SessionId) :
    (s.nextPiece current).sessions = s.sessions := by
  unfold SlaveReactor.nextPiece
  dsimp only
  split
  · split <;> rfl
  · rfl

theorem handleEpollOut_sessions (s : SlaveReactor) (current : SessionId) :
    (s.handleEpollOut current).sessions = s.sessions := by
  unfold SlaveReactor.handleEpollOut
  dsimp only
  split
  · rfl
  split
  · rfl
  · exact nextPiece_sessions s current

theorem handleSend_extends (s : SlaveReactor) (task : SendTask) (sessionId : SessionId) :
    ∃ new, Extends (s.sessions sessionId) ((s.handleSend task).sessions sessionId) new ∧
      ∀ message ∈ new, task.sessionId = sessionId ∧ message = task.data := by
  have hsame : ∃ new, Extends (s.sessions sessionId) (s.sessions sessionId) new ∧
      ∀ message ∈ new, task.sessionId = sessionId ∧ message = task.data :=
    ⟨[], .refl _, nofun⟩
  have htaken (session : Sender) (haccepted : session.accepted = (s.sessions task.sessionId).accepted)
      (hending : (s.sessions task.sessionId).Ending → session.Ending)
      (hmessages : session.messages = (s.sessions task.sessionId).messages ++ [task.data]) :
      ∃ new, Extends (s.sessions sessionId)
          ((s.setSession task.sessionId session).sessions sessionId) new ∧
        ∀ message ∈ new, task.sessionId = sessionId ∧ message = task.data := by
    by_cases hown : task.sessionId = sessionId
    · refine ⟨[task.data], .setSession (fun _ => ?_) (fun hother => absurd hown hother), ?_⟩
      · rw [← hown]
        exact ⟨hending, haccepted ▸ List.prefix_rfl, hmessages⟩
      · intro message hmessage
        exact ⟨hown, List.mem_singleton.mp hmessage⟩
    · exact ⟨[], .setSession (fun hcurrent => absurd hcurrent hown) (fun _ => rfl), nofun⟩
  unfold SlaveReactor.handleSend
  dsimp only
  split
  · exact hsame
  split
  · split
    · exact hsame
    · split
      · exact hsame
      · exact htaken _ rfl id rfl
  · rw [continueDirect_sessions]
    exact htaken _ rfl id rfl

theorem sendDirect_extends (s : SlaveReactor) (current : SessionId) (data : List Byte) (sendLen : ℕ)
    (result : SendResult) (sessionId : SessionId) : Extends (s.sessions sessionId)
      ((s.sendDirect current data sendLen result).sessions sessionId) [] := by
  have hbuffer (session : Sender) (haccepted : session.accepted = (s.sessions current).accepted)
      (hending : (s.sessions current).Ending → session.Ending)
      (hmessages : session.messages = (s.sessions current).messages) :
      Extends (s.sessions sessionId) ((s.setSession current session).sessions sessionId) [] := by
    refine .setSession (fun hcurrent => ?_) (fun _ => rfl)
    rw [← hcurrent]
    exact ⟨hending, haccepted ▸ List.prefix_rfl, hmessages.trans (List.append_nil _).symm⟩
  unfold SlaveReactor.sendDirect
  split
  · refine Extends.setSession (fun hcurrent => ?_) (fun _ => rfl)
    rw [← hcurrent]
    exact ⟨id, List.prefix_append _ _, (List.append_nil _).symm⟩
  · dsimp only
    split
    · exact .refl _
    · exact hbuffer _ rfl id rfl
  · dsimp only
    split
    · exact .refl _
    · exact hbuffer _ rfl id rfl
  · exact hbuffer _ rfl (fun _ => .inr rfl) rfl
  · exact hbuffer _ rfl (fun _ => .inr rfl) rfl
  · exact .refl _

theorem sendBuffered_extends (s : SlaveReactor) (current : SessionId) (data length sendLen : ℕ)
    (result : SendResult) (sessionId : SessionId) : Extends (s.sessions sessionId)
      ((s.sendBuffered current data length sendLen result).sessions sessionId) [] := by
  unfold SlaveReactor.sendBuffered
  split
  · next n =>
    have htaken : Extends (s.sessions sessionId) ((s.setSession current { s.sessions current with
        m_writeBuffer := ((s.sessions current).m_writeBuffer.decreaseUsedSpace n).2
        accepted := (s.sessions current).accepted ++
          slice (s.sessions current).m_writeBuffer.m_buffer data n }).sessions sessionId) [] := by
      refine .setSession (fun hcurrent => ?_) (fun _ => rfl)
      rw [← hcurrent]
      exact ⟨id, List.prefix_append _ _, (List.append_nil _).symm⟩
    dsimp only
    split
    · exact htaken
    · rw [nextPiece_sessions]
      exact htaken
  · refine .setSession (fun hcurrent => ?_) (fun _ => rfl)
    rw [← hcurrent]
    exact ⟨fun _ => .inl rfl, List.prefix_rfl, (List.append_nil _).symm⟩
  · refine .setSession (fun hcurrent => ?_) (fun _ => rfl)
    rw [← hcurrent]
    exact ⟨fun _ => .inl rfl, List.prefix_rfl, (List.append_nil _).symm⟩
  · exact .refl _

/-- The messages that `sendData` is given for the session. -/
def Sends (sessionId : SessionId) (P : List Byte → Prop) : ReactorEvent → Prop
  | .sendData id data => id = sessionId → P data
  | _ => True

/-- Every message of the session that waits in one of the two queues meets `P`. -/
structure Queued (sessionId : SessionId) (P : List Byte → Prop) (s : SlaveReactor) : Prop where
  m_sendTasks : ∀ task ∈ s.m_sendTasks, task.sessionId = sessionId → P task.data
  sendTasks : ∀ task ∈ s.sendTasks, task.sessionId = sessionId → P task.data

/-- What sends leaves both queues alone. -/
structure KeepsTasks (s s' : SlaveReactor) : Prop where
  m_sendTasks : s'.m_sendTasks = s.m_sendTasks
  sendTasks : s'.sendTasks = s.sendTasks

theorem KeepsTasks.refl (s : SlaveReactor) : KeepsTasks s s := ⟨rfl, rfl⟩

theorem Queued.of_keeps {P : List Byte → Prop} (h : Queued sessionId P s) (hkeeps : KeepsTasks s s') :
    Queued sessionId P s' :=
  ⟨hkeeps.m_sendTasks ▸ h.m_sendTasks, hkeeps.sendTasks ▸ h.sendTasks⟩

theorem keepsTasks_nextPiece (s : SlaveReactor) (current : SessionId) :
    KeepsTasks s (s.nextPiece current) := by
  unfold SlaveReactor.nextPiece
  dsimp only
  split
  · split <;> exact ⟨rfl, rfl⟩
  · exact ⟨rfl, rfl⟩

theorem keepsTasks_handleSend (s : SlaveReactor) (task : SendTask) :
    KeepsTasks s (s.handleSend task) := by
  unfold SlaveReactor.handleSend
  dsimp only
  split
  · exact .refl s
  split
  · split
    · exact .refl s
    · split <;> exact ⟨rfl, rfl⟩
  · exact ⟨rfl, rfl⟩

theorem keepsTasks_handleEpollOut (s : SlaveReactor) (current : SessionId) :
    KeepsTasks s (s.handleEpollOut current) := by
  unfold SlaveReactor.handleEpollOut
  dsimp only
  split
  · exact .refl s
  split
  · exact ⟨rfl, rfl⟩
  · exact keepsTasks_nextPiece s current

theorem keepsTasks_sendDirect (s : SlaveReactor) (current : SessionId) (data : List Byte)
    (sendLen : ℕ) (result : SendResult) : KeepsTasks s (s.sendDirect current data sendLen result) := by
  unfold SlaveReactor.sendDirect
  split
  · exact ⟨rfl, rfl⟩
  · dsimp only
    split <;> exact ⟨rfl, rfl⟩
  · dsimp only
    split <;> exact ⟨rfl, rfl⟩
  · exact ⟨rfl, rfl⟩
  · exact ⟨rfl, rfl⟩
  · exact ⟨rfl, rfl⟩

theorem keepsTasks_sendBuffered (s : SlaveReactor) (current : SessionId) (data length sendLen : ℕ)
    (result : SendResult) : KeepsTasks s (s.sendBuffered current data length sendLen result) := by
  unfold SlaveReactor.sendBuffered
  split
  · dsimp only
    split
    · exact ⟨rfl, rfl⟩
    · have hpiece (s : SlaveReactor) := keepsTasks_nextPiece s current
      exact ⟨(hpiece _).m_sendTasks, (hpiece _).sendTasks⟩
  · exact ⟨rfl, rfl⟩
  · exact ⟨rfl, rfl⟩
  · exact .refl s

/-- **One step of the reactor**, seen from the session. -/
theorem step_extends {P : List Byte → Prop} {event : ReactorEvent} (hqueued : Queued sessionId P s)
    (hsends : Sends sessionId P event) (hstep : s.step event = some s') :
    Queued sessionId P s' ∧ ∃ new, Extends (s.sessions sessionId) (s'.sessions sessionId) new ∧
      ∀ message ∈ new, P message := by
  have hnone {s' : SlaveReactor} (hsession : Extends (s.sessions sessionId) (s'.sessions sessionId) []) :
      ∃ new, Extends (s.sessions sessionId) (s'.sessions sessionId) new ∧ ∀ message ∈ new, P message :=
    ⟨[], hsession, nofun⟩
  unfold SlaveReactor.step at hstep
  split at hstep
  · cases hstep
  cases event with
  | sendData id data =>
    cases hstep
    unfold SlaveReactor.sendData
    split
    · exact ⟨hqueued, hnone (.refl _)⟩
    split
    · exact ⟨hqueued, hnone (.refl _)⟩
    · refine ⟨⟨fun task htask hown => ?_, hqueued.sendTasks⟩, hnone (.refl _)⟩
      cases List.mem_append.mp htask with
      | inl hold => exact hqueued.m_sendTasks task hold hown
      | inr hnew =>
        rw [List.mem_singleton.mp hnew] at hown ⊢
        exact hsends hown
  | setWaitingDisconnect id =>
    cases hstep
    refine ⟨⟨hqueued.m_sendTasks, hqueued.sendTasks⟩, hnone (.setSession (fun hid => ?_) fun _ => rfl)⟩
    rw [← hid]
    exact ⟨fun _ => .inl rfl, List.prefix_rfl, (List.append_nil _).symm⟩
  | swapTasks =>
    obtain ⟨-, hs'⟩ := Option.ite_none_right_eq_some.mp hstep
    cases hs'
    exact ⟨⟨nofun, hqueued.m_sendTasks⟩, hnone (.refl _)⟩
  | handleSend =>
    dsimp only at hstep
    split at hstep
    · next task tasks hidle htasks =>
      cases hstep
      have hrest : Queued sessionId P { s with sendTasks := tasks } :=
        ⟨hqueued.m_sendTasks, fun t ht => hqueued.sendTasks t (htasks ▸ List.mem_cons_of_mem _ ht)⟩
      obtain ⟨new, hextends, hnew⟩ :=
        handleSend_extends { s with sendTasks := tasks } task sessionId
      refine ⟨hrest.of_keeps (keepsTasks_handleSend _ task), new, hextends, fun message hmessage => ?_⟩
      obtain ⟨hown, rfl⟩ := hnew message hmessage
      exact hqueued.sendTasks task (htasks ▸ List.mem_cons_self) hown
    · cases hstep
  | epollOut id =>
    obtain ⟨-, hs'⟩ := Option.ite_none_right_eq_some.mp hstep
    cases hs'
    exact ⟨hqueued.of_keeps (keepsTasks_handleEpollOut s id),
      hnone (.of_eq (congrFun (handleEpollOut_sessions s id) sessionId))⟩
  | send result =>
    dsimp only at hstep
    split at hstep
    · next current data sendLen hcurrent =>
      obtain ⟨-, hs'⟩ := Option.ite_none_right_eq_some.mp hstep
      cases hs'
      exact ⟨hqueued.of_keeps (keepsTasks_sendDirect s current data sendLen result),
        hnone (sendDirect_extends s current data sendLen result sessionId)⟩
    · next current data length sendLen hcurrent =>
      obtain ⟨-, hs'⟩ := Option.ite_none_right_eq_some.mp hstep
      cases hs'
      exact ⟨hqueued.of_keeps (keepsTasks_sendBuffered s current data length sendLen result),
        hnone (sendBuffered_extends s current data length sendLen result sessionId)⟩
    · cases hstep

end Steps

end DistributedNetwork.Sending
