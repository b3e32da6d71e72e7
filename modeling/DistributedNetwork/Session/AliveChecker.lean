import Mathlib.Data.Int.Notation
import Mathlib.Data.List.Nodup
import Mathlib.Logic.Function.Basic
import DistributedNetwork.Library.TransitionSystem

/-!
# Which sessions are found dead

Every fifteen seconds the alive checker goes over its sessions and compares two counters of each: how often a
heartbeat was received, now and at the pass before.  It holds its lock during a pass; heartbeats are received
meanwhile, and the last owner of a session may let it go.  A visit is one step.

* `SessionAliveChecker.step` — the sessions, the table of the checker, and a pass, session by session;
* `Silent` — of the visits and heartbeats of a session the last one is a visit;
* `reported_iff` — the sessions that have been reported are **exactly** those that were visited alive while
  they were silent;
* `reported_count_le` — none is reported more often than it was added;
* `silent_reported` — a session without heartbeats is reported by the second of two passes at the latest.
-/

namespace DistributedNetwork.Checking

open DistributedNetwork.Library

abbrev SessionId := ℕ

/-- The two counters of a session. -/
structure P2PSession where
  m_lastRecvCount : ℤ := 0
  m_recvCount : ℤ := 1
  deriving DecidableEq

namespace P2PSession

def isHeartbeatTimeout (session : P2PSession) : Bool × P2PSession :=
  (session.m_lastRecvCount == session.m_recvCount,
    { session with m_lastRecvCount := session.m_recvCount })

/-- An overflow of the `int` is undefined. -/
def refreshHeartbeat (session : P2PSession) : Option P2PSession :=
  if session.m_recvCount < 2147483647 then
    some { session with m_recvCount := session.m_recvCount + 1 }
  else none

end P2PSession

/-- The thread waits for the next pass, or is in its loop: the sessions still to visit, and those it has found
dead. -/
inductive Position where
  | waiting
  | visiting (iter offlineSessions : List SessionId)
  deriving DecidableEq

namespace Position

def iter : Position → List SessionId
  | waiting => []
  | visiting iter _ => iter

def offline : Position → List SessionId
  | waiting => []
  | visiting _ offlineSessions => offlineSessions

end Position

/-- `object` are the sessions that somebody owns; the table holds weak pointers to them. -/
structure SessionAliveChecker where
  nextSessionId : SessionId
  object : SessionId → Option P2PSession
  m_sessions : List SessionId
  position : Position
  /-- what the timeout handler was called with -/
  reported : List SessionId

inductive CheckEvent where
  /-- the factory makes a session -/
  | create
  | addSession (sessionId : SessionId)
  | removeSession (sessionId : SessionId)
  /-- a heartbeat, or the reply to one, is handled -/
  | refresh (sessionId : SessionId)
  /-- the last owner lets the session go -/
  | expire (sessionId : SessionId)
  /-- the loop begins, in the order of the table -/
  | beginPass (order : List SessionId)
  | visit (sessionId : SessionId)
  | endPass
  deriving DecidableEq

namespace SessionAliveChecker

def setObject (s : SessionAliveChecker) (sessionId : SessionId) (session : Option P2PSession) :
    SessionAliveChecker :=
  { s with object := Function.update s.object sessionId session }

def addSession (s : SessionAliveChecker) (sessionId : SessionId) : ℤ × SessionAliveChecker :=
  if sessionId ∈ s.m_sessions then (-1, s)
  else (0, { s with m_sessions := s.m_sessions ++ [sessionId] })

def removeSession (s : SessionAliveChecker) (sessionId : SessionId) : ℤ × SessionAliveChecker :=
  if sessionId ∈ s.m_sessions then (0, { s with m_sessions := s.m_sessions.erase sessionId })
  else (-1, s)

/-- The body of the loop. -/
def visit (s : SessionAliveChecker) (sessionId : SessionId) (iter offlineSessions : List SessionId) :
    SessionAliveChecker :=
  match s.object sessionId with
  | none =>
    { s with
      m_sessions := s.m_sessions.erase sessionId
      position := .visiting iter offlineSessions }
  | some session =>
    let checked := session.isHeartbeatTimeout
    if checked.1 = true then
      { s.setObject sessionId (some checked.2) with
        m_sessions := s.m_sessions.erase sessionId
        position := .visiting iter (offlineSessions ++ [sessionId]) }
    else
      { s.setObject sessionId (some checked.2) with position := .visiting iter offlineSessions }

def step (s : SessionAliveChecker) : CheckEvent → Option SessionAliveChecker
  | .create =>
    some { s.setObject s.nextSessionId (some {}) with nextSessionId := s.nextSessionId + 1 }
  | .addSession sessionId =>
    if s.position = .waiting ∧ s.object sessionId ≠ none then some (s.addSession sessionId).2 else none
  | .removeSession sessionId =>
    if s.position = .waiting then some (s.removeSession sessionId).2 else none
  | .refresh sessionId =>
    match s.object sessionId with
    | none => some s
    | some session => session.refreshHeartbeat.map fun session => s.setObject sessionId (some session)
  | .expire sessionId => some (s.setObject sessionId none)
  | .beginPass order =>
    if s.position = .waiting ∧ order.Perm s.m_sessions then some { s with position := .visiting order [] }
    else none
  | .visit sessionId =>
    match s.position with
    | .visiting (current :: iter) offlineSessions =>
      if current = sessionId then some (s.visit sessionId iter offlineSessions) else none
    | _ => none
  | .endPass =>
    match s.position with
    | .visiting [] offlineSessions =>
      some { s with position := .waiting, reported := s.reported ++ offlineSessions }
    | _ => none

def start : SessionAliveChecker where
  nextSessionId := 1
  object _ := none
  m_sessions := []
  position := .waiting
  reported := []

end SessionAliveChecker

def aliveChecker : TransitionSystem SessionAliveChecker CheckEvent where
  init s := s = .start
  step := SessionAliveChecker.step

/-! ### Silence -/

/-- There was no heartbeat since the session was visited last. -/
def Silent (sessionId : SessionId) (events : List CheckEvent) : Prop :=
  ∃ before after, events = before ++ .visit sessionId :: after ∧ .refresh sessionId ∉ after

/-- The last event decides: a visit, or silence before and no heartbeat. -/
theorem silent_append (sessionId : SessionId) (events : List CheckEvent) (event : CheckEvent) :
    Silent sessionId (events ++ [event]) ↔
      event = .visit sessionId ∨ Silent sessionId events ∧ event ≠ .refresh sessionId := by
  constructor
  · intro h
    obtain ⟨before, after, hevents, hquiet⟩ := h
    cases List.eq_nil_or_concat after with
    | inl hnil =>
      subst hnil
      obtain ⟨-, hlast⟩ := List.append_inj' hevents rfl
      injection hlast with hevent
      exact .inl hevent
    | inr hsnoc =>
      obtain ⟨after, last, rfl⟩ := hsnoc
      rw [List.concat_eq_append, ← List.cons_append, ← List.append_assoc] at hevents
      obtain ⟨hinit, hlast⟩ := List.append_inj' hevents rfl
      injection hlast with hevent
      rw [List.concat_eq_append, List.mem_append, not_or, List.mem_singleton] at hquiet
      refine .inr ⟨⟨before, after, hinit, hquiet.1⟩, fun heq => hquiet.2 ?_⟩
      rw [← hevent, heq]
  · intro h
    cases h with
    | inl hvisit => exact ⟨events, [], by rw [hvisit], List.not_mem_nil⟩
    | inr hquiet =>
      obtain ⟨⟨before, after, rfl, hafter⟩, hne⟩ := hquiet
      refine ⟨before, after ++ [event], by rw [List.append_assoc, List.cons_append], ?_⟩
      rw [List.mem_append, List.mem_singleton, not_or]
      exact ⟨hafter, fun heq => hne heq.symm⟩

/-! ### The tables -/

section Invariant

variable {s s' : SessionAliveChecker} {event : CheckEvent} {sessionId : SessionId}

theorem visit_cases (hstep : aliveChecker.step s (.visit sessionId) = some s') :
    ∃ iter offlineSessions, s.position = .visiting (sessionId :: iter) offlineSessions ∧
      s' = s.visit sessionId iter offlineSessions := by
  change (match s.position with
    | .visiting (current :: iter) offlineSessions =>
      if current = sessionId then some (s.visit sessionId iter offlineSessions) else none
    | _ => none) = some s' at hstep
  split at hstep
  · next current iter offlineSessions hposition =>
    obtain ⟨heq, hs'⟩ := Option.ite_none_right_eq_some.mp hstep
    cases hs'
    subst heq
    exact ⟨iter, offlineSessions, hposition, rfl⟩
  · cases hstep

/-- A heartbeat reaches a session that there is, or nobody. -/
theorem refresh_cases (hstep : aliveChecker.step s (.refresh sessionId) = some s') :
    s.object sessionId = none ∧ s' = s ∨
    ∃ session session', s.object sessionId = some session ∧ session.refreshHeartbeat = some session' ∧
      s' = s.setObject sessionId (some session') := by
  change (match s.object sessionId with
    | none => some s
    | some session => session.refreshHeartbeat.map fun session =>
        s.setObject sessionId (some session)) = some s' at hstep
  split at hstep
  · next hnone =>
    cases hstep
    exact .inl ⟨hnone, rfl⟩
  · next session hsession =>
    obtain ⟨session', hrefresh, rfl⟩ := Option.map_eq_some_iff.mp hstep
    exact .inr ⟨session, session', hsession, hrefresh, rfl⟩

theorem endPass_cases (hstep : aliveChecker.step s .endPass = some s') :
    ∃ offlineSessions, s.position = .visiting [] offlineSessions ∧
      s' = { s with position := .waiting, reported := s.reported ++ offlineSessions } := by
  change (match s.position with
    | .visiting [] offlineSessions =>
      some { s with position := .waiting, reported := s.reported ++ offlineSessions }
    | _ => none) = some s' at hstep
  split at hstep
  · next offlineSessions hposition =>
    cases hstep
    exact ⟨offlineSessions, hposition, rfl⟩
  · cases hstep

/-- The table has no session twice, and a pass visits none twice. -/
structure Table (s : SessionAliveChecker) : Prop where
  nodup : s.m_sessions.Nodup
  iter_nodup : s.position.iter.Nodup
  iter_mem : ∀ sessionId ∈ s.position.iter, sessionId ∈ s.m_sessions
  known : ∀ sessionId ∈ s.m_sessions, sessionId < s.nextSessionId
  created : ∀ sessionId, s.object sessionId ≠ none → sessionId < s.nextSessionId

theorem setObject_object_self (s : SessionAliveChecker) (sessionId : SessionId)
    (session : Option P2PSession) : (s.setObject sessionId session).object sessionId = session :=
  Function.update_self ..

theorem setObject_object_ne (s : SessionAliveChecker) {sessionId other : SessionId}
    (session : Option P2PSession) (h : other ≠ sessionId) :
    (s.setObject sessionId session).object other = s.object other :=
  Function.update_of_ne h ..

/-- A write to a session that there is, or that is no more. -/
theorem Table.setObject (h : Table s) {session : Option P2PSession}
    (hsession : session ≠ none → s.object sessionId ≠ none) : Table (s.setObject sessionId session) where
  nodup := h.nodup
  iter_nodup := h.iter_nodup
  iter_mem := h.iter_mem
  known := h.known
  created other hother := by
    by_cases heq : other = sessionId
    · subst heq
      rw [setObject_object_self] at hother
      exact h.created other (hsession hother)
    · rw [setObject_object_ne s session heq] at hother
      exact h.created other hother

/-- **A visit**: the session may leave the table, and it is not visited again in the pass. -/
theorem Table.visit (h : Table s) {iter offlineSessions : List SessionId}
    (hposition : s.position = .visiting (sessionId :: iter) offlineSessions) :
    Table (s.visit sessionId iter offlineSessions) := by
  have hnodup := h.iter_nodup
  have hmem := h.iter_mem
  rw [hposition] at hnodup hmem
  obtain ⟨hnot, hrest⟩ := List.nodup_cons.mp hnodup
  have hkept : ∀ other ∈ iter, other ∈ s.m_sessions.erase sessionId := by
    intro other hother
    have hne : other ≠ sessionId := fun heq => hnot (heq ▸ hother)
    exact (List.mem_erase_of_ne hne).mpr (hmem other (List.mem_cons_of_mem _ hother))
  have herased : ∀ other ∈ s.m_sessions.erase sessionId, other < s.nextSessionId :=
    fun other hother => h.known other (List.mem_of_mem_erase hother)
  unfold SessionAliveChecker.visit
  split
  · exact ⟨h.nodup.erase _, hrest, hkept, herased, h.created⟩
  · next session hsession =>
    have hobject : s.object sessionId ≠ none := by
      rw [hsession]
      exact Option.some_ne_none _
    dsimp only
    split
    · exact ⟨h.nodup.erase _, hrest, hkept, herased, (h.setObject fun _ => hobject).created⟩
    · exact ⟨h.nodup, hrest, fun other hother => hmem other (List.mem_cons_of_mem _ hother), h.known,
        (h.setObject fun _ => hobject).created⟩

theorem Table.step (h : Table s) (hstep : aliveChecker.step s event = some s') : Table s' := by
  cases event with
  | create =>
    cases hstep
    refine ⟨h.nodup, h.iter_nodup, h.iter_mem, fun other hother => ?_, fun other hother => ?_⟩
    · exact Nat.lt_succ_of_lt (h.known other hother)
    · by_cases heq : other = s.nextSessionId
      · exact Nat.lt_succ_of_le (Nat.le_of_eq heq)
      · have hold : s.object other ≠ none := by
          rw [← setObject_object_ne s (some {}) heq]
          exact hother
        exact Nat.lt_succ_of_lt (h.created other hold)
  | addSession sessionId =>
    obtain ⟨⟨hwaiting, hobject⟩, heq⟩ := Option.ite_none_right_eq_some.mp hstep
    cases heq
    unfold SessionAliveChecker.addSession
    split
    · exact h
    · next hnew =>
      refine ⟨?_, h.iter_nodup, fun other hother => ?_, fun other hother => ?_, h.created⟩
      · refine List.nodup_append.mpr ⟨h.nodup, List.nodup_singleton _, fun a ha b hb hab => hnew ?_⟩
        rw [← List.mem_singleton.mp hb, ← hab]
        exact ha
      · exact List.mem_append_left _ (h.iter_mem other hother)
      · cases List.mem_append.mp hother with
        | inl hold => exact h.known other hold
        | inr hlast =>
          rw [List.mem_singleton.mp hlast]
          exact h.created sessionId hobject
  | removeSession sessionId =>
    obtain ⟨hwaiting, heq⟩ := Option.ite_none_right_eq_some.mp hstep
    cases heq
    unfold SessionAliveChecker.removeSession
    split
    · refine ⟨h.nodup.erase _, h.iter_nodup, fun other hother => ?_, fun other hother => ?_, h.created⟩
      · have hnone : other ∈ s.position.iter := hother
        rw [hwaiting] at hnone
        cases hnone
      · exact h.known other (List.mem_of_mem_erase hother)
    · exact h
  | refresh sessionId =>
    obtain ⟨-, rfl⟩ | ⟨session, session', hsession, -, rfl⟩ := refresh_cases hstep
    · exact h
    · refine h.setObject fun _ => ?_
      rw [hsession]
      exact Option.some_ne_none _
  | expire sessionId =>
    cases hstep
    exact h.setObject fun hnone => absurd rfl hnone
  | beginPass order =>
    obtain ⟨⟨hwaiting, hperm⟩, heq⟩ := Option.ite_none_right_eq_some.mp hstep
    cases heq
    exact ⟨h.nodup, hperm.nodup_iff.mpr h.nodup, fun other hother => hperm.subset hother, h.known,
      h.created⟩
  | visit sessionId =>
    obtain ⟨iter, offlineSessions, hposition, rfl⟩ := visit_cases hstep
    exact h.visit hposition
  | endPass =>
    obtain ⟨offlineSessions, -, rfl⟩ := endPass_cases hstep
    exact ⟨h.nodup, List.nodup_nil, nofun, h.known, h.created⟩

end Invariant

/-! ### The counters -/

section Counters

variable {s s' : SessionAliveChecker} {event : CheckEvent} {events : List CheckEvent}
variable {sessionId : SessionId}

/-- The two counters of a session agree exactly while it is silent. -/
structure Counts (events : List CheckEvent) (s : SessionAliveChecker) : Prop where
  visited : ∀ sessionId, .visit sessionId ∈ events → sessionId < s.nextSessionId
  le : ∀ sessionId session, s.object sessionId = some session →
    session.m_lastRecvCount ≤ session.m_recvCount
  eq_iff : ∀ sessionId session, s.object sessionId = some session →
    (session.m_lastRecvCount = session.m_recvCount ↔ Silent sessionId events)

theorem Counts.timeout_iff (h : Counts events s) {session : P2PSession}
    (hsession : s.object sessionId = some session) :
    session.isHeartbeatTimeout.1 = true ↔ Silent sessionId events := by
  show (session.m_lastRecvCount == session.m_recvCount) = true ↔ _
  rw [beq_iff_eq]
  exact h.eq_iff sessionId session hsession

theorem silent_visited (h : Silent sessionId events) : .visit sessionId ∈ events := by
  obtain ⟨before, after, rfl, -⟩ := h
  exact List.mem_append_right _ List.mem_cons_self

/-- Steps that neither visit a session nor change its counters. -/
theorem Counts.frame (h : Counts events s) (hvisit : ∀ sessionId, event ≠ .visit sessionId)
    (hnext : s.nextSessionId ≤ s'.nextSessionId)
    (hobject : ∀ sessionId session, s'.object sessionId = some session →
      s.object sessionId = some session ∧ event ≠ .refresh sessionId) :
    Counts (events ++ [event]) s' where
  visited sessionId hmem := by
    cases List.mem_append.mp hmem with
    | inl hold => exact Nat.lt_of_lt_of_le (h.visited sessionId hold) hnext
    | inr hlast => exact absurd (List.mem_singleton.mp hlast).symm (hvisit sessionId)
  le sessionId session hsession := h.le sessionId session (hobject sessionId session hsession).1
  eq_iff sessionId session hsession := by
    obtain ⟨hold, hne⟩ := hobject sessionId session hsession
    rw [h.eq_iff sessionId session hold, silent_append]
    exact ⟨fun hsilent => .inr ⟨hsilent, hne⟩,
      fun hcases => hcases.elim (fun heq => absurd heq (hvisit sessionId)) And.left⟩

/-- Steps that change the counters of one session. -/
theorem Counts.update (h : Counts events s) {session' : P2PSession}
    (hvisit : ∀ other, event = .visit other → other = sessionId)
    (hrefresh : ∀ other, event = .refresh other → other = sessionId)
    (hknown : sessionId < s.nextSessionId) (hnext : s'.nextSessionId = s.nextSessionId)
    (hself : s'.object sessionId = some session')
    (hother : ∀ other, other ≠ sessionId → s'.object other = s.object other)
    (hle : session'.m_lastRecvCount ≤ session'.m_recvCount)
    (heq : session'.m_lastRecvCount = session'.m_recvCount ↔ Silent sessionId (events ++ [event])) :
    Counts (events ++ [event]) s' where
  visited other hmem := by
    rw [hnext]
    cases List.mem_append.mp hmem with
    | inl hold => exact h.visited other hold
    | inr hlast =>
      rw [hvisit other (List.mem_singleton.mp hlast).symm]
      exact hknown
  le other session hsession := by
    by_cases hsame : other = sessionId
    · subst hsame
      rw [hself] at hsession
      cases hsession
      exact hle
    · rw [hother other hsame] at hsession
      exact h.le other session hsession
  eq_iff other session hsession := by
    by_cases hsame : other = sessionId
    · subst hsame
      rw [hself] at hsession
      cases hsession
      exact heq
    · rw [hother other hsame] at hsession
      rw [h.eq_iff other session hsession, silent_append]
      exact ⟨fun hsilent => .inr ⟨hsilent, fun hevent => hsame (hrefresh other hevent)⟩,
        fun hcases => hcases.elim (fun hevent => absurd (hvisit other hevent) hsame) And.left⟩

/-- What a visit leaves of the session: the counters agree. -/
theorem visit_object (s : SessionAliveChecker) (sessionId : SessionId)
    (iter offlineSessions : List SessionId) :
    (s.visit sessionId iter offlineSessions).object = Function.update s.object sessionId
      ((s.object sessionId).map fun session => session.isHeartbeatTimeout.2) := by
  unfold SessionAliveChecker.visit
  split
  · next hnone =>
    rw [hnone, Option.map_none, ← hnone, Function.update_eq_self]
  · next session hsession =>
    rw [hsession, Option.map_some]
    dsimp only
    split <;> rfl

theorem Counts.visit (h : Counts events s) (htable : Table s) {iter offlineSessions : List SessionId}
    (hposition : s.position = .visiting (sessionId :: iter) offlineSessions) :
    Counts (events ++ [.visit sessionId]) (s.visit sessionId iter offlineSessions) := by
  have hknown : sessionId < s.nextSessionId := by
    refine htable.known sessionId (htable.iter_mem sessionId ?_)
    rw [hposition]
    exact List.mem_cons_self
  have hnext : (s.visit sessionId iter offlineSessions).nextSessionId = s.nextSessionId := by
    unfold SessionAliveChecker.visit
    split
    · rfl
    · dsimp only
      split <;> rfl
  have hobject := visit_object s sessionId iter offlineSessions
  have hother (other : SessionId) (hne : other ≠ sessionId) :
      (s.visit sessionId iter offlineSessions).object other = s.object other := by
    rw [hobject, Function.update_of_ne hne]
  cases hsession : s.object sessionId with
  | none =>
    refine ⟨fun other hmem => ?_, fun other session hsome => ?_, fun other session hsome => ?_⟩
    · rw [hnext]
      cases List.mem_append.mp hmem with
      | inl hold => exact h.visited other hold
      | inr hlast =>
        cases List.mem_singleton.mp hlast
        exact hknown
    all_goals
      have hne : other ≠ sessionId := by
        intro heq
        rw [heq, hobject, Function.update_self, hsession] at hsome
        cases hsome
      rw [hother other hne] at hsome
    · exact h.le other session hsome
    · rw [h.eq_iff other session hsome, silent_append]
      refine ⟨fun hsilent => .inr ⟨hsilent, nofun⟩, fun hcases => ?_⟩
      exact hcases.elim (fun hevent => absurd (CheckEvent.visit.inj hevent).symm hne) And.left
  | some session =>
    have hself : (s.visit sessionId iter offlineSessions).object sessionId =
        some session.isHeartbeatTimeout.2 := by
      rw [hobject, Function.update_self, hsession, Option.map_some]
    refine h.update (fun other hevent => ?_) (fun other hevent => nomatch hevent) hknown hnext hself hother
      (Int.le_refl _) (iff_of_true rfl ((silent_append _ _ _).mpr (.inl rfl)))
    exact (CheckEvent.visit.inj hevent).symm

theorem Counts.step (h : Counts events s) (htable : Table s)
    (hstep : aliveChecker.step s event = some s') : Counts (events ++ [event]) s' := by
  cases event with
  | create =>
    cases hstep
    have hfresh : s.object s.nextSessionId = none := by
      by_contra hsome
      exact Nat.lt_irrefl _ (htable.created _ hsome)
    refine ⟨fun other hmem => ?_, fun other session hsome => ?_, fun other session hsome => ?_⟩
    · cases List.mem_append.mp hmem with
      | inl hold => exact Nat.lt_succ_of_lt (h.visited other hold)
      | inr hlast => cases List.mem_singleton.mp hlast
    all_goals
      change (s.setObject s.nextSessionId (some {})).object other = some session at hsome
      by_cases hne : other = s.nextSessionId
      · subst hne
        rw [setObject_object_self] at hsome
        cases hsome
        first
          | exact Int.zero_le_ofNat 1
          | -- a new session has not been visited
            refine iff_of_false (by decide) fun hsilent => ?_
            cases List.mem_append.mp (silent_visited hsilent) with
            | inl hold => exact Nat.lt_irrefl _ (h.visited _ hold)
            | inr hlast => cases List.mem_singleton.mp hlast
      · rw [setObject_object_ne s _ hne] at hsome
        first
          | exact h.le other session hsome
          | rw [h.eq_iff other session hsome, silent_append]
            exact ⟨fun hsilent => .inr ⟨hsilent, nofun⟩, fun hcases => hcases.elim nofun And.left⟩
  | addSession sessionId =>
    obtain ⟨-, heq⟩ := Option.ite_none_right_eq_some.mp hstep
    cases heq
    unfold SessionAliveChecker.addSession
    split <;> exact h.frame nofun (Nat.le_refl _) fun other session hsome => ⟨hsome, nofun⟩
  | removeSession sessionId =>
    obtain ⟨-, heq⟩ := Option.ite_none_right_eq_some.mp hstep
    cases heq
    unfold SessionAliveChecker.removeSession
    split <;> exact h.frame nofun (Nat.le_refl _) fun other session hsome => ⟨hsome, nofun⟩
  | refresh sessionId =>
    obtain ⟨hnone, rfl⟩ | ⟨session, session', hsession, hrefresh, rfl⟩ := refresh_cases hstep
    · refine h.frame nofun (Nat.le_refl _) fun other session hsome => ⟨hsome, fun hevent => ?_⟩
      rw [← CheckEvent.refresh.inj hevent, hnone] at hsome
      cases hsome
    · obtain ⟨-, hsession'⟩ := Option.ite_none_right_eq_some.mp hrefresh
      have hle := h.le sessionId session hsession
      have hknown : sessionId < s.nextSessionId := by
        apply htable.created
        rw [hsession]
        exact Option.some_ne_none _
      have hmore : session'.m_lastRecvCount < session'.m_recvCount := by
        cases hsession'
        exact Int.lt_add_one_of_le hle
      refine h.update (fun other hevent => nomatch hevent)
        (fun other hevent => (CheckEvent.refresh.inj hevent).symm) hknown rfl
        (setObject_object_self ..) (fun other hne => setObject_object_ne s _ hne) (Int.le_of_lt hmore) ?_
      refine iff_of_false (Int.ne_of_lt hmore) fun hsilent => ?_
      exact ((silent_append _ _ _).mp hsilent).elim nofun fun hquiet => hquiet.2 rfl
  | expire sessionId =>
    cases hstep
    refine h.frame nofun (Nat.le_refl _) fun other session hsome => ⟨?_, nofun⟩
    by_cases hne : other = sessionId
    · rw [hne, setObject_object_self] at hsome
      cases hsome
    · rw [setObject_object_ne s _ hne] at hsome
      exact hsome
  | beginPass order =>
    obtain ⟨-, heq⟩ := Option.ite_none_right_eq_some.mp hstep
    cases heq
    exact h.frame nofun (Nat.le_refl _) fun other session hsome => ⟨hsome, nofun⟩
  | visit sessionId =>
    obtain ⟨iter, offlineSessions, hposition, rfl⟩ := visit_cases hstep
    exact h.visit htable hposition
  | endPass =>
    obtain ⟨offlineSessions, -, rfl⟩ := endPass_cases hstep
    exact h.frame nofun (Nat.le_refl _) fun other session hsome => ⟨hsome, nofun⟩

end Counters

/-! ### Reports -/

section Reports

variable {s s' : SessionAliveChecker} {event : CheckEvent} {events : List CheckEvent}
variable {sessionId : SessionId}

/-- At some point the session was visited alive while it was silent. -/
def FoundSilent (sessionId : SessionId) (events : List CheckEvent) : Prop :=
  ∃ before after s, events = before ++ .visit sessionId :: after ∧
    aliveChecker.run .start before = some s ∧ s.object sessionId ≠ none ∧ Silent sessionId before

theorem foundSilent_append (hrun : aliveChecker.run .start events = some s) :
    FoundSilent sessionId (events ++ [event]) ↔ FoundSilent sessionId events ∨
      event = .visit sessionId ∧ s.object sessionId ≠ none ∧ Silent sessionId events := by
  constructor
  · intro h
    obtain ⟨before, after, t, hevents, hrun', halive, hsilent⟩ := h
    cases List.eq_nil_or_concat after with
    | inl hnil =>
      subst hnil
      obtain ⟨rfl, hlast⟩ := List.append_inj' hevents rfl
      injection hlast with hevent
      rw [hrun] at hrun'
      cases hrun'
      exact .inr ⟨hevent, halive, hsilent⟩
    | inr hsnoc =>
      obtain ⟨after, last, rfl⟩ := hsnoc
      rw [List.concat_eq_append, ← List.cons_append, ← List.append_assoc] at hevents
      obtain ⟨hinit, -⟩ := List.append_inj' hevents rfl
      exact .inl ⟨before, after, t, hinit, hrun', halive, hsilent⟩
  · intro h
    cases h with
    | inl hold =>
      obtain ⟨before, after, t, rfl, hrun', halive, hsilent⟩ := hold
      exact ⟨before, after ++ [event], t, by rw [List.append_assoc, List.cons_append], hrun', halive,
        hsilent⟩
    | inr hnow =>
      obtain ⟨rfl, halive, hsilent⟩ := hnow
      exact ⟨events, [], s, rfl, hrun, halive, hsilent⟩

/-- What has been reported, or will be at the end of the pass. -/
def SessionAliveChecker.found (s : SessionAliveChecker) : List SessionId :=
  s.reported ++ s.position.offline

/-- **A visit finds a session dead exactly when it is silent.** -/
theorem found_visit (hcounts : Counts events s) {iter offlineSessions : List SessionId}
    (hposition : s.position = .visiting (sessionId :: iter) offlineSessions) :
    (s.object sessionId ≠ none ∧ Silent sessionId events →
      (s.visit sessionId iter offlineSessions).found = s.found ++ [sessionId]) ∧
    (¬ (s.object sessionId ≠ none ∧ Silent sessionId events) →
      (s.visit sessionId iter offlineSessions).found = s.found) := by
  unfold SessionAliveChecker.visit SessionAliveChecker.found
  rw [hposition]
  split
  · next hnone => exact ⟨fun h => absurd hnone h.1, fun _ => rfl⟩
  · next session hsession =>
    have halive : s.object sessionId ≠ none := by
      rw [hsession]
      exact Option.some_ne_none _
    have htimeout := hcounts.timeout_iff hsession
    dsimp only
    split
    · next hdead =>
      refine ⟨fun _ => (List.append_assoc ..).symm, fun hnot => ?_⟩
      exact absurd ⟨halive, htimeout.mp hdead⟩ hnot
    · next hlive => exact ⟨fun h => absurd (htimeout.mpr h.2) hlive, fun _ => rfl⟩

/-- Only visits find anything. -/
theorem found_step (hstep : aliveChecker.step s event = some s')
    (hvisit : ∀ sessionId, event ≠ .visit sessionId) : s'.found = s.found := by
  cases event with
  | create =>
    cases hstep
    rfl
  | addSession sessionId =>
    obtain ⟨-, heq⟩ := Option.ite_none_right_eq_some.mp hstep
    cases heq
    unfold SessionAliveChecker.addSession
    split <;> rfl
  | removeSession sessionId =>
    obtain ⟨-, heq⟩ := Option.ite_none_right_eq_some.mp hstep
    cases heq
    unfold SessionAliveChecker.removeSession
    split <;> rfl
  | refresh sessionId =>
    obtain ⟨-, rfl⟩ | ⟨session, session', -, -, rfl⟩ := refresh_cases hstep <;> rfl
  | expire sessionId =>
    cases hstep
    rfl
  | beginPass order =>
    obtain ⟨⟨hwaiting, -⟩, heq⟩ := Option.ite_none_right_eq_some.mp hstep
    cases heq
    unfold SessionAliveChecker.found
    rw [hwaiting]
    rfl
  | visit sessionId => exact absurd rfl (hvisit sessionId)
  | endPass =>
    obtain ⟨offlineSessions, hposition, rfl⟩ := endPass_cases hstep
    unfold SessionAliveChecker.found
    rw [hposition]
    exact List.append_nil _

/-- Only additions, removals and visits change the table. -/
theorem sessions_step (hstep : aliveChecker.step s event = some s')
    (hadd : ∀ sessionId, event ≠ .addSession sessionId)
    (hremove : ∀ sessionId, event ≠ .removeSession sessionId)
    (hvisit : ∀ sessionId, event ≠ .visit sessionId) : s'.m_sessions = s.m_sessions := by
  cases event with
  | create | expire =>
    cases hstep
    rfl
  | addSession sessionId => exact absurd rfl (hadd sessionId)
  | removeSession sessionId => exact absurd rfl (hremove sessionId)
  | refresh sessionId =>
    obtain ⟨-, rfl⟩ | ⟨session, session', -, -, rfl⟩ := refresh_cases hstep <;> rfl
  | beginPass order =>
    obtain ⟨-, heq⟩ := Option.ite_none_right_eq_some.mp hstep
    cases heq
    rfl
  | visit sessionId => exact absurd rfl (hvisit sessionId)
  | endPass =>
    obtain ⟨offlineSessions, -, rfl⟩ := endPass_cases hstep
    rfl

/-- The invariant of a run and its history. -/
structure Checks (events : List CheckEvent) (s : SessionAliveChecker) : Prop where
  table : Table s
  counts : Counts events s
  found_iff : ∀ sessionId, sessionId ∈ s.found ↔ FoundSilent sessionId events

theorem checks_of_run (hrun : aliveChecker.run .start events = some s) : Checks events s := by
  refine TransitionSystem.run_history (P := Checks) ?_ ?_ hrun
  · refine ⟨⟨List.nodup_nil, List.nodup_nil, nofun, nofun, fun other hother => absurd rfl hother⟩,
      ⟨nofun, nofun, nofun⟩, fun other => iff_of_false List.not_mem_nil fun h => ?_⟩
    obtain ⟨before, after, t, hevents, -⟩ := h
    exact List.append_ne_nil_of_right_ne_nil before (List.cons_ne_nil _ _) hevents.symm
  · intro events s event s' h hrun hstep
    refine ⟨h.table.step hstep, h.counts.step h.table hstep, fun other => ?_⟩
    rw [foundSilent_append hrun, ← h.found_iff other]
    by_cases hvisit : ∃ sessionId, event = .visit sessionId
    · obtain ⟨sessionId, rfl⟩ := hvisit
      obtain ⟨iter, offlineSessions, hposition, rfl⟩ := visit_cases hstep
      obtain ⟨hdead, hlive⟩ := found_visit h.counts hposition
      by_cases hfound : s.object sessionId ≠ none ∧ Silent sessionId events
      · rw [hdead hfound, List.mem_append, List.mem_singleton]
        refine or_congr_right ⟨fun heq => ?_, fun hnow => (CheckEvent.visit.inj hnow.1).symm⟩
        rw [heq]
        exact ⟨rfl, hfound⟩
      · rw [hlive hfound]
        refine (or_iff_left fun hnow => hfound ?_).symm
        rw [CheckEvent.visit.inj hnow.1]
        exact hnow.2
    · have hne : ∀ sessionId, event ≠ .visit sessionId := fun sessionId heq => hvisit ⟨sessionId, heq⟩
      rw [found_step hstep hne]
      exact (or_iff_left fun hnow => hne other hnow.1).symm

/-- **Who is reported**: the sessions that have been reported, or are about to be, are exactly those that the
checker visited alive although no heartbeat had come since the visit before. -/
theorem reported_iff (hrun : aliveChecker.run .start events = some s) (sessionId : SessionId) :
    sessionId ∈ s.reported ++ s.position.offline ↔ FoundSilent sessionId events :=
  (checks_of_run hrun).found_iff sessionId

/-- A session is added, goes through two passes without a heartbeat, and has one after that. -/
def twoPasses : List CheckEvent :=
  [.create, .addSession 1, .beginPass [1], .visit 1, .endPass, .beginPass [1], .visit 1, .endPass, .refresh 1]

theorem reported_iff_twoPasses : ∃ s, aliveChecker.run .start twoPasses = some s ∧ s.reported = [1] ∧
    (1 ∈ s.reported ++ s.position.offline ↔ FoundSilent 1 twoPasses) :=
  ⟨_, rfl, rfl, reported_iff rfl 1⟩

/-- A visit moves a dead session from the table to the dead ones, and changes neither list otherwise. -/
theorem count_visit (htable : Table s) {iter offlineSessions : List SessionId}
    (hposition : s.position = .visiting (sessionId :: iter) offlineSessions) (other : SessionId) :
    (s.visit sessionId iter offlineSessions).found.count other +
        (s.visit sessionId iter offlineSessions).m_sessions.count other ≤
      s.found.count other + s.m_sessions.count other := by
  have hmem : sessionId ∈ s.m_sessions := by
    apply htable.iter_mem
    rw [hposition]
    exact List.mem_cons_self
  have herase : (s.m_sessions.erase sessionId).count other + [sessionId].count other =
      s.m_sessions.count other := by
    rw [(List.perm_cons_erase hmem).count_eq other, List.count_singleton, List.count_cons]
  unfold SessionAliveChecker.visit SessionAliveChecker.found
  rw [hposition]
  split
  · apply Nat.add_le_add_left
    exact List.Sublist.count_le _ List.erase_sublist
  · dsimp only
    split
    · show (s.reported ++ (offlineSessions ++ [sessionId])).count other +
        (s.m_sessions.erase sessionId).count other ≤
        (s.reported ++ offlineSessions).count other + s.m_sessions.count other
      rw [List.count_append, List.count_append, List.count_append]
      omega
    · exact Nat.le_refl _

/-- **Nobody is reported more often than added.** -/
theorem reported_count_le (hrun : aliveChecker.run .start events = some s) (sessionId : SessionId) :
    (s.reported ++ s.position.offline).count sessionId + s.m_sessions.count sessionId ≤
      events.count (.addSession sessionId) := by
  show s.found.count sessionId + s.m_sessions.count sessionId ≤ _
  refine TransitionSystem.run_history
    (P := fun events s => s.found.count sessionId + s.m_sessions.count sessionId ≤
      events.count (.addSession sessionId)) (Nat.le_refl _) ?_ hrun
  intro events s event s' h hrun hstep
  have hcount : events.count (.addSession sessionId) ≤ (events ++ [event]).count (.addSession sessionId) :=
    (List.sublist_append_left _ _).count_le _
  cases event with
  | addSession added =>
    rw [found_step hstep nofun]
    obtain ⟨-, heq⟩ := Option.ite_none_right_eq_some.mp hstep
    cases heq
    unfold SessionAliveChecker.addSession
    split
    · exact Nat.le_trans h hcount
    · show s.found.count sessionId + (s.m_sessions ++ [added]).count sessionId ≤ _
      rw [List.count_append, List.count_append, List.count_singleton, List.count_singleton]
      by_cases hadded : added = sessionId
      · subst hadded
        simp only [beq_self_eq_true, if_true]
        omega
      · have hne : (added == sessionId) = false := beq_eq_false_iff_ne.mpr hadded
        rw [hne, if_neg Bool.false_ne_true]
        omega
  | removeSession removed =>
    rw [found_step hstep nofun]
    obtain ⟨-, heq⟩ := Option.ite_none_right_eq_some.mp hstep
    cases heq
    unfold SessionAliveChecker.removeSession
    split
    · refine Nat.le_trans (Nat.add_le_add_left ?_ _) (Nat.le_trans h hcount)
      exact List.Sublist.count_le _ List.erase_sublist
    · exact Nat.le_trans h hcount
  | visit visited =>
    obtain ⟨iter, offlineSessions, hposition, rfl⟩ := visit_cases hstep
    have hle := count_visit (checks_of_run hrun).table hposition sessionId
    exact Nat.le_trans hle (Nat.le_trans h hcount)
  | create | refresh | expire | beginPass | endPass =>
    rw [found_step hstep nofun, sessions_step hstep nofun nofun nofun]
    exact Nat.le_trans h hcount

theorem reported_count_le_twoPasses : ∃ s, aliveChecker.run .start twoPasses = some s ∧
    (s.reported ++ s.position.offline).count 1 + s.m_sessions.count 1 ≤ twoPasses.count (.addSession 1) :=
  ⟨_, rfl, reported_count_le rfl 1⟩

end Reports

/-! ### Two passes -/

section Passes

variable {s s' : SessionAliveChecker} {event : CheckEvent} {events : List CheckEvent}
variable {sessionId : SessionId}

/-- The session is neither heard of nor let go. -/
def Quiet (sessionId : SessionId) (events : List CheckEvent) : Prop :=
  .refresh sessionId ∉ events ∧ .expire sessionId ∉ events ∧ .removeSession sessionId ∉ events

/-- The session is there, and in the table or found dead. -/
structure Followed (sessionId : SessionId) (s : SessionAliveChecker) : Prop where
  object : s.object sessionId ≠ none
  mem : sessionId ∈ s.m_sessions ∨ sessionId ∈ s.found

theorem Followed.visit (h : Followed sessionId s) {visited : SessionId} {iter offlineSessions : List SessionId}
    (hposition : s.position = .visiting (visited :: iter) offlineSessions) :
    Followed sessionId (s.visit visited iter offlineSessions) := by
  have hobject : (s.visit visited iter offlineSessions).object sessionId ≠ none := by
    rw [visit_object]
    by_cases heq : sessionId = visited
    · rw [← heq, Function.update_self]
      intro hnone
      exact h.object (Option.map_eq_none_iff.mp hnone)
    · rw [Function.update_of_ne heq]
      exact h.object
  refine ⟨hobject, ?_⟩
  have hmem := h.mem
  have hkept (hne : sessionId ≠ visited) (hold : sessionId ∈ s.m_sessions) :
      sessionId ∈ s.m_sessions.erase visited :=
    (List.mem_erase_of_ne hne).mpr hold
  unfold SessionAliveChecker.found at hmem
  rw [hposition] at hmem
  unfold SessionAliveChecker.visit SessionAliveChecker.found
  split
  · next hnone =>
    have hne : sessionId ≠ visited := fun heq => h.object (heq ▸ hnone)
    exact hmem.imp_left (hkept hne)
  · dsimp only
    split
    · show sessionId ∈ s.m_sessions.erase visited ∨
        sessionId ∈ s.reported ++ (offlineSessions ++ [visited])
      rw [← List.append_assoc, List.mem_append, List.mem_singleton]
      by_cases heq : sessionId = visited
      · exact .inr (.inr heq)
      · exact hmem.imp (hkept heq) .inl
    · exact hmem

theorem Followed.step (h : Followed sessionId s) (hstep : aliveChecker.step s event = some s')
    (hquiet : Quiet sessionId [event]) : Followed sessionId s' := by
  obtain ⟨hrefresh, hexpire, hremove⟩ := hquiet
  rw [List.mem_singleton] at hrefresh hexpire hremove
  have hfound (hvisit : ∀ sessionId, event ≠ .visit sessionId) (hold : sessionId ∈ s.found) :
      sessionId ∈ s'.found := by
    rw [found_step hstep hvisit]
    exact hold
  cases event with
  | create =>
    cases hstep
    refine ⟨?_, h.mem⟩
    show (s.setObject s.nextSessionId (some {})).object sessionId ≠ none
    by_cases heq : sessionId = s.nextSessionId
    · rw [heq, setObject_object_self]
      exact Option.some_ne_none _
    · rw [setObject_object_ne s _ heq]
      exact h.object
  | addSession added =>
    obtain ⟨-, heq⟩ := Option.ite_none_right_eq_some.mp hstep
    cases heq
    unfold SessionAliveChecker.addSession
    split
    · exact h
    · exact ⟨h.object, h.mem.imp_left (List.mem_append_left _)⟩
  | removeSession removed =>
    have hne : sessionId ≠ removed := fun heq => hremove (congrArg _ heq)
    obtain ⟨-, heq⟩ := Option.ite_none_right_eq_some.mp hstep
    cases heq
    unfold SessionAliveChecker.removeSession
    split
    · exact ⟨h.object, h.mem.imp_left (List.mem_erase_of_ne hne).mpr⟩
    · exact h
  | refresh refreshed =>
    have hne : sessionId ≠ refreshed := fun heq => hrefresh (congrArg _ heq)
    obtain ⟨-, rfl⟩ | ⟨session, session', -, -, rfl⟩ := refresh_cases hstep
    · exact h
    · refine ⟨?_, h.mem⟩
      rw [setObject_object_ne s _ hne]
      exact h.object
  | expire expired =>
    have hne : sessionId ≠ expired := fun heq => hexpire (congrArg _ heq)
    cases hstep
    refine ⟨?_, h.mem⟩
    rw [setObject_object_ne s _ hne]
    exact h.object
  | beginPass order =>
    have hmem := h.mem.imp_right (hfound nofun)
    obtain ⟨-, heq⟩ := Option.ite_none_right_eq_some.mp hstep
    cases heq
    exact ⟨h.object, hmem⟩
  | visit visited =>
    obtain ⟨iter, offlineSessions, hposition, rfl⟩ := visit_cases hstep
    exact h.visit hposition
  | endPass =>
    have hmem := h.mem.imp_right (hfound nofun)
    obtain ⟨offlineSessions, -, rfl⟩ := endPass_cases hstep
    exact ⟨h.object, hmem⟩

theorem Followed.run (h : Followed sessionId s) (hrun : aliveChecker.run s events = some s')
    (hquiet : Quiet sessionId events) : Followed sessionId s' := by
  induction events generalizing s with
  | nil =>
    cases hrun
    exact h
  | cons event events ih =>
    obtain ⟨s₁, hstep, hrest⟩ := Option.bind_eq_some_iff.mp hrun
    obtain ⟨hrefresh, hexpire, hremove⟩ := hquiet
    simp only [List.mem_cons, not_or] at hrefresh hexpire hremove
    refine ih (h.step hstep ?_) hrest ⟨hrefresh.2, hexpire.2, hremove.2⟩
    simp only [Quiet, List.mem_singleton]
    exact ⟨hrefresh.1, hexpire.1, hremove.1⟩

/-- Who is to be visited stays so until visited. -/
theorem iter_step (hiter : sessionId ∈ s.position.iter) (hstep : aliveChecker.step s event = some s')
    (hne : event ≠ .visit sessionId) : sessionId ∈ s'.position.iter := by
  cases event with
  | create | expire =>
    cases hstep
    exact hiter
  | addSession added =>
    obtain ⟨-, heq⟩ := Option.ite_none_right_eq_some.mp hstep
    cases heq
    unfold SessionAliveChecker.addSession
    split <;> exact hiter
  | removeSession removed =>
    obtain ⟨-, heq⟩ := Option.ite_none_right_eq_some.mp hstep
    cases heq
    unfold SessionAliveChecker.removeSession
    split <;> exact hiter
  | refresh refreshed =>
    obtain ⟨-, rfl⟩ | ⟨session, session', -, -, rfl⟩ := refresh_cases hstep <;> exact hiter
  | beginPass order =>
    obtain ⟨⟨hwaiting, -⟩, -⟩ := Option.ite_none_right_eq_some.mp hstep
    rw [hwaiting] at hiter
    cases hiter
  | visit visited =>
    obtain ⟨iter, offlineSessions, hposition, rfl⟩ := visit_cases hstep
    have hrest : (s.visit visited iter offlineSessions).position.iter = iter := by
      unfold SessionAliveChecker.visit
      split
      · rfl
      · dsimp only
        split <;> rfl
    rw [hposition] at hiter
    rw [hrest]
    exact (List.mem_cons.mp hiter).resolve_left fun heq => hne (congrArg _ heq.symm)
  | endPass =>
    obtain ⟨offlineSessions, hposition, -⟩ := endPass_cases hstep
    rw [hposition] at hiter
    cases hiter

/-- **A pass that is over has visited everybody.** -/
theorem visited_of_run (hiter : sessionId ∈ s.position.iter) (hrun : aliveChecker.run s events = some s')
    (hwaiting : s'.position = .waiting) : .visit sessionId ∈ events := by
  induction events generalizing s with
  | nil =>
    cases hrun
    rw [hwaiting] at hiter
    cases hiter
  | cons event events ih =>
    obtain ⟨s₁, hstep, hrest⟩ := Option.bind_eq_some_iff.mp hrun
    by_cases hvisit : event = .visit sessionId
    · rw [hvisit]
      exact List.mem_cons_self
    · exact List.mem_cons_of_mem _ (ih (iter_step hiter hstep hvisit) hrest)

/-- A pass over a table with the session visits it. -/
theorem visited_of_pass {order : List SessionId} (hmem : sessionId ∈ s.m_sessions)
    (hrun : aliveChecker.run s (.beginPass order :: events) = some s') (hwaiting : s'.position = .waiting) :
    .visit sessionId ∈ events := by
  obtain ⟨s₁, hstep, hrest⟩ := Option.bind_eq_some_iff.mp hrun
  obtain ⟨⟨-, hperm⟩, heq⟩ := Option.ite_none_right_eq_some.mp hstep
  cases heq
  refine visited_of_run ?_ hrest hwaiting
  exact hperm.mem_iff.mpr hmem

end Passes

/-- **Two passes are enough.**  A session in the table that nobody hears of or lets go is reported when the
second of two passes is over: as soon as the checker waits again. -/
theorem silent_reported {before first second : List CheckEvent} {order order' : List SessionId}
    {sessionId : SessionId} {s₀ s₁ s₂ : SessionAliveChecker}
    (hbefore : aliveChecker.run .start before = some s₀)
    (hfirst : aliveChecker.run s₀ (.beginPass order :: first) = some s₁)
    (hsecond : aliveChecker.run s₁ (.beginPass order' :: second) = some s₂)
    (hwaiting : s₂.position = .waiting) (hmem : sessionId ∈ s₀.m_sessions)
    (hobject : s₀.object sessionId ≠ none) (hquiet : Quiet sessionId (first ++ second)) :
    sessionId ∈ s₂.reported := by
  obtain ⟨hrefresh, hexpire, hremove⟩ := hquiet
  simp only [List.mem_append, not_or] at hrefresh hexpire hremove
  have hfound : s₂.found = s₂.reported := by
    unfold SessionAliveChecker.found
    rw [hwaiting]
    exact List.append_nil _
  have hwaiting₁ : s₁.position = .waiting := by
    obtain ⟨t, hstep, -⟩ := Option.bind_eq_some_iff.mp hsecond
    obtain ⟨⟨hwaiting₁, -⟩, -⟩ := Option.ite_none_right_eq_some.mp hstep
    exact hwaiting₁
  -- the first pass visits the session, and from then on it is silent
  obtain ⟨front, back, hfront⟩ := List.append_of_mem (visited_of_pass hmem hfirst hwaiting₁)
  have hfollowed₁ : Followed sessionId s₁ := by
    refine Followed.run ⟨hobject, .inl hmem⟩ hfirst ?_
    simp only [Quiet, List.mem_cons, reduceCtorEq, false_or]
    exact ⟨hrefresh.1, hexpire.1, hremove.1⟩
  have hrun₁ : aliveChecker.run .start (before ++ .beginPass order :: first) = some s₁ := by
    rw [TransitionSystem.run_append, hbefore]
    exact hfirst
  have hrun₂ : aliveChecker.run .start
      ((before ++ .beginPass order :: first) ++ .beginPass order' :: second) = some s₂ := by
    rw [TransitionSystem.run_append, hrun₁]
    exact hsecond
  rw [← hfound]
  cases hfollowed₁.mem with
  | inr hdead =>
    apply ((checks_of_run hrun₂).found_iff sessionId).mpr
    have hold := ((checks_of_run hrun₁).found_iff sessionId).mp hdead
    obtain ⟨past, rest, t, hpast, hrun, halive, hsilent⟩ := hold
    refine ⟨past, rest ++ .beginPass order' :: second, t, ?_, hrun, halive, hsilent⟩
    rw [hpast, List.append_assoc, List.cons_append]
  | inl hkept =>
    -- the second pass visits it again, alive
    obtain ⟨front', back', hfront'⟩ := List.append_of_mem (visited_of_pass hkept hsecond hwaiting)
    rw [hfront', ← List.cons_append, TransitionSystem.run_append, Option.bind_eq_some_iff] at hsecond
    obtain ⟨t, hrun, -⟩ := hsecond
    have hfollowed : Followed sessionId t := by
      refine hfollowed₁.run hrun ?_
      rw [hfront'] at hrefresh hexpire hremove
      simp only [List.mem_append, not_or] at hrefresh hexpire hremove
      simp only [Quiet, List.mem_cons, reduceCtorEq, false_or]
      exact ⟨hrefresh.2.1, hexpire.2.1, hremove.2.1⟩
    apply ((checks_of_run hrun₂).found_iff sessionId).mpr
    refine ⟨(before ++ .beginPass order :: first) ++ .beginPass order' :: front', back', t, ?_, ?_,
      hfollowed.object, before ++ .beginPass order :: front, back ++ .beginPass order' :: front', ?_, ?_⟩
    · rw [hfront', List.append_assoc _ (_ :: front'), List.cons_append]
    · rw [TransitionSystem.run_append, hrun₁]
      exact hrun
    · rw [hfront]
      simp only [List.append_assoc, List.cons_append]
    · rw [hfront] at hrefresh
      rw [hfront'] at hrefresh
      simp only [List.mem_append, List.mem_cons, reduceCtorEq, false_or, not_or] at hrefresh ⊢
      exact ⟨hrefresh.1.2, hrefresh.2.1⟩

theorem silent_reported_twoPasses : ∃ s₂, aliveChecker.run .start
    [.create, .addSession 1, .beginPass [1], .visit 1, .endPass, .beginPass [1], .visit 1, .endPass] =
      some s₂ ∧ 1 ∈ s₂.reported :=
  ⟨_, rfl, @silent_reported [.create, .addSession 1] [.visit 1, .endPass] [.visit 1, .endPass] [1] [1] 1
    _ _ _ rfl rfl rfl rfl List.mem_cons_self (nofun) (by simp [Quiet])⟩

end DistributedNetwork.Checking
