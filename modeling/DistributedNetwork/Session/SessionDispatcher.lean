import Mathlib.Data.List.AList
import DistributedNetwork.Library.TransitionSystem
import DistributedNetwork.Session.HostsInfoManager

/-!
# Which reactor gets a session

The dispatcher keeps a counter for every slave reactor and records which reactor a session went to.  It
looks up the least counter and then uses **its value** as the index of the reactor.

* `dispatch` — one round of the worker: the index, and the state it leaves;
* `LeastLoaded` — what the index ought to be;
* `leastLoaded_iff` — in a reachable state it is that **exactly** when no session is recorded and some
  counter is still zero.
-/

namespace DistributedNetwork.Session

open DistributedNetwork.Library

structure SessionDispatcher where
  m_slaveReactorSessionSize : List ℕ
  m_p2pSessionsQueue : List SessionId
  m_sessionIdSlaveReactorIndex : AList fun _ : SessionId => ℕ

inductive DispatcherEvent where
  | addSession (sessionId : SessionId)
  /-- the worker takes the next session out of the queue -/
  | dispatch
  | removeSessionIdSlaveReactorRelation (sessionId : SessionId)
  deriving DecidableEq

namespace SessionDispatcher

def init (slaveReactorSize : ℕ) : SessionDispatcher where
  m_slaveReactorSessionSize := List.replicate slaveReactorSize 0
  m_p2pSessionsQueue := []
  m_sessionIdSlaveReactorIndex := ∅

def addSession (d : SessionDispatcher) (sessionId : SessionId) : SessionDispatcher :=
  { d with m_p2pSessionsQueue := d.m_p2pSessionsQueue ++ [sessionId] }

/-- `*iter`, where `iter` points at the first least counter. -/
def minElement (d : SessionDispatcher) : Option ℕ :=
  d.m_slaveReactorSessionSize.min?

/-- The index is recorded and passed to the callback. -/
def record (d : SessionDispatcher) (sessionId : SessionId) (index : ℕ) : SessionDispatcher :=
  { d with
    m_sessionIdSlaveReactorIndex := d.m_sessionIdSlaveReactorIndex.insert sessionId index }

/-- The counter at the index goes up; there is no state after a write behind the vector. -/
def count (d : SessionDispatcher) (index : ℕ) : Option SessionDispatcher :=
  if index < d.m_slaveReactorSessionSize.length then
    some { d with m_slaveReactorSessionSize := d.m_slaveReactorSessionSize.modify index (· + 1) }
  else none

/-- One round of the worker: the session, its index, and the state left. -/
def dispatch (d : SessionDispatcher) : Option (SessionId × ℕ × Option SessionDispatcher) :=
  match d.m_p2pSessionsQueue, d.minElement with
  | sessionId :: rest, some index =>
    some (sessionId, index,
      (({ d with m_p2pSessionsQueue := rest }.record sessionId index).count index))
  | _, _ => none

def removeSessionIdSlaveReactorRelation (d : SessionDispatcher) (sessionId : SessionId) :
    ℤ × SessionDispatcher :=
  if sessionId ∈ d.m_sessionIdSlaveReactorIndex then
    (0, { d with
      m_sessionIdSlaveReactorIndex := d.m_sessionIdSlaveReactorIndex.erase sessionId })
  else (-1, d)

def step (d : SessionDispatcher) : DispatcherEvent → Option SessionDispatcher
  | .addSession sessionId => some (d.addSession sessionId)
  | .dispatch => d.dispatch.bind fun result => result.2.2
  | .removeSessionIdSlaveReactorRelation sessionId =>
    some (d.removeSessionIdSlaveReactorRelation sessionId).2

/-- How many sessions are recorded for a reactor. -/
def sessionsOf (d : SessionDispatcher) (index : ℕ) : ℕ :=
  d.m_sessionIdSlaveReactorIndex.entries.countP fun entry => entry.2 = index

end SessionDispatcher

def sessionDispatcher (slaveReactorSize : ℕ) :
    TransitionSystem SessionDispatcher DispatcherEvent where
  init d := d = .init slaveReactorSize
  step := SessionDispatcher.step

/-- The index is one of a reactor, and no reactor has fewer sessions recorded. -/
def LeastLoaded (m : ℕ) (d : SessionDispatcher) (index : ℕ) : Prop :=
  index < m ∧ ∀ j < m, d.sessionsOf index ≤ d.sessionsOf j

/-! ### What the counters and the records look like -/

/-- Only the first counter ever moves, and only its reactor is ever recorded. -/
structure FirstOnly (m : ℕ) (d : SessionDispatcher) : Prop where
  sizes : ∃ k, d.m_slaveReactorSessionSize = k :: List.replicate (m - 1) 0 ∧
    (k = 0 → d.m_sessionIdSlaveReactorIndex = ∅)
  recorded : ∀ entry ∈ d.m_sessionIdSlaveReactorIndex.entries, entry.2 = 0

section Dispatcher

variable {m : ℕ} {d d' : SessionDispatcher}

/-- The least counter is zero as long as there is a second one. -/
theorem minElement_eq {k : ℕ} (hsizes : d.m_slaveReactorSessionSize = k :: List.replicate (m - 1) 0) :
    d.minElement = some (if 2 ≤ m then 0 else k) := by
  unfold SessionDispatcher.minElement
  rw [hsizes]
  by_cases hm : 2 ≤ m
  · have hone : m - 1 = (m - 2) + 1 := by omega
    rw [if_pos hm, List.min?_eq_some_iff]
    constructor
    · rw [hone, List.replicate_succ]
      simp
    · exact fun _ _ => Nat.zero_le _
  · have hzero : m - 1 = 0 := by omega
    rw [if_neg hm, hzero]
    rfl

theorem sessionsOf_zero (h : FirstOnly m d) :
    d.sessionsOf 0 = d.m_sessionIdSlaveReactorIndex.entries.length := by
  rw [SessionDispatcher.sessionsOf, List.countP_eq_length]
  intro entry hentry
  simpa using h.recorded entry hentry

theorem sessionsOf_pos (h : FirstOnly m d) {j : ℕ} (hj : j ≠ 0) : d.sessionsOf j = 0 := by
  rw [SessionDispatcher.sessionsOf, List.countP_eq_zero]
  intro entry hentry
  rw [h.recorded entry hentry]
  simpa using hj.symm

theorem eq_empty_iff {map : AList fun _ : SessionId => ℕ} : map = ∅ ↔ map.entries.length = 0 := by
  rw [List.length_eq_zero_iff]
  constructor
  · rintro rfl
    rfl
  · exact fun h => AList.ext h

theorem FirstOnly.init (hm : 1 ≤ m) : FirstOnly m (.init m) := by
  obtain ⟨k, rfl⟩ := Nat.exists_eq_add_of_le' hm
  exact ⟨⟨0, rfl, fun _ => rfl⟩, nofun⟩

/-- A dispatch that leaves a state has recorded the first reactor. -/
theorem FirstOnly.dispatch (h : FirstOnly m d) {sessionId : SessionId} {index : ℕ}
    (hdispatch : d.dispatch = some (sessionId, index, some d')) : FirstOnly m d' := by
  obtain ⟨k, hsizes, -⟩ := h.sizes
  unfold SessionDispatcher.dispatch at hdispatch
  split at hdispatch
  · next rest least _ hleast =>
    rw [Option.some.injEq, Prod.mk.injEq, Prod.mk.injEq] at hdispatch
    obtain ⟨rfl, rfl, hcount⟩ := hdispatch
    unfold SessionDispatcher.count at hcount
    split at hcount
    · next hlt =>
      have hindex : least = 0 := by
        rw [minElement_eq hsizes, Option.some.injEq] at hleast
        change least < d.m_slaveReactorSessionSize.length at hlt
        rw [hsizes, List.length_cons, List.length_replicate] at hlt
        split at hleast <;> omega
      subst hindex
      cases hcount
      refine ⟨⟨k + 1, ?_, nofun⟩, ?_⟩
      · change d.m_slaveReactorSessionSize.modify 0 (· + 1) = _
        rw [hsizes]
        rfl
      · intro entry hentry
        change entry ∈ (d.m_sessionIdSlaveReactorIndex.insert _ 0).entries at hentry
        rw [AList.entries_insert, List.mem_cons] at hentry
        rcases hentry with rfl | hold
        · rfl
        · exact h.recorded entry ((List.kerase_sublist _ _).subset hold)
    · cases hcount
  · cases hdispatch

/-- **Step lemma.** -/
theorem FirstOnly.step (h : FirstOnly m d) {event : DispatcherEvent}
    (hstep : d.step event = some d') : FirstOnly m d' := by
  cases event with
  | addSession sessionId =>
    cases hstep
    exact ⟨h.sizes, h.recorded⟩
  | dispatch =>
    obtain ⟨⟨sessionId, index, _⟩, hdispatch, rfl⟩ := Option.bind_eq_some_iff.mp hstep
    exact h.dispatch hdispatch
  | removeSessionIdSlaveReactorRelation sessionId =>
    cases hstep
    unfold SessionDispatcher.removeSessionIdSlaveReactorRelation
    split
    · obtain ⟨k, hsizes, hfresh⟩ := h.sizes
      refine ⟨⟨k, hsizes, fun hk => ?_⟩, fun entry hentry => ?_⟩
      · change d.m_sessionIdSlaveReactorIndex.erase sessionId = ∅
        rw [hfresh hk]
        rfl
      · exact h.recorded entry ((List.kerase_sublist _ _).subset hentry)
    · exact h

theorem firstOnly_of_reachable (hm : 1 ≤ m) (h : (sessionDispatcher m).Reachable d) :
    FirstOnly m d := by
  refine h.invariant ?_ fun _ _ _ hd _ hstep => hd.step hstep
  intro d hd
  cases hd
  exact .init hm

end Dispatcher

/-- **Least-loaded dispatch.**  In any reachable state the worker's next session gets an index, and that is
a least loaded reactor **if and only if** no session is recorded and, if there is only one reactor, no
session has been dispatched before. -/
theorem leastLoaded_iff {m : ℕ} {d : SessionDispatcher} (hm : 1 ≤ m)
    (h : (sessionDispatcher m).Reachable d) (hqueue : d.m_p2pSessionsQueue ≠ []) :
    ∃ sessionId index d', d.dispatch = some (sessionId, index, d') ∧
      (LeastLoaded m d index ↔ d.m_sessionIdSlaveReactorIndex = ∅ ∧
        (m = 1 → d.m_slaveReactorSessionSize = [0])) := by
  have hfirst := firstOnly_of_reachable hm h
  obtain ⟨k, hsizes, hfresh⟩ := hfirst.sizes
  obtain ⟨sessionId, rest, hcons⟩ := List.exists_cons_of_ne_nil hqueue
  have hmin := minElement_eq hsizes
  refine ⟨sessionId, _, _, by unfold SessionDispatcher.dispatch; rw [hcons, hmin], ?_⟩
  rw [eq_empty_iff, ← sessionsOf_zero hfirst]
  by_cases htwo : 2 ≤ m
  · rw [if_pos htwo]
    constructor
    · intro hleast
      have hsecond := hleast.2 1 (by omega)
      rw [sessionsOf_pos hfirst (j := 1) (by decide)] at hsecond
      exact ⟨by omega, by omega⟩
    · intro hidle
      exact ⟨by omega, fun j _ => by rw [hidle.1]; exact Nat.zero_le _⟩
  · have hone : m = 1 := by omega
    subst hone
    rw [if_neg htwo, hsizes]
    constructor
    · intro hleast
      have hk : k = 0 := by
        have hlt := hleast.1
        omega
      rw [sessionsOf_zero hfirst, ← eq_empty_iff, hfresh hk, hk]
      exact ⟨rfl, fun _ => rfl⟩
    · intro hidle
      obtain ⟨rfl, -⟩ := List.cons.inj (hidle.2 rfl)
      refine ⟨by decide, fun j hj => ?_⟩
      have hj0 : j = 0 := by omega
      rw [hj0]

/-- The first session of two reactors. -/
theorem leastLoaded_first : ∃ sessionId index d',
    ((SessionDispatcher.init 2).addSession 7).dispatch = some (sessionId, index, d') ∧
      LeastLoaded 2 ((SessionDispatcher.init 2).addSession 7) index := by
  obtain ⟨sessionId, index, d', hdispatch, hiff⟩ := leastLoaded_iff (by decide)
    (.step (a := DispatcherEvent.addSession 7) (.init (S := sessionDispatcher 2) rfl) trivial rfl) nofun
  exact ⟨sessionId, index, d', hdispatch, hiff.mpr ⟨rfl, nofun⟩⟩

/-- **Dispatch is not least-loaded.**  With two reactors the second session follows the first one to
reactor `0`; with a single reactor it is sent to reactor `1`. -/
theorem leastLoaded_fails :
    (∃ d sessionId d', (sessionDispatcher 2).Reachable d ∧
      d.dispatch = some (sessionId, 0, d') ∧ d.sessionsOf 0 = 1 ∧ d.sessionsOf 1 = 0) ∧
    ∃ d sessionId, (sessionDispatcher 1).Reachable d ∧ d.dispatch = some (sessionId, 1, none) := by
  have htwo : ((sessionDispatcher 2).run (.init 2) [.addSession 7, .addSession 8, .dispatch]).map
      (fun d => (d.dispatch.map fun result => (result.1, result.2.1),
        d.sessionsOf 0, d.sessionsOf 1)) = some (some (8, 0), 1, 0) := by
    decide
  have hone : ((sessionDispatcher 1).run (.init 1) [.addSession 7, .addSession 8, .dispatch]).map
      (fun d => d.dispatch.map fun result => (result.1, result.2.1, result.2.2.isSome)) =
      some (some (8, 1, false)) := by
    decide
  obtain ⟨d₂, hrun₂, hd₂⟩ := Option.map_eq_some_iff.mp htwo
  obtain ⟨d₁, hrun₁, hd₁⟩ := Option.map_eq_some_iff.mp hone
  simp only [Prod.mk.injEq] at hd₂
  obtain ⟨hdispatch₂, hzero, hfirst⟩ := hd₂
  obtain ⟨⟨_, _, d'⟩, hdispatch₂, heq₂⟩ := Option.map_eq_some_iff.mp hdispatch₂
  obtain ⟨⟨_, _, d''⟩, hdispatch₁, heq₁⟩ := Option.map_eq_some_iff.mp hd₁
  simp only [Prod.mk.injEq] at heq₂ heq₁
  obtain ⟨rfl, rfl⟩ := heq₂
  obtain ⟨rfl, rfl, hnone⟩ := heq₁
  rw [Option.isSome_eq_false_iff, Option.isNone_iff_eq_none] at hnone
  subst hnone
  exact ⟨⟨d₂, 8, d', .of_run (.init rfl) hrun₂, hdispatch₂, hzero, hfirst⟩,
    d₁, 8, .of_run (.init rfl) hrun₁, hdispatch₁⟩

end DistributedNetwork.Session
