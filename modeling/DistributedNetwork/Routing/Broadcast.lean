import Mathlib.Algebra.Group.Int.Defs
import Mathlib.Algebra.Group.Nat.Defs
import DistributedNetwork.Routing.DistanceVectorService

/-!
# When distance vectors are broadcast

One iteration of the worker: probe the neighbours if the last measured interval is long enough, look at
the flag and a timer to decide on a broadcast, and handle one queued packet.  All clock readings are
inputs.

* `iterate` — the iteration;
* `History` — what a bystander records of a run: calls, probing rounds and table changes;
* `Due` — when a broadcast ought to happen;
* `broadcast_iff` — the iteration gets it right **exactly** under `BroadcastCondition`.

The flag is never cleared and the broadcast timer never restarted; without the flag the decision reads the
timer of the probing rounds; and a lost neighbour does not set the flag.
-/

namespace DistributedNetwork.Routing

open DistributedNetwork.Library

/-! ### The worker -/

def c_distanceDetectInterval : ℕ := 2500

def c_minDistanceVectorSendInterval : ℕ := 200

def c_normalDistanceVectorSendInterval : ℕ := 30 * 1000

/-- `getElapsedTimeInMilliSec`: the difference of two readings in nanoseconds, as an unsigned number. -/
def getElapsedTimeInMilliSec (start now : ℤ) : ℕ :=
  ((now - start).tdiv 1000000 % 2 ^ 64).toNat

inductive DistanceVectorService.Event where
  | distanceDetectReply (fromNodeId : NodeId) (reply : PayloadDistanceDetectReply)
  | distanceVector (fromNodeId : NodeId) (distanceInfos : List (NodeId × ℕ))

/-- What the environment decides in one iteration. -/
structure Iteration where
  round : DetectRound
  /-- the reading when the probing timer is restarted -/
  restarted : ℤ
  /-- the reading when `detectTimeInterval` is measured -/
  measured : ℤ
  /-- the reading when the broadcast is decided -/
  now : ℤ
  order : IterationOrder
  /-- what `try_dequeue` finds -/
  event : Option DistanceVectorService.Event

/-- The service, and the static variable of its worker. -/
structure Worker where
  service : DistanceVectorService
  detectTimeInterval : ℕ

namespace DistanceVectorService

/-- The decision to call `sendDistanceVector`. -/
def sends (s : DistanceVectorService) (now : ℤ) : Bool :=
  if s.m_isEventTriggerDistanceVectorBoardcast then
    c_minDistanceVectorSendInterval ≤ getElapsedTimeInMilliSec s.m_distanceVectorElapsedTime now
  else
    c_normalDistanceVectorSendInterval ≤ getElapsedTimeInMilliSec s.m_distanceDetectElapsedTime now

/-- The handlers' status, zero without an event. -/
def handleEvent (s : DistanceVectorService) (order : IterationOrder) :
    Option Event → ℤ × DistanceVectorService
  | none => (0, s)
  | some (.distanceDetectReply fromNodeId reply) => s.handleDistanceDetectReply order fromNodeId reply
  | some (.distanceVector fromNodeId distanceInfos) =>
    s.handleDistanceVector order fromNodeId distanceInfos

end DistanceVectorService

namespace Worker

def new (selfNodeId : NodeId) (nodeIds : List NodeId) (now : ℤ) : Worker where
  service := .new selfNodeId nodeIds now
  detectTimeInterval := c_distanceDetectInterval

/-- The first part of an iteration. -/
def probe (w : Worker) (iteration : Iteration) : Option DistanceVectorService :=
  if c_distanceDetectInterval ≤ w.detectTimeInterval then
    (w.service.sendDistanceDetect iteration.round).map fun result =>
      { result.1 with m_distanceDetectElapsedTime := iteration.restarted }
  else some w.service

/-- The rest of it, with the vectors handed to the sender if `sendDistanceVector` is called. -/
def finish (s : DistanceVectorService) (iteration : Iteration) :
    Option (List (NodeId × List (NodeId × ℕ))) × Worker :=
  (if s.sends iteration.now then some (s.sendDistanceVector iteration.order) else none,
    { service := (s.handleEvent iteration.order iteration.event).2
      detectTimeInterval := getElapsedTimeInMilliSec s.m_distanceDetectElapsedTime iteration.measured })

def iterate (w : Worker) (iteration : Iteration) :
    Option (Option (List (NodeId × List (NodeId × ℕ))) × Worker) :=
  (w.probe iteration).map fun s => finish s iteration

end Worker

/-! ### What a bystander records -/

/-- Some target has another route. -/
def tableChanged (dv dv' : DistanceVector) : Bool :=
  (dv.m_dvInfos.keys ++ dv'.m_dvInfos.keys).any fun t => dv.route t != dv'.route t

structure History where
  /-- when the service was built -/
  startedAt : ℤ
  /-- when the last probing round ended, or the service was built -/
  probedAt : ℤ
  /-- when `sendDistanceVector` was last called, or the service was built -/
  calledAt : ℤ
  /-- a reply or a vector has ever been reported as a change -/
  reported : Bool
  /-- the table has changed since `calledAt` -/
  changed : Bool

namespace History

def start (now : ℤ) : History where
  startedAt := now
  probedAt := now
  calledAt := now
  reported := false
  changed := false

def afterProbe (h : History) (w : Worker) (iteration : Iteration) (s : DistanceVectorService) : History :=
  { h with
    probedAt := if c_distanceDetectInterval ≤ w.detectTimeInterval then iteration.restarted else h.probedAt
    changed := h.changed || tableChanged w.service.m_distanceVector s.m_distanceVector }

def afterDecision (h : History) (called : Bool) (now : ℤ) : History :=
  if called then { h with calledAt := now, changed := false } else h

def afterEvent (h : History) (s : DistanceVectorService) (result : ℤ × DistanceVectorService) :
    History :=
  { h with
    reported := h.reported || result.1 == 1
    changed := h.changed || tableChanged s.m_distanceVector result.2.m_distanceVector }

end History

/-- So many milliseconds lie between two readings. -/
def Passed (milliSec : ℕ) (since now : ℤ) : Prop :=
  (milliSec : ℤ) * 1000000 ≤ now - since

instance (milliSec : ℕ) (since now : ℤ) : Decidable (Passed milliSec since now) :=
  inferInstanceAs (Decidable (_ ≤ _))

/-- A broadcast is due: the table has changed since the previous call and the shorter interval has passed,
or the longer one has. -/
def Due (h : History) (now : ℤ) : Prop :=
  h.changed = true ∧ Passed c_minDistanceVectorSendInterval h.calledAt now ∨
    Passed c_normalDistanceVectorSendInterval h.calledAt now

instance (h : History) (now : ℤ) : Decidable (Due h now) :=
  inferInstanceAs (Decidable (_ ∨ _))

/-- With a change ever reported, the time since the service was built must happen to tell whether a
broadcast is due; without one, the time since the last probing round. -/
structure BroadcastCondition (h : History) (now : ℤ) : Prop where
  reported_due : h.reported = true →
    c_minDistanceVectorSendInterval ≤ getElapsedTimeInMilliSec h.startedAt now → Due h now
  reported_not_due : h.reported = true →
    getElapsedTimeInMilliSec h.startedAt now < c_minDistanceVectorSendInterval → ¬Due h now
  unreported_due : h.reported = false →
    c_normalDistanceVectorSendInterval ≤ getElapsedTimeInMilliSec h.probedAt now → Due h now
  unreported_not_due : h.reported = false →
    getElapsedTimeInMilliSec h.probedAt now < c_normalDistanceVectorSendInterval → ¬Due h now

/-! ### Runs -/

structure WorkerRun where
  worker : Worker
  history : History

/-- The history goes on with an iteration. -/
def History.after (h : History) (w : Worker) (iteration : Iteration) (s : DistanceVectorService) :
    History :=
  ((h.afterProbe w iteration s).afterDecision (s.sends iteration.now) iteration.now).afterEvent s
    (s.handleEvent iteration.order iteration.event)

def workerRuns (selfNodeId : NodeId) (nodeIds : List NodeId) : TransitionSystem WorkerRun Iteration where
  init r := ∃ now, r = ⟨.new selfNodeId nodeIds now, .start now⟩
  step r iteration := (r.worker.probe iteration).map fun s =>
    { worker := (Worker.finish s iteration).2
      history := r.history.after r.worker iteration s }

/-! ### Timers and flag are the history -/

/-- The flag and the timers, as a bystander knows them. -/
structure Recorded (s : DistanceVectorService) (h : History) : Prop where
  counted : s.Counted
  flag : s.m_isEventTriggerDistanceVectorBoardcast = h.reported
  vectorTimer : s.m_distanceVectorElapsedTime = h.startedAt
  detectTimer : s.m_distanceDetectElapsedTime = h.probedAt

namespace DistanceVectorService

variable {s s' : DistanceVectorService}

/-- The loop touches neither the flag nor the timers. -/
theorem detectLoop_frame (round : DetectRound) {vs : List NodeId}
    {probes : List (NodeId × PayloadDistanceDetect)} (h : detectLoop round vs s = some (s', probes)) :
    s'.m_isEventTriggerDistanceVectorBoardcast = s.m_isEventTriggerDistanceVectorBoardcast ∧
      s'.m_distanceVectorElapsedTime = s.m_distanceVectorElapsedTime ∧
      s'.m_distanceDetectElapsedTime = s.m_distanceDetectElapsedTime := by
  induction vs generalizing s s' probes with
  | nil =>
    cases h
    exact ⟨rfl, rfl, rfl⟩
  | cons v vs ih =>
    rw [detectLoop] at h
    split at h
    · cases h
    · split at h
      · have hrest := ih h
        exact hrest
      · split at h
        · cases h
          exact ⟨rfl, rfl, rfl⟩
        · obtain ⟨result, hloop, heq⟩ := Option.map_eq_some_iff.mp h
          cases heq
          have hrest := ih hloop
          exact hrest

/-- A handler sets the flag when it reports a change, and leaves the timers. -/
theorem storeUpdated_spec (updated : Bool × DistanceVector) :
    (s.storeUpdated updated).2.m_isEventTriggerDistanceVectorBoardcast =
        (s.m_isEventTriggerDistanceVectorBoardcast || (s.storeUpdated updated).1 == 1) ∧
      (s.storeUpdated updated).2.m_distanceVectorElapsedTime = s.m_distanceVectorElapsedTime ∧
      (s.storeUpdated updated).2.m_distanceDetectElapsedTime = s.m_distanceDetectElapsedTime := by
  unfold storeUpdated
  split
  · exact ⟨(Bool.or_true _).symm, rfl, rfl⟩
  · exact ⟨(Bool.or_false _).symm, rfl, rfl⟩

theorem handleDistanceDetectReply_spec (order : IterationOrder) (v : NodeId)
    (reply : PayloadDistanceDetectReply) :
    (s.handleDistanceDetectReply order v reply).2.m_isEventTriggerDistanceVectorBoardcast =
        (s.m_isEventTriggerDistanceVectorBoardcast ||
          (s.handleDistanceDetectReply order v reply).1 == 1) ∧
      (s.handleDistanceDetectReply order v reply).2.m_distanceVectorElapsedTime =
        s.m_distanceVectorElapsedTime ∧
      (s.handleDistanceDetectReply order v reply).2.m_distanceDetectElapsedTime =
        s.m_distanceDetectElapsedTime := by
  unfold handleDistanceDetectReply
  split
  · exact ⟨(Bool.or_false _).symm, rfl, rfl⟩
  · next info hinfo =>
    split
    · exact ⟨(Bool.or_false _).symm, rfl, rfl⟩
    · exact storeUpdated_spec (s := s.setSeqInfo v { info with receivedSeq := reply.seq }) _

theorem handleEvent_spec (order : IterationOrder) (event : Option Event) :
    (s.handleEvent order event).2.m_isEventTriggerDistanceVectorBoardcast =
        (s.m_isEventTriggerDistanceVectorBoardcast || (s.handleEvent order event).1 == 1) ∧
      (s.handleEvent order event).2.m_distanceVectorElapsedTime = s.m_distanceVectorElapsedTime ∧
      (s.handleEvent order event).2.m_distanceDetectElapsedTime = s.m_distanceDetectElapsedTime :=
  match event with
  | none => ⟨(Bool.or_false _).symm, rfl, rfl⟩
  | some (.distanceDetectReply fromNodeId reply) => handleDistanceDetectReply_spec order fromNodeId reply
  | some (.distanceVector _ _) => storeUpdated_spec _

theorem Counted.handleEvent (h : s.Counted) (order : IterationOrder) (event : Option Event) :
    (s.handleEvent order event).2.Counted := by
  match event with
  | none => exact h
  | some (.distanceDetectReply _ _) => exact h.handleDistanceDetectReply
  | some (.distanceVector _ _) => exact h.handleDistanceVector

end DistanceVectorService

section Recorded

variable {s : DistanceVectorService} {w : Worker} {h : History}

/-- The probing part runs, and its round is recorded. -/
theorem Recorded.probe (hw : Recorded w.service h) (iteration : Iteration) :
    ∃ s, w.probe iteration = some s ∧ Recorded s (h.afterProbe w iteration s) := by
  unfold Worker.probe
  by_cases hlong : c_distanceDetectInterval ≤ w.detectTimeInterval
  · obtain ⟨s, probes, hround, hcounted, -⟩ :=
      DistanceVectorService.sendDistanceDetect_spec iteration.round hw.counted
    obtain ⟨hflag, hvector, -⟩ := DistanceVectorService.detectLoop_frame _ hround
    rw [if_pos hlong, hround]
    refine ⟨_, rfl, hcounted, hflag.trans hw.flag, hvector.trans hw.vectorTimer, ?_⟩
    exact (if_pos hlong).symm
  · rw [if_neg hlong]
    refine ⟨_, rfl, hw.counted, hw.flag, hw.vectorTimer, ?_⟩
    exact hw.detectTimer.trans (if_neg hlong).symm

theorem Recorded.afterDecision (hs : Recorded s h) (called : Bool) (now : ℤ) :
    Recorded s (h.afterDecision called now) := by
  unfold History.afterDecision
  split
  · exact ⟨hs.counted, hs.flag, hs.vectorTimer, hs.detectTimer⟩
  · exact hs

theorem Recorded.afterEvent (hs : Recorded s h) (order : IterationOrder)
    (event : Option DistanceVectorService.Event) :
    Recorded (s.handleEvent order event).2 (h.afterEvent s (s.handleEvent order event)) := by
  obtain ⟨hflag, hvector, hdetect⟩ := DistanceVectorService.handleEvent_spec (s := s) order event
  refine ⟨hs.counted.handleEvent order event, ?_, hvector.trans hs.vectorTimer,
    hdetect.trans hs.detectTimer⟩
  rw [hflag, hs.flag]
  rfl

/-- **Step lemma.** -/
theorem Recorded.step (hw : Recorded w.service h) (iteration : Iteration) :
    ∃ s, w.probe iteration = some s ∧
      Recorded (Worker.finish s iteration).2.service (h.after w iteration s) := by
  obtain ⟨s, hprobe, hs⟩ := hw.probe iteration
  exact ⟨s, hprobe, (hs.afterDecision _ _).afterEvent _ _⟩

theorem recorded_of_reachable {selfNodeId : NodeId} {nodeIds : List NodeId} {r : WorkerRun}
    (hr : (workerRuns selfNodeId nodeIds).Reachable r) : Recorded r.worker.service r.history := by
  refine hr.invariant (I := fun r => Recorded r.worker.service r.history) ?_ ?_
  · rintro r ⟨now, rfl⟩
    exact ⟨.new selfNodeId nodeIds now, rfl, rfl, rfl⟩
  · intro r iteration r' hr _ hstep
    obtain ⟨s, hprobe, hs⟩ := hr.step iteration
    change (r.worker.probe iteration).map _ = some r' at hstep
    rw [hprobe] at hstep
    cases hstep
    exact hs

/-- The decision, read off the history. -/
theorem sends_iff_due (hs : Recorded s h) (now : ℤ) :
    (s.sends now = true ↔ Due h now) ↔ BroadcastCondition h now := by
  unfold DistanceVectorService.sends
  rw [hs.flag, hs.vectorTimer, hs.detectTimer]
  cases hreported : h.reported with
  | true =>
    rw [if_pos rfl, decide_eq_true_iff]
    constructor
    · intro hiff
      exact ⟨fun _ => hiff.mp, fun _ hlt hdue => absurd (hiff.mpr hdue) (not_le.mpr hlt),
        fun hfalse => absurd (hreported.symm.trans hfalse) (by decide),
        fun hfalse => absurd (hreported.symm.trans hfalse) (by decide)⟩
    · intro hcondition
      refine ⟨hcondition.reported_due hreported, fun hdue => ?_⟩
      by_contra hlt
      exact hcondition.reported_not_due hreported (not_le.mp hlt) hdue
  | false =>
    rw [if_neg Bool.false_ne_true, decide_eq_true_iff]
    constructor
    · intro hiff
      exact ⟨fun htrue => absurd (hreported.symm.trans htrue) (by decide),
        fun htrue => absurd (hreported.symm.trans htrue) (by decide),
        fun _ => hiff.mp, fun _ hlt hdue => absurd (hiff.mpr hdue) (not_le.mpr hlt)⟩
    · intro hcondition
      refine ⟨hcondition.unreported_due hreported, fun hdue => ?_⟩
      by_contra hlt
      exact hcondition.unreported_not_due hreported (not_le.mp hlt) hdue

end Recorded

/-- **Broadcasts.**  In every run every iteration goes through, and it calls `sendDistanceVector` exactly
when that is due **if and only if** the condition holds of the history and the reading at that moment. -/
theorem broadcast_iff {selfNodeId : NodeId} {nodeIds : List NodeId} {r : WorkerRun}
    (hr : (workerRuns selfNodeId nodeIds).Reachable r) (iteration : Iteration) :
    ∃ s sent w, r.worker.probe iteration = some s ∧ r.worker.iterate iteration = some (sent, w) ∧
      ((sent.isSome = true ↔ Due (r.history.afterProbe r.worker iteration s) iteration.now) ↔
        BroadcastCondition (r.history.afterProbe r.worker iteration s) iteration.now) := by
  obtain ⟨s, hprobe, hs⟩ := (recorded_of_reachable hr).probe iteration
  refine ⟨s, _, _, hprobe, by rw [Worker.iterate, hprobe]; rfl, ?_⟩
  rw [← sends_iff_due hs]
  show (Option.isSome (if s.sends iteration.now = true then _ else _) = true ↔ _) ↔ _
  cases s.sends iteration.now with
  | true => exact Iff.rfl
  | false => exact Iff.rfl

/-- An iteration at one clock reading, with a sender that takes everything. -/
def iterationAt (now : ℤ) (event : Option DistanceVectorService.Event) : Iteration where
  round := storedRound fun _ => 0
  restarted := now
  measured := now
  now := now
  order := .stored
  event := event

/-- `B` replies in the first iteration, and the change is broadcast when it is due, after 300 ms. -/
theorem broadcast_first : ∃ r s sent w, (workerRuns "A" ["B"]).Reachable r ∧ r.history.reported = true ∧
    r.worker.probe (iterationAt 300000000 none) = some s ∧
    r.worker.iterate (iterationAt 300000000 none) = some (sent, w) ∧
    (sent.isSome = true ↔
      Due (r.history.afterProbe r.worker (iterationAt 300000000 none) s) 300000000) := by
  have hrun : ((workerRuns "A" ["B"]).run ⟨.new "A" ["B"] 0, .start 0⟩
      [iterationAt 0 (some (.distanceDetectReply "B" ⟨1, 0⟩))]).map
      (fun r => (r.history.reported, (r.worker.probe (iterationAt 300000000 none)).map fun s =>
        let h := r.history.afterProbe r.worker (iterationAt 300000000 none) s
        (h.reported, h.startedAt, decide (Due h 300000000)))) =
      some (true, some (true, 0, true)) := by
    decide
  obtain ⟨r, hr, hobserved⟩ := Option.map_eq_some_iff.mp hrun
  simp only [Prod.mk.injEq] at hobserved
  obtain ⟨hreported, hprobed⟩ := hobserved
  have hreachable : (workerRuns "A" ["B"]).Reachable r := .of_run (.init ⟨0, rfl⟩) hr
  obtain ⟨s, sent, w, hprobe, hiterate, hiff⟩ := broadcast_iff hreachable (iterationAt 300000000 none)
  rw [hprobe, Option.map_some, Option.some.injEq, Prod.mk.injEq, Prod.mk.injEq,
    decide_eq_true_eq] at hprobed
  obtain ⟨hever, hstarted, hdue⟩ := hprobed
  refine ⟨r, s, sent, w, hreachable, hreported, hprobe, hiterate, hiff.mpr ?_⟩
  constructor
  · exact fun _ _ => hdue
  · intro _ hearly
    rw [hstarted] at hearly
    exact absurd hearly (by decide)
  · exact fun hnever => absurd (hever.symm.trans hnever) (by decide)
  · exact fun hnever => absurd (hever.symm.trans hnever) (by decide)

/-- **Broadcast storm.**  `B` replies in the first iteration, the change is broadcast after 300 ms, and the
unchanged table again 10 ms later. -/
theorem broadcast_storm : ∃ r s, (workerRuns "A" ["B"]).Reachable r ∧
    r.history.calledAt = 300000000 ∧
    r.worker.probe (iterationAt 310000000 none) = some s ∧ s.sends 310000000 = true ∧
    ¬Due (r.history.afterProbe r.worker (iterationAt 310000000 none) s) 310000000 := by
  have hrun : ((workerRuns "A" ["B"]).run ⟨.new "A" ["B"] 0, .start 0⟩
      [iterationAt 0 (some (.distanceDetectReply "B" ⟨1, 0⟩)), iterationAt 300000000 none]).map
      (fun r => (r.history.calledAt, (r.worker.probe (iterationAt 310000000 none)).map fun s =>
        (s.sends 310000000,
          decide (Due (r.history.afterProbe r.worker (iterationAt 310000000 none) s) 310000000)))) =
      some (300000000, some (true, false)) := by
    decide
  obtain ⟨r, hr, hobserved⟩ := Option.map_eq_some_iff.mp hrun
  simp only [Prod.mk.injEq] at hobserved
  obtain ⟨hcalled, hprobe⟩ := hobserved
  obtain ⟨s, hs, hdecided⟩ := Option.map_eq_some_iff.mp hprobe
  rw [Prod.mk.injEq, decide_eq_false_iff_not] at hdecided
  exact ⟨r, s, .of_run (.init ⟨0, rfl⟩) hr, hcalled, hs, hdecided.1, hdecided.2⟩

end DistributedNetwork.Routing
