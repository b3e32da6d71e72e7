import DistributedNetwork.Library.TransitionSystem
import DistributedNetwork.Routing.DistanceVector

/-!
# The distance-vector service

The service probes its neighbours, measures links from their replies, and keeps the table.  For every
neighbour it counts the probes handed to the sender (`sendSeq`) and remembers the newest reply
(`receivedSeq`); their difference is taken for the number of probes lost.

* `sendDistanceDetect` — a probing round, with the order in which the hash map is visited and what the
  packet sender answers;
* `handleDistanceDetectReply`, `handleDistanceVector` — the two handlers;
* `sendDistanceVector` — what a broadcast hands to the sender;
* `probesAll_iff` — a round probes every neighbour **exactly** when none has lost too many probes and no
  send fails on the way.
-/

namespace DistributedNetwork.Routing

open DistributedNetwork.Library

/-! ### Data -/

def c_timeResolutionMs : UInt32 := 200

def c_distanceDetectLostThreshold : UInt64 := 3

structure DistanceDetectSendReplyInfo where
  sendSeq : UInt64 := 0
  receivedSeq : UInt64 := 0
  deriving DecidableEq

namespace DistanceDetectSendReplyInfo

/-- An unsigned difference. -/
def lostCount (info : DistanceDetectSendReplyInfo) : UInt64 :=
  info.sendSeq - info.receivedSeq

end DistanceDetectSendReplyInfo

/-- The setters of the probe take 32 bits. -/
structure PayloadDistanceDetect where
  seq : UInt32
  timestamp : UInt32
  deriving DecidableEq

structure PayloadDistanceDetectReply where
  seq : UInt64
  elapsedTime : UInt32
  deriving DecidableEq

/-- `m_distanceDetectElapsedTime` and `m_distanceVectorElapsedTime` are the clock readings at which the
two timers were started. -/
structure DistanceVectorService where
  m_distanceVector : DistanceVector
  m_distanceDetectElapsedTime : ℤ
  m_isEventTriggerDistanceVectorBoardcast : Bool
  m_distanceVectorElapsedTime : ℤ
  m_neighbourDistanceDetectSeqInfo : AList fun _ : NodeId => DistanceDetectSendReplyInfo

/-- What the environment decides in a probing round. -/
structure DetectRound where
  order : IterationOrder
  /-- what the packet sender returns for a probe to the node -/
  m_packetSender : NodeId → ℤ
  /-- the time in milliseconds when the probe to the node is built -/
  currentTimestamp : NodeId → UInt64

namespace DistanceVectorService

/-! ### Probing -/

def setSeqInfo (s : DistanceVectorService) (nodeId : NodeId) (info : DistanceDetectSendReplyInfo) :
    DistanceVectorService :=
  { s with
    m_neighbourDistanceDetectSeqInfo := s.m_neighbourDistanceDetectSeqInfo.insert nodeId info }

def setDistanceVector (s : DistanceVectorService) (distanceVector : DistanceVector) :
    DistanceVectorService :=
  { s with m_distanceVector := distanceVector }

/-- The probes a loop over the neighbours hands to the sender; no result if the assertion fails. -/
def detectLoop (round : DetectRound) :
    List NodeId → DistanceVectorService →
      Option (DistanceVectorService × List (NodeId × PayloadDistanceDetect))
  | [], s => some (s, [])
  | nodeId :: rest, s =>
    match s.m_neighbourDistanceDetectSeqInfo.lookup nodeId with
    | none => none
    | some info =>
      if info.lostCount > c_distanceDetectLostThreshold then
        -- declared unreachable, and not probed
        detectLoop round rest (s.setDistanceVector
          (s.m_distanceVector.updateNeighbourDistance round.order nodeId c_unreachableDistance).2)
      else
        let probe : PayloadDistanceDetect := ⟨info.sendSeq.toUInt32, (round.currentTimestamp nodeId).toUInt32⟩
        let s := s.setSeqInfo nodeId { info with sendSeq := info.sendSeq + 1 }
        if round.m_packetSender nodeId = -1 then some (s, [(nodeId, probe)])
        else (detectLoop round rest s).map fun result => (result.1, (nodeId, probe) :: result.2)

def sendDistanceDetect (s : DistanceVectorService) (round : DetectRound) :
    Option (DistanceVectorService × List (NodeId × PayloadDistanceDetect)) :=
  detectLoop round (round.order.neighbours s.m_distanceVector) s

/-! ### Handlers and broadcast -/

/-- Both handlers end like this: the new vector is stored, and a change sets the flag. -/
def storeUpdated (s : DistanceVectorService) (updated : Bool × DistanceVector) :
    ℤ × DistanceVectorService :=
  if updated.1 then
    (1, { s.setDistanceVector updated.2 with m_isEventTriggerDistanceVectorBoardcast := true })
  else (0, s.setDistanceVector updated.2)

def handleDistanceDetectReply (s : DistanceVectorService) (order : IterationOrder)
    (fromNodeId : NodeId) (reply : PayloadDistanceDetectReply) : ℤ × DistanceVectorService :=
  match s.m_neighbourDistanceDetectSeqInfo.lookup fromNodeId with
  | none => (-1, s)
  | some info =>
    if reply.seq ≤ info.receivedSeq then (0, s)
    else
      let distance := reply.elapsedTime / c_timeResolutionMs + 1
      (s.setSeqInfo fromNodeId { info with receivedSeq := reply.seq }).storeUpdated
        (s.m_distanceVector.updateNeighbourDistance order fromNodeId distance.toNat)

def handleDistanceVector (s : DistanceVectorService) (order : IterationOrder) (fromNodeId : NodeId)
    (distanceInfos : List (NodeId × ℕ)) : ℤ × DistanceVectorService :=
  s.storeUpdated (s.m_distanceVector.updateDvInfos order fromNodeId distanceInfos)

/-- The vector handed to the sender for each neighbour; a failed send does not stop the loop. -/
def sendDistanceVector (s : DistanceVectorService) (order : IterationOrder) :
    List (NodeId × List (NodeId × ℕ)) :=
  (order.neighbours s.m_distanceVector).map fun nodeId => (nodeId, s.m_distanceVector.dvInfo nodeId)

/-- The constructor at a clock reading: a counter pair for every neighbour. -/
def new (selfNodeId : NodeId) (nodeIds : List NodeId) (now : ℤ) : DistanceVectorService where
  m_distanceVector := .new selfNodeId nodeIds
  m_distanceDetectElapsedTime := now
  m_isEventTriggerDistanceVectorBoardcast := false
  m_distanceVectorElapsedTime := now
  m_neighbourDistanceDetectSeqInfo :=
    (DistanceVector.new selfNodeId nodeIds).neighbours.foldl (fun infos nodeId => infos.insert nodeId {}) ∅

/-! ### The counters cover the neighbours -/

/-- Every neighbour has its counters, and nobody else. -/
def Counted (s : DistanceVectorService) : Prop :=
  ∀ v, v ∈ s.m_neighbourDistanceDetectSeqInfo ↔ v ∈ s.m_distanceVector.neighbours

variable {s s' : DistanceVectorService} {v : NodeId} {order : IterationOrder}

theorem Counted.setSeqInfo (h : s.Counted) (hv : v ∈ s.m_distanceVector.neighbours)
    (info : DistanceDetectSendReplyInfo) : (s.setSeqInfo v info).Counted := by
  intro x
  show x ∈ s.m_neighbourDistanceDetectSeqInfo.insert v info ↔ _
  rw [AList.mem_insert, h x]
  constructor
  · rintro (rfl | hx)
    · exact hv
    · exact hx
  · exact .inr

theorem Counted.setDistanceVector (h : s.Counted) {dv : DistanceVector}
    (hdv : ∀ x, x ∈ dv.neighbours ↔ x ∈ s.m_distanceVector.neighbours) :
    (s.setDistanceVector dv).Counted :=
  fun x => (h x).trans (hdv x).symm

theorem Counted.storeUpdated (h : s.Counted) {updated : Bool × DistanceVector}
    (hdv : ∀ x, x ∈ updated.2.neighbours ↔ x ∈ s.m_distanceVector.neighbours) :
    (s.storeUpdated updated).2.Counted := by
  unfold DistanceVectorService.storeUpdated
  split <;> exact h.setDistanceVector hdv

theorem Counted.new (selfNodeId : NodeId) (nodeIds : List NodeId) (now : ℤ) :
    (DistanceVectorService.new selfNodeId nodeIds now).Counted := by
  intro x
  have hfold : ∀ (ids : List NodeId) (infos : AList fun _ : NodeId => DistanceDetectSendReplyInfo),
      x ∈ ids.foldl (fun infos nodeId => infos.insert nodeId {}) infos ↔ x ∈ infos ∨ x ∈ ids := by
    intro ids
    induction ids with
    | nil => simp
    | cons nodeId ids ih =>
      intro infos
      rw [List.foldl_cons, ih, AList.mem_insert, List.mem_cons]
      tauto
  show x ∈ List.foldl _ ∅ _ ↔ _
  rw [hfold]
  exact ⟨fun h => h.resolve_left (AList.notMem_empty x), .inr⟩

theorem Counted.handleDistanceDetectReply (h : s.Counted) {reply : PayloadDistanceDetectReply} :
    (s.handleDistanceDetectReply order v reply).2.Counted := by
  unfold DistanceVectorService.handleDistanceDetectReply
  split
  · exact h
  · next info hinfo =>
    have hv : v ∈ s.m_distanceVector.neighbours :=
      (h v).mp (AList.lookup_isSome.mp (Option.isSome_of_mem hinfo))
    split
    · exact h
    · exact (h.setSeqInfo hv _).storeUpdated fun x =>
        DistanceVector.mem_neighbours_updateNeighbourDistance _ _ hv

theorem Counted.handleDistanceVector (h : s.Counted) {distanceInfos : List (NodeId × ℕ)} :
    (s.handleDistanceVector order v distanceInfos).2.Counted :=
  h.storeUpdated fun _ => DistanceVector.mem_neighbours_updateDvInfos _

/-! ### What a round sends -/

/-- The node has lost too many probes to be probed again. -/
def tooManyLost (s : DistanceVectorService) (nodeId : NodeId) : Bool :=
  match s.m_neighbourDistanceDetectSeqInfo.lookup nodeId with
  | none => false
  | some info => info.lostCount > c_distanceDetectLostThreshold

/-- The nodes that get a probe when a list of nodes is visited. -/
def probed (lost : NodeId → Bool) (sender : NodeId → ℤ) : List NodeId → List NodeId
  | [] => []
  | v :: vs =>
    if lost v then probed lost sender vs
    else v :: if sender v = -1 then [] else probed lost sender vs

theorem probed_congr {lost lost' : NodeId → Bool} {sender : NodeId → ℤ} {vs : List NodeId}
    (h : ∀ v ∈ vs, lost v = lost' v) : probed lost sender vs = probed lost' sender vs := by
  induction vs with
  | nil => rfl
  | cons v vs ih =>
    rw [List.forall_mem_cons] at h
    rw [probed, probed, h.1, ih h.2]

theorem mem_of_mem_probed {lost : NodeId → Bool} {sender : NodeId → ℤ} {vs : List NodeId}
    (h : v ∈ probed lost sender vs) : v ∈ vs := by
  induction vs with
  | nil => exact h
  | cons u vs ih =>
    rw [probed] at h
    split at h
    · exact List.mem_cons_of_mem _ (ih h)
    · rcases List.mem_cons.mp h with rfl | hlater
      · exact List.mem_cons_self
      · split at hlater
        · cases hlater
        · exact List.mem_cons_of_mem _ (ih hlater)

/-- A visited node gets a probe unless it lost too many, or a send before it failed. -/
theorem mem_probed_iff {lost : NodeId → Bool} {sender : NodeId → ℤ} {before after : List NodeId}
    (hbefore : v ∉ before) (hafter : v ∉ after) :
    v ∈ probed lost sender (before ++ v :: after) ↔
      lost v = false ∧ ∀ u ∈ before, lost u = true ∨ sender u ≠ -1 := by
  induction before with
  | nil =>
    rw [List.nil_append, probed]
    cases hlost : lost v with
    | true => exact ⟨fun h => absurd (mem_of_mem_probed h) hafter, nofun⟩
    | false => exact ⟨fun _ => ⟨rfl, nofun⟩, fun _ => List.mem_cons_self⟩
  | cons u before ih =>
    rw [List.mem_cons, not_or] at hbefore
    rw [List.cons_append, probed, List.forall_mem_cons]
    cases hlost : lost u with
    | true =>
      rw [if_pos rfl, ih hbefore.2]
      simp only [true_or, true_and]
    | false =>
      rw [if_neg Bool.false_ne_true, List.mem_cons, or_iff_right hbefore.1]
      by_cases hsend : sender u = -1
      · simp [hsend]
      · rw [if_neg hsend, ih hbefore.2]
        simp [hsend]

theorem lookup_setSeqInfo_ne {info : DistanceDetectSendReplyInfo} {u : NodeId} (h : u ≠ v) :
    (s.setSeqInfo v info).m_neighbourDistanceDetectSeqInfo.lookup u =
      s.m_neighbourDistanceDetectSeqInfo.lookup u :=
  AList.lookup_insert_ne h

/-- **Loop lemma.**  The assertion holds, the counters still cover the neighbours, and the probed nodes
are those that the counters at the start of the loop let through. -/
theorem detectLoop_spec (round : DetectRound) {vs : List NodeId} (hvs : vs.Nodup) (h : s.Counted)
    (hmem : ∀ v ∈ vs, v ∈ s.m_distanceVector.neighbours) :
    ∃ s' probes, detectLoop round vs s = some (s', probes) ∧ s'.Counted ∧
      probes.map Prod.fst = probed s.tooManyLost round.m_packetSender vs := by
  induction vs generalizing s with
  | nil => exact ⟨s, [], rfl, h, rfl⟩
  | cons v vs ih =>
    rw [List.nodup_cons] at hvs
    rw [List.forall_mem_cons] at hmem
    obtain ⟨info, hinfo⟩ := Option.isSome_iff_exists.mp (AList.lookup_isSome.mpr ((h v).mpr hmem.1))
    have hlost : s.tooManyLost v = decide (info.lostCount > c_distanceDetectLostThreshold) := by
      rw [tooManyLost, hinfo]
    simp only [detectLoop, hinfo, probed, hlost]
    by_cases hmany : info.lostCount > c_distanceDetectLostThreshold
    · have hkept : ∀ x, x ∈ (s.m_distanceVector.updateNeighbourDistance round.order v
          c_unreachableDistance).2.neighbours ↔ x ∈ s.m_distanceVector.neighbours :=
        fun x => DistanceVector.mem_neighbours_updateNeighbourDistance _ _ hmem.1
      obtain ⟨s', probes, hloop, hcounted, hprobes⟩ := ih hvs.2 (h.setDistanceVector hkept)
        fun x hx => (hkept x).mpr (hmem.2 x hx)
      rw [if_pos hmany, if_pos (decide_eq_true hmany)]
      exact ⟨s', probes, hloop, hcounted, hprobes⟩
    · have hcounted := h.setSeqInfo hmem.1 { info with sendSeq := info.sendSeq + 1 }
      rw [if_neg hmany, if_neg fun hlost => hmany (of_decide_eq_true hlost)]
      by_cases hsend : round.m_packetSender v = -1
      · rw [if_pos hsend, if_pos hsend]
        exact ⟨_, _, rfl, hcounted, rfl⟩
      · obtain ⟨s', probes, hloop, hcounted', hprobes⟩ := ih hvs.2 hcounted hmem.2
        have hsame : probed (s.setSeqInfo v { info with sendSeq := info.sendSeq + 1 }).tooManyLost
            round.m_packetSender vs = probed s.tooManyLost round.m_packetSender vs := by
          refine probed_congr fun u hu => ?_
          have hne : u ≠ v := fun he => hvs.1 (he ▸ hu)
          unfold tooManyLost
          rw [lookup_setSeqInfo_ne hne]
        rw [if_neg hsend, if_neg hsend, hloop]
        exact ⟨s', _, rfl, hcounted', by rw [List.map_cons, hprobes, hsame]⟩

theorem sendDistanceDetect_spec (round : DetectRound) (h : s.Counted) :
    ∃ s' probes, s.sendDistanceDetect round = some (s', probes) ∧ s'.Counted ∧
      probes.map Prod.fst =
        probed s.tooManyLost round.m_packetSender (round.order.neighbours s.m_distanceVector) :=
  detectLoop_spec round (round.order.neighbours_nodup s.m_distanceVector) h
    fun v hv => (round.order.mem_neighbours s.m_distanceVector v).mp hv

/-- Every neighbour other than the own node has lost few enough probes, and every send on the way to it
succeeds. -/
def LetsAllThrough (selfNodeId : NodeId) (s : DistanceVectorService) (round : DetectRound) : Prop :=
  ∀ before v after, round.order.neighbours s.m_distanceVector = before ++ v :: after →
    v ≠ selfNodeId → s.tooManyLost v = false ∧
      ∀ u ∈ before, s.tooManyLost u = true ∨ round.m_packetSender u ≠ -1

theorem probed_all_iff {selfNodeId : NodeId} (round : DetectRound) :
    (∀ v ∈ s.m_distanceVector.neighbours, v ≠ selfNodeId →
      v ∈ probed s.tooManyLost round.m_packetSender (round.order.neighbours s.m_distanceVector)) ↔
      LetsAllThrough selfNodeId s round := by
  have hnodup := round.order.neighbours_nodup s.m_distanceVector
  constructor
  · intro h before v after hsplit hself
    have hv := h v ((round.order.mem_neighbours s.m_distanceVector v).mp (by simp [hsplit])) hself
    rw [hsplit] at hv hnodup
    obtain ⟨-, hafter, hdisjoint⟩ := List.nodup_append'.mp hnodup
    exact (mem_probed_iff (fun hbefore => hdisjoint hbefore List.mem_cons_self)
      (List.nodup_cons.mp hafter).1).mp hv
  · intro h v hv hself
    obtain ⟨before, after, hsplit⟩ :=
      List.append_of_mem ((round.order.mem_neighbours s.m_distanceVector v).mpr hv)
    have hthrough := h before v after hsplit hself
    rw [hsplit] at hnodup ⊢
    obtain ⟨-, hafter, hdisjoint⟩ := List.nodup_append'.mp hnodup
    exact (mem_probed_iff (fun hbefore => hdisjoint hbefore List.mem_cons_self)
      (List.nodup_cons.mp hafter).1).mpr hthrough

end DistanceVectorService

/-! ### Runs -/

inductive ServiceEvent where
  | sendDistanceDetect (round : DetectRound)
  | handleDistanceDetectReply (order : IterationOrder) (fromNodeId : NodeId)
      (reply : PayloadDistanceDetectReply)
  | handleDistanceVector (order : IterationOrder) (fromNodeId : NodeId)
      (distanceInfos : List (NodeId × ℕ))

def distanceVectorService (selfNodeId : NodeId) (nodeIds : List NodeId) :
    TransitionSystem DistanceVectorService ServiceEvent where
  init s := ∃ now, s = .new selfNodeId nodeIds now
  step s
    | .sendDistanceDetect round => (s.sendDistanceDetect round).map Prod.fst
    | .handleDistanceDetectReply order fromNodeId reply =>
      some (s.handleDistanceDetectReply order fromNodeId reply).2
    | .handleDistanceVector order fromNodeId distanceInfos =>
      some (s.handleDistanceVector order fromNodeId distanceInfos).2

theorem counted_of_reachable {selfNodeId : NodeId} {nodeIds : List NodeId} {s : DistanceVectorService}
    (h : (distanceVectorService selfNodeId nodeIds).Reachable s) : s.Counted := by
  refine h.invariant ?_ ?_
  · rintro s ⟨now, rfl⟩
    exact .new selfNodeId nodeIds now
  · intro s event s' hs _ hstep
    cases event with
    | sendDistanceDetect round =>
      obtain ⟨s₁, probes, hround, hcounted, -⟩ := DistanceVectorService.sendDistanceDetect_spec round hs
      change (s.sendDistanceDetect round).map Prod.fst = some s' at hstep
      rw [hround] at hstep
      cases hstep
      exact hcounted
    | handleDistanceDetectReply order fromNodeId reply =>
      cases hstep
      exact hs.handleDistanceDetectReply
    | handleDistanceVector order fromNodeId distanceInfos =>
      cases hstep
      exact hs.handleDistanceVector

/-- **Probing.**  In every reachable state a round runs without a failing assertion, and it probes every
neighbour **if and only if** none of them has lost too many probes and no send on the way fails. -/
theorem probesAll_iff {selfNodeId : NodeId} {nodeIds : List NodeId} {s : DistanceVectorService}
    (h : (distanceVectorService selfNodeId nodeIds).Reachable s) (round : DetectRound) :
    ∃ s' probes, s.sendDistanceDetect round = some (s', probes) ∧
      ((∀ v ∈ s.m_distanceVector.neighbours, v ≠ selfNodeId → v ∈ probes.map Prod.fst) ↔
        s.LetsAllThrough selfNodeId round) := by
  obtain ⟨s', probes, hround, -, hprobes⟩ :=
    DistanceVectorService.sendDistanceDetect_spec round (counted_of_reachable h)
  refine ⟨s', probes, hround, ?_⟩
  rw [hprobes]
  exact DistanceVectorService.probed_all_iff round

/-- A round in the order of the stored keys. -/
def storedRound (m_packetSender : NodeId → ℤ) : DetectRound where
  order := .stored
  m_packetSender := m_packetSender
  currentTimestamp _ := 0

theorem probesAll_first : ∃ s' probes,
    (DistanceVectorService.new "A" ["B", "C"] 0).sendDistanceDetect (storedRound fun _ => 0) =
      some (s', probes) ∧ ∀ v ∈ (DistanceVector.new "A" ["B", "C"]).neighbours, v ≠ "A" →
        v ∈ probes.map Prod.fst := by
  obtain ⟨s', probes, hround, hiff⟩ := probesAll_iff
    (.init (S := distanceVectorService "A" ["B", "C"]) ⟨0, rfl⟩) (storedRound fun _ => 0)
  refine ⟨s', probes, hround, hiff.mpr ?_⟩
  intro before v after hsplit _
  have hv : v ∈ ["C", "B"] := by
    rw [show ["C", "B"] = before ++ v :: after from hsplit]
    simp
  refine ⟨?_, fun u _ => .inr (show (0 : ℤ) ≠ -1 by decide)⟩
  rcases List.mem_pair.mp hv with rfl | rfl <;> decide

/-- **Probing stops.**  After four rounds without a reply nobody is probed any more; and a failed send to
`C` keeps the probe from `B` in the first round already. -/
theorem probing_stops :
    (∃ s, (distanceVectorService "A" ["B", "C"]).Reachable s ∧
      (s.sendDistanceDetect (storedRound fun _ => 0)).map (fun result => result.2.map Prod.fst) =
        some []) ∧
    ∃ s, (distanceVectorService "A" ["B", "C"]).Reachable s ∧
      (s.sendDistanceDetect (storedRound fun v => if v = "C" then -1 else 0)).map
        (fun result => result.2.map Prod.fst) = some ["C"] := by
  have hrounds : ((distanceVectorService "A" ["B", "C"]).run (.new "A" ["B", "C"] 0)
      (List.replicate 4 (.sendDistanceDetect (storedRound fun _ => 0)))).map
      (fun s => (s.sendDistanceDetect (storedRound fun _ => 0)).map
        fun result => result.2.map Prod.fst) = some (some []) := by
    decide
  obtain ⟨s, hrun, hs⟩ := Option.map_eq_some_iff.mp hrounds
  exact ⟨⟨s, .of_run (.init ⟨0, rfl⟩) hrun, hs⟩,
    ⟨_, .init (S := distanceVectorService "A" ["B", "C"]) ⟨0, rfl⟩, by decide⟩⟩

end DistributedNetwork.Routing
