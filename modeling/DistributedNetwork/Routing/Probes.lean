import Mathlib.Algebra.Group.Nat.Defs
import Mathlib.Logic.Function.Basic
import DistributedNetwork.Routing.DistanceVectorService

/-!
# Probes and their replies

What a reply says about a link, and what the two counters of a neighbour say about the probes it did not
answer.

* `measuredDistance_iff` — the distance taken from a reply is below the unreachable one **if and only if** the
  responder's clock is not behind the prober's: the difference of the readings is unsigned;
* `ProbeHistory` — the probes built for a neighbour, whether the sender took them, and the newest one
  answered; `unanswered` is the number the counters are meant to hold, `counted` the one they hold
  (`lostCount_eq_counted`);
* `probeAccounting` — in every run under `AccountingKept` the counters never cross, a reply that is news is
  accepted, and a round declares exactly the neighbours unreachable that left too many probes unanswered.
-/

namespace DistributedNetwork.Routing

open DistributedNetwork.Library

namespace DistanceVectorService

variable {s s' : DistanceVectorService} {v : NodeId} {order : IterationOrder}
variable {info : DistanceDetectSendReplyInfo} {reply : PayloadDistanceDetectReply}

/-! ### What a reply measures -/

/-- The reply to a probe at a clock reading of the responder; the difference is one of 64-bit values, of
which the setter keeps 32 bits. -/
def detectReply (probe : PayloadDistanceDetect) (currentTimestamp : UInt64) :
    PayloadDistanceDetectReply where
  seq := probe.seq.toUInt64
  elapsedTime := (currentTimestamp - probe.timestamp.toUInt64).toUInt32

/-- The responder: its return code, and the reply handed to the sender if there is one. -/
def handleDistanceDetect (m_packetSender : Option (NodeId → ℤ)) (currentTimestamp : UInt64)
    (fromNodeId : NodeId) (probe : PayloadDistanceDetect) :
    ℤ × Option (NodeId × PayloadDistanceDetectReply) :=
  match m_packetSender with
  | none => (0, none)
  | some send =>
    (if send fromNodeId ≠ 0 then -1 else 0, some (fromNodeId, detectReply probe currentTimestamp))

/-- The distance that the handler of a reply computes. -/
def measuredDistance (reply : PayloadDistanceDetectReply) : UInt32 :=
  reply.elapsedTime / c_timeResolutionMs + 1

theorem handleDistanceDetectReply_of_newer
    (hinfo : s.m_neighbourDistanceDetectSeqInfo.lookup v = some info)
    (hnewer : info.receivedSeq < reply.seq) :
    s.handleDistanceDetectReply order v reply =
      (s.setSeqInfo v { info with receivedSeq := reply.seq }).storeUpdated
        (s.m_distanceVector.updateNeighbourDistance order v (measuredDistance reply).toNat) := by
  simp only [handleDistanceDetectReply, hinfo]
  rw [if_neg (UInt64.not_le.mpr hnewer)]
  rfl

theorem handleDistanceDetectReply_of_old
    (hinfo : s.m_neighbourDistanceDetectSeqInfo.lookup v = some info)
    (hold : reply.seq ≤ info.receivedSeq) : s.handleDistanceDetectReply order v reply = (0, s) := by
  simp only [handleDistanceDetectReply, hinfo]
  rw [if_pos hold]

theorem storeUpdated_distanceVector (updated : Bool × DistanceVector) :
    (s.storeUpdated updated).2.m_distanceVector = updated.2 := by
  unfold storeUpdated
  split
  · rfl
  · rfl

theorem storeUpdated_seqInfo (updated : Bool × DistanceVector) :
    (s.storeUpdated updated).2.m_neighbourDistanceDetectSeqInfo =
      s.m_neighbourDistanceDetectSeqInfo := by
  unfold storeUpdated
  split
  · rfl
  · rfl

/-- The three truncations leave the difference of the readings modulo `2 ^ 32`. -/
theorem detectReply_elapsedTime (seq : UInt32) (sent handled : UInt64) :
    (detectReply ⟨seq, sent.toUInt32⟩ handled).elapsedTime.toNat =
      (handled.toNat + (2 ^ 64 - sent.toNat)) % 2 ^ 32 := by
  have hsent := sent.toNat_lt
  have hhandled := handled.toNat_lt
  simp only [detectReply, UInt64.toNat_toUInt32, UInt64.toNat_sub, UInt32.toNat_toUInt64]
  omega

theorem measuredDistance_toNat (reply : PayloadDistanceDetectReply) :
    (measuredDistance reply).toNat = reply.elapsedTime.toNat / 200 + 1 := by
  have hlt := reply.elapsedTime.toNat_lt
  simp only [measuredDistance, c_timeResolutionMs, UInt32.toNat_add, UInt32.toNat_div]
  simp only [UInt32.reduceToNat]
  omega

/-- **Distance measurement.**  A probe stamped at `sent` and handled less than 149 s before or after, by the
clock of the responder: the distance that the reply brings into the table is below the unreachable one
**if and only if** that clock is not behind, and then it is the elapsed time in units of 200 ms plus one. -/
theorem measuredDistance_iff (seq : UInt32) (sent handled : UInt64)
    (hclose : handled.toNat < sent.toNat + 149000 ∧ sent.toNat < handled.toNat + 149000) :
    ((measuredDistance (detectReply ⟨seq, sent.toUInt32⟩ handled)).toNat < c_unreachableDistance ↔
        sent ≤ handled) ∧
      (sent ≤ handled → (measuredDistance (detectReply ⟨seq, sent.toUInt32⟩ handled)).toNat =
        (handled.toNat - sent.toNat) / c_timeResolutionMs.toNat + 1) ∧
      (∀ send fromNodeId, (handleDistanceDetect (some send) handled fromNodeId
          ⟨seq, sent.toUInt32⟩).2 = some (fromNodeId, detectReply ⟨seq, sent.toUInt32⟩ handled)) ∧
      ∀ (s : DistanceVectorService) (order : IterationOrder) (v : NodeId)
        (info : DistanceDetectSendReplyInfo),
        s.m_neighbourDistanceDetectSeqInfo.lookup v = some info → info.receivedSeq < seq.toUInt64 →
          (s.handleDistanceDetectReply order v
              (detectReply ⟨seq, sent.toUInt32⟩ handled)).2.m_distanceVector =
            (s.m_distanceVector.updateNeighbourDistance order v
              (measuredDistance (detectReply ⟨seq, sent.toUInt32⟩ handled)).toNat).2 := by
  have hsent := sent.toNat_lt
  have hhandled := handled.toNat_lt
  refine ⟨?_, fun hle => ?_, fun _ _ => rfl, fun s order v info hinfo hnewer => ?_⟩
  · rw [measuredDistance_toNat, detectReply_elapsedTime, UInt64.le_iff_toNat_le, c_unreachableDistance]
    omega
  · rw [UInt64.le_iff_toNat_le] at hle
    have hresolution : c_timeResolutionMs.toNat = 200 := rfl
    rw [measuredDistance_toNat, detectReply_elapsedTime, hresolution]
    omega
  · rw [handleDistanceDetectReply_of_newer hinfo hnewer, storeUpdated_distanceVector]

/-- Half a second, across the end of the low word of the prober's clock. -/
theorem measuredDistance_iff_wrapped :
    ((measuredDistance (detectReply ⟨1, (4294967200 : UInt64).toUInt32⟩ 4294967700)).toNat <
        c_unreachableDistance ↔ (4294967200 : UInt64) ≤ 4294967700) ∧
      ((4294967200 : UInt64) ≤ 4294967700 →
        (measuredDistance (detectReply ⟨1, (4294967200 : UInt64).toUInt32⟩ 4294967700)).toNat =
          ((4294967700 : UInt64).toNat - (4294967200 : UInt64).toNat) / c_timeResolutionMs.toNat + 1) ∧
      (∀ send fromNodeId, (handleDistanceDetect (some send) 4294967700 fromNodeId
          ⟨1, (4294967200 : UInt64).toUInt32⟩).2 =
        some (fromNodeId, detectReply ⟨1, (4294967200 : UInt64).toUInt32⟩ 4294967700)) ∧
      ∀ (s : DistanceVectorService) (order : IterationOrder) (v : NodeId)
        (info : DistanceDetectSendReplyInfo),
        s.m_neighbourDistanceDetectSeqInfo.lookup v = some info →
          info.receivedSeq < (1 : UInt32).toUInt64 →
          (s.handleDistanceDetectReply order v
              (detectReply ⟨1, (4294967200 : UInt64).toUInt32⟩ 4294967700)).2.m_distanceVector =
            (s.m_distanceVector.updateNeighbourDistance order v
              (measuredDistance
                (detectReply ⟨1, (4294967200 : UInt64).toUInt32⟩ 4294967700)).toNat).2 :=
  measuredDistance_iff 1 4294967200 4294967700 ⟨by decide, by decide⟩

/-- **A clock one millisecond behind** makes a working link unreachable. -/
theorem late_clock_unreachable :
    (measuredDistance (detectReply ⟨1, (1000 : UInt64).toUInt32⟩ 999)).toNat = 21474837 ∧
      ((DistanceVectorService.new "A" ["B"] 0).handleDistanceDetectReply .stored "B"
        (detectReply ⟨1, (1000 : UInt64).toUInt32⟩ 999)).2.m_distanceVector.route "B" =
          some ⟨"", 750⟩ ∧
      ((DistanceVectorService.new "A" ["B"] 0).handleDistanceDetectReply .stored "B"
        (detectReply ⟨1, (1000 : UInt64).toUInt32⟩ 1000)).2.m_distanceVector.route "B" =
          some ⟨"B", 1⟩ := by
  refine ⟨by decide, by decide, by decide⟩

/-- A new service has probed nobody. -/
theorem lookup_new {selfNodeId : NodeId} {nodeIds : List NodeId} {now : ℤ}
    (hinfo : (new selfNodeId nodeIds now).m_neighbourDistanceDetectSeqInfo.lookup v = some info) :
    info = {} := by
  have hfold : ∀ (ids : List NodeId) (infos : AList fun _ : NodeId => DistanceDetectSendReplyInfo),
      (∀ i, infos.lookup v = some i → i = {}) → ∀ i,
        (ids.foldl (fun infos nodeId => infos.insert nodeId {}) infos).lookup v = some i → i = {} := by
    intro ids
    induction ids with
    | nil => exact fun _ hinfos => hinfos
    | cons nodeId ids ih =>
      intro infos hinfos
      refine ih _ fun i hi => ?_
      by_cases hv : v = nodeId
      · subst hv
        rw [AList.lookup_insert] at hi
        exact (Option.some.inj hi).symm
      · rw [AList.lookup_insert_ne hv] at hi
        exact hinfos i hi
  exact hfold _ ∅ nofun info hinfo

/-! ### The neighbours that a round declares unreachable -/

/-- The nodes that a loop over a list of nodes declares unreachable; a failed send ends the loop. -/
def declared (lost : NodeId → Bool) (sender : NodeId → ℤ) : List NodeId → List NodeId
  | [] => []
  | v :: vs =>
    if lost v then v :: declared lost sender vs
    else if sender v = -1 then [] else declared lost sender vs

theorem declared_congr {lost lost' : NodeId → Bool} {sender : NodeId → ℤ} {vs : List NodeId}
    (h : ∀ v ∈ vs, lost v = lost' v) : declared lost sender vs = declared lost' sender vs := by
  induction vs with
  | nil => rfl
  | cons v vs ih =>
    rw [List.forall_mem_cons] at h
    rw [declared, declared, h.1, ih h.2]

theorem mem_of_mem_declared {lost : NodeId → Bool} {sender : NodeId → ℤ} {vs : List NodeId}
    (h : v ∈ declared lost sender vs) : v ∈ vs := by
  induction vs with
  | nil => exact h
  | cons u vs ih =>
    rw [declared] at h
    split at h
    · rcases List.mem_cons.mp h with rfl | hlater
      · exact List.mem_cons_self
      · exact List.mem_cons_of_mem _ (ih hlater)
    · split at h
      · cases h
      · exact List.mem_cons_of_mem _ (ih h)

/-- A visited node is declared unreachable when it lost too many, unless a send before it failed. -/
theorem mem_declared_iff {lost : NodeId → Bool} {sender : NodeId → ℤ} {before after : List NodeId}
    (hbefore : v ∉ before) (hafter : v ∉ after) :
    v ∈ declared lost sender (before ++ v :: after) ↔
      lost v = true ∧ ∀ u ∈ before, lost u = true ∨ sender u ≠ -1 := by
  induction before with
  | nil =>
    rw [List.nil_append, declared]
    cases hlost : lost v with
    | true => exact ⟨fun _ => ⟨rfl, nofun⟩, fun _ => List.mem_cons_self⟩
    | false =>
      rw [if_neg Bool.false_ne_true]
      refine ⟨fun h => ?_, nofun⟩
      split at h
      · cases h
      · exact absurd (mem_of_mem_declared h) hafter
  | cons u before ih =>
    rw [List.mem_cons, not_or] at hbefore
    rw [List.cons_append, declared, List.forall_mem_cons]
    cases hlost : lost u with
    | true =>
      rw [if_pos rfl, List.mem_cons, or_iff_right hbefore.1, ih hbefore.2]
      simp only [true_or, true_and]
    | false =>
      rw [if_neg Bool.false_ne_true]
      by_cases hsend : sender u = -1
      · simp [hsend]
      · rw [if_neg hsend, ih hbefore.2]
        simp [hsend]

/-- What a round does to the table: the declared neighbours are measured as unreachable. -/
def declareUnreachable (dv : DistanceVector) (order : IterationOrder) (vs : List NodeId) :
    DistanceVector :=
  vs.foldl (fun dv v => (dv.updateNeighbourDistance order v c_unreachableDistance).2) dv

/-- The counters of a neighbour once it got a probe. -/
def countProbe (info : DistanceDetectSendReplyInfo) : DistanceDetectSendReplyInfo :=
  { info with sendSeq := info.sendSeq + 1 }

/-- The counters `after` are those `before`, advanced for the nodes that got a probe. -/
def CountersAdvanced (before after : DistanceVectorService) (nodes : List NodeId) : Prop :=
  ∀ v, after.m_neighbourDistanceDetectSeqInfo.lookup v =
    if v ∈ nodes then (before.m_neighbourDistanceDetectSeqInfo.lookup v).map countProbe
    else before.m_neighbourDistanceDetectSeqInfo.lookup v

/-- The first probe of a loop, and then the others. -/
theorem CountersAdvanced.cons {nodes : List NodeId} (hv : v ∉ nodes)
    (hinfo : s.m_neighbourDistanceDetectSeqInfo.lookup v = some info)
    (h : CountersAdvanced (s.setSeqInfo v (countProbe info)) s' nodes) :
    CountersAdvanced s s' (v :: nodes) := by
  intro u
  rw [h u]
  simp only [List.mem_cons]
  by_cases hu : u = v
  · subst hu
    rw [if_neg hv, if_pos (.inl rfl), hinfo]
    exact AList.lookup_insert _
  · simp only [hu, false_or, lookup_setSeqInfo_ne hu]

/-- **Loop lemma.**  A loop measures the declared nodes as unreachable and advances the counter of every
probed one; nothing else changes. -/
theorem detectLoop_effect (round : DetectRound) {vs : List NodeId} (hvs : vs.Nodup)
    {probes : List (NodeId × PayloadDistanceDetect)} (h : detectLoop round vs s = some (s', probes)) :
    s'.m_distanceVector = declareUnreachable s.m_distanceVector round.order
        (declared s.tooManyLost round.m_packetSender vs) ∧
      CountersAdvanced s s' (probes.map Prod.fst) ∧ ∀ v ∈ probes.map Prod.fst, v ∈ vs := by
  induction vs generalizing s probes with
  | nil =>
    cases h
    exact ⟨rfl, fun v => rfl, nofun⟩
  | cons u vs ih =>
    rw [List.nodup_cons] at hvs
    cases hinfo : s.m_neighbourDistanceDetectSeqInfo.lookup u with
    | none =>
      simp only [detectLoop, hinfo] at h
      cases h
    | some info =>
      have hlost : s.tooManyLost u = decide (info.lostCount > c_distanceDetectLostThreshold) := by
        rw [tooManyLost, hinfo]
      simp only [detectLoop, hinfo] at h
      rw [declared, hlost]
      by_cases hmany : info.lostCount > c_distanceDetectLostThreshold
      · rw [if_pos hmany] at h
        rw [if_pos (decide_eq_true hmany)]
        obtain ⟨hdv, hcounters, hmem⟩ := ih hvs.2 h
        exact ⟨hdv, hcounters, fun v hv => List.mem_cons_of_mem _ (hmem v hv)⟩
      · rw [if_neg hmany] at h
        rw [if_neg fun hlost => hmany (of_decide_eq_true hlost)]
        by_cases hsend : round.m_packetSender u = -1
        · rw [if_pos hsend] at h
          rw [if_pos hsend]
          cases h
          refine ⟨rfl, .cons List.not_mem_nil hinfo fun v => rfl, fun v hv => ?_⟩
          rw [List.map_singleton, List.mem_singleton] at hv
          exact List.mem_cons.mpr (.inl hv)
        · rw [if_neg hsend, Option.map_eq_some_iff] at h
          rw [if_neg hsend]
          obtain ⟨⟨s₁, rest⟩, hloop, heq⟩ := h
          cases heq
          obtain ⟨hdv, hcounters, hmem⟩ := ih hvs.2 hloop
          have hsame : declared (s.setSeqInfo u (countProbe info)).tooManyLost round.m_packetSender vs =
              declared s.tooManyLost round.m_packetSender vs := by
            refine declared_congr fun v hv => ?_
            have hne : v ≠ u := fun he => hvs.1 (he ▸ hv)
            unfold tooManyLost
            rw [lookup_setSeqInfo_ne hne]
          refine ⟨?_, .cons (fun hu => hvs.1 (hmem u hu)) hinfo hcounters, fun v hv => ?_⟩
          · exact hdv.trans (congrArg _ hsame)
          · rw [List.map_cons, List.mem_cons] at hv
            exact List.mem_cons.mpr (hv.imp_right (hmem v))

end DistanceVectorService

/-! ### The probes of a neighbour, whatever the counters say -/

/-- The probes built for a neighbour, numbered from `0`. -/
structure ProbeHistory where
  /-- for each probe, whether the sender took it -/
  outcomes : List Bool := []
  /-- the number of the newest probe answered -/
  answered : Option ℕ := none

namespace ProbeHistory

variable {h : ProbeHistory} {q : ℕ}

/-- The probes built after the newest one answered. -/
def since (h : ProbeHistory) : List Bool :=
  h.outcomes.drop (h.answered.elim 0 (· + 1))

/-- How many probes were handed to the sender after the newest one answered. -/
def unanswered (h : ProbeHistory) : ℕ :=
  h.since.count true

/-- The same with the failed probes and the answered one counted in. -/
def counted (h : ProbeHistory) : ℕ :=
  h.since.length + h.answered.elim 0 fun _ => 1

def build (h : ProbeHistory) (taken : Bool) : ProbeHistory :=
  { h with outcomes := h.outcomes ++ [taken] }

/-- A reply to the probe `q` is news: the probe was sent, and no newer one has been answered. -/
def News (h : ProbeHistory) (q : ℕ) : Prop :=
  h.outcomes[q]? = some true ∧ ∀ a ∈ h.answered, a < q

instance (h : ProbeHistory) : DecidablePred h.News := fun q =>
  inferInstanceAs (Decidable (h.outcomes[q]? = some true ∧ ∀ a ∈ h.answered, a < q))

def answer (h : ProbeHistory) (q : ℕ) : ProbeHistory :=
  if h.News q then { h with answered := some q } else h

/-- A reply is in order: it repeats a number already passed or names a probe that was sent, and it is not
the first answer to the very first probe. -/
def InOrder (h : ProbeHistory) (q : ℕ) : Prop :=
  (q ≤ h.answered.getD 0 ∨ h.outcomes[q]? = some true) ∧
    ¬ (h.answered = none ∧ q = 0 ∧ h.News q)

theorem unanswered_le_counted (h : ProbeHistory) : h.unanswered ≤ h.counted :=
  (List.count_le_length).trans (Nat.le_add_right _ _)

end ProbeHistory

/-- The service and, beside it, the probes of every neighbour. -/
structure ProbedService where
  service : DistanceVectorService
  history : NodeId → ProbeHistory

namespace ProbedService

/-- A round adds the probes it built. -/
def afterRound (history : NodeId → ProbeHistory) (round : DetectRound)
    (probes : List (NodeId × PayloadDistanceDetect)) : NodeId → ProbeHistory :=
  fun v =>
    if v ∈ probes.map Prod.fst then (history v).build (decide (round.m_packetSender v ≠ -1))
    else history v

end ProbedService

def probeRuns (selfNodeId : NodeId) (nodeIds : List NodeId) :
    TransitionSystem ProbedService ServiceEvent where
  init r := ∃ now, r = ⟨.new selfNodeId nodeIds now, fun _ => {}⟩
  step r
    | .sendDistanceDetect round =>
      (r.service.sendDistanceDetect round).map fun result =>
        ⟨result.1, ProbedService.afterRound r.history round result.2⟩
    | .handleDistanceDetectReply order fromNodeId reply =>
      some ⟨(r.service.handleDistanceDetectReply order fromNodeId reply).2,
        Function.update r.history fromNodeId ((r.history fromNodeId).answer reply.seq.toNat)⟩
    | .handleDistanceVector order fromNodeId distanceInfos =>
      some ⟨(r.service.handleDistanceVector order fromNodeId distanceInfos).2, r.history⟩

/-- What the counters of a neighbour record of its probes. -/
structure CountersRecord (info : DistanceDetectSendReplyInfo) (h : ProbeHistory) : Prop where
  sendSeq : info.sendSeq.toNat = h.outcomes.length
  receivedSeq : info.receivedSeq.toNat = h.answered.getD 0
  answered_sent : ∀ a ∈ h.answered, h.outcomes[a]? = some true
  numbers : h.outcomes.length ≤ 2 ^ 32

namespace CountersRecord

variable {info : DistanceDetectSendReplyInfo} {h : ProbeHistory} {q : UInt64}

theorem answered_lt (hr : CountersRecord info h) {a : ℕ} (ha : h.answered = some a) :
    a < h.outcomes.length :=
  (List.getElem?_eq_some_iff.mp (hr.answered_sent a ha)).1

theorem receivedSeq_le (hr : CountersRecord info h) : info.receivedSeq ≤ info.sendSeq := by
  rw [UInt64.le_iff_toNat_le, hr.sendSeq, hr.receivedSeq]
  cases ha : h.answered with
  | none => exact Nat.zero_le _
  | some a => exact (hr.answered_lt ha).le

/-- **What the difference counts**: the probes since the newest answer, the failed ones too, and the
answered one. -/
theorem lostCount_eq_counted (hr : CountersRecord info h) : info.lostCount.toNat = h.counted := by
  have hle := UInt64.le_iff_toNat_le.mp hr.receivedSeq_le
  have hlost : info.lostCount.toNat = info.sendSeq.toNat - info.receivedSeq.toNat := by
    have := info.sendSeq.toNat_lt
    simp only [DistanceDetectSendReplyInfo.lostCount, UInt64.toNat_sub]
    omega
  rw [hlost, hr.sendSeq, hr.receivedSeq, ProbeHistory.counted, ProbeHistory.since, List.length_drop]
  cases ha : h.answered with
  | none => rfl
  | some a =>
    have hlt := hr.answered_lt ha
    simp only [Option.getD_some, Option.elim_some]
    omega

/-- The next probe. -/
theorem build (hr : CountersRecord info h) (hlt : h.outcomes.length < 2 ^ 32) (taken : Bool) :
    CountersRecord (DistanceVectorService.countProbe info) (h.build taken) where
  sendSeq := by
    have hsend := hr.sendSeq
    simp only [DistanceVectorService.countProbe, ProbeHistory.build, UInt64.toNat_add, List.length_append,
      List.length_singleton, UInt64.reduceToNat]
    omega
  receivedSeq := hr.receivedSeq
  answered_sent := by
    intro a ha
    have hlt := hr.answered_lt ha
    show (h.outcomes ++ [taken])[a]? = some true
    rw [List.getElem?_append_left hlt]
    exact hr.answered_sent a ha
  numbers := by
    simp only [ProbeHistory.build, List.length_append, List.length_singleton]
    omega

/-- A reply in order is accepted exactly when it is news. -/
theorem newer_iff_news (hr : CountersRecord info h) (hq : h.InOrder q.toNat) :
    info.receivedSeq < q ↔ h.News q.toNat := by
  rw [UInt64.lt_iff_toNat_lt, hr.receivedSeq]
  constructor
  · intro hlt
    refine ⟨hq.1.resolve_left (not_le.mpr hlt), fun a ha => ?_⟩
    rw [Option.mem_def] at ha
    rwa [ha] at hlt
  · intro hnews
    cases ha : h.answered with
    | none => exact Nat.pos_of_ne_zero fun hzero => hq.2 ⟨ha, hzero, hnews⟩
    | some a => exact hnews.2 a ha

/-- The newest answer. -/
theorem answer (hr : CountersRecord info h) (hnews : h.News q.toNat) :
    CountersRecord { info with receivedSeq := q } (h.answer q.toNat) := by
  rw [ProbeHistory.answer, if_pos hnews]
  refine ⟨hr.sendSeq, rfl, fun a ha => ?_, hr.numbers⟩
  cases ha
  exact hnews.1

end CountersRecord

/-! ### Runs -/

namespace ProbedService

variable {r : ProbedService} {round : DetectRound} {v : NodeId}

/-- A round in order.  A neighbour that it visits left more than three probes unanswered, or at most three
even when failed sends and the answered probe are counted in; one that it does not reach, because an
earlier send fails, left at most three. -/
def RoundKept (r : ProbedService) (round : DetectRound) : Prop :=
  ∀ before v after, round.order.neighbours r.service.m_distanceVector = before ++ v :: after →
    ((∀ u ∈ before, 3 < (r.history u).counted ∨ round.m_packetSender u ≠ -1) →
      3 < (r.history v).unanswered ∨ (r.history v).counted ≤ 3) ∧
    ((∃ u ∈ before, (r.history u).counted ≤ 3 ∧ round.m_packetSender u = -1) →
      (r.history v).unanswered ≤ 3)

/-- The neighbours that a round declares unreachable. -/
def declaredIn (r : ProbedService) (round : DetectRound) : List NodeId :=
  DistanceVectorService.declared r.service.tooManyLost round.m_packetSender
    (round.order.neighbours r.service.m_distanceVector)

/-- The counters of every neighbour record its probes. -/
structure Accounted (r : ProbedService) : Prop where
  counted : r.service.Counted
  records : ∀ v info, r.service.m_neighbourDistanceDetectSeqInfo.lookup v = some info →
    CountersRecord info (r.history v)

/-- The run condition: rounds and replies are in order, and the numbers of the probes fit in 32 bits. -/
def AccountingKept (r : ProbedService) : ServiceEvent → Prop
  | .sendDistanceDetect round => r.RoundKept round ∧
      ∀ v ∈ r.service.m_distanceVector.neighbours, (r.history v).outcomes.length < 2 ^ 32
  | .handleDistanceDetectReply _ v reply =>
      v ∈ r.service.m_distanceVector.neighbours → (r.history v).InOrder reply.seq.toNat
  | .handleDistanceVector _ _ _ => True

namespace Accounted

variable (h : r.Accounted)

include h in
theorem tooManyLost_iff (hv : v ∈ r.service.m_distanceVector.neighbours) :
    r.service.tooManyLost v = true ↔ 3 < (r.history v).counted := by
  obtain ⟨info, hinfo⟩ :=
    Option.isSome_iff_exists.mp (AList.lookup_isSome.mpr ((h.counted v).mpr hv))
  rw [DistanceVectorService.tooManyLost, hinfo, decide_eq_true_iff, gt_iff_lt, UInt64.lt_iff_toNat_lt,
    (h.records v info hinfo).lostCount_eq_counted]
  exact Iff.rfl

include h in
/-- Who is declared: a neighbour whose counters are too far apart, unless a send before it failed. -/
theorem mem_declaredIn_iff {before after : List NodeId}
    (heq : round.order.neighbours r.service.m_distanceVector = before ++ v :: after) :
    v ∈ r.declaredIn round ↔ 3 < (r.history v).counted ∧
      ∀ u ∈ before, 3 < (r.history u).counted ∨ round.m_packetSender u ≠ -1 := by
  have hnodup := round.order.neighbours_nodup r.service.m_distanceVector
  have hmem : ∀ u ∈ before ++ v :: after, u ∈ r.service.m_distanceVector.neighbours := fun u hu =>
    (round.order.mem_neighbours _ u).mp (heq ▸ hu)
  rw [heq] at hnodup
  obtain ⟨-, hafter, hdisjoint⟩ := List.nodup_append'.mp hnodup
  rw [declaredIn, heq, DistanceVectorService.mem_declared_iff
    (fun hbefore => hdisjoint hbefore List.mem_cons_self) (List.nodup_cons.mp hafter).1,
    h.tooManyLost_iff (hmem v (by simp))]
  refine and_congr_right fun _ => forall_congr' fun u => forall_congr' fun hu => ?_
  rw [h.tooManyLost_iff (hmem u (List.mem_append_left _ hu))]

include h in
/-- **Rounds are in order exactly when they are right.** -/
theorem declared_iff : (∀ v ∈ r.service.m_distanceVector.neighbours,
      v ∈ r.declaredIn round ↔ 3 < (r.history v).unanswered) ↔ r.RoundKept round := by
  constructor
  · intro hright before v after heq
    have hle := (r.history v).unanswered_le_counted
    have hv := hright v ((round.order.mem_neighbours _ v).mp (by simp [heq]))
    rw [h.mem_declaredIn_iff heq] at hv
    constructor
    · intro hreached
      by_contra hwrong
      rw [not_or, not_lt, not_le] at hwrong
      exact absurd (hv.mp ⟨hwrong.2, hreached⟩) (not_lt.mpr hwrong.1)
    · rintro ⟨u, hu, hcounted, hfailed⟩
      by_contra hmany
      rcases (hv.mpr (not_le.mp hmany)).2 u hu with hlt | hsent
      · exact absurd hlt (not_lt.mpr hcounted)
      · exact hsent hfailed
  · intro hkept v hv
    obtain ⟨before, after, heq⟩ :=
      List.append_of_mem ((round.order.mem_neighbours r.service.m_distanceVector v).mpr hv)
    have hle := (r.history v).unanswered_le_counted
    obtain ⟨hvisited, hmissed⟩ := hkept before v after heq
    rw [h.mem_declaredIn_iff heq]
    by_cases hreached : ∀ u ∈ before, 3 < (r.history u).counted ∨ round.m_packetSender u ≠ -1
    · have hcase := hvisited hreached
      rw [and_iff_left hreached]
      omega
    · refine ⟨fun hboth => absurd hboth.2 hreached, fun hmany => ?_⟩
      push Not at hreached
      exact absurd hmany (not_lt.mpr (hmissed hreached))

include h in
/-- A round leaves counters that record its probes. -/
theorem afterRound (hlt : ∀ v ∈ r.service.m_distanceVector.neighbours,
      (r.history v).outcomes.length < 2 ^ 32)
    {s' : DistanceVectorService} {probes : List (NodeId × PayloadDistanceDetect)}
    (hround : r.service.sendDistanceDetect round = some (s', probes)) :
    Accounted ⟨s', ProbedService.afterRound r.history round probes⟩ := by
  obtain ⟨s₁, probes₁, hround₁, hcounted, -⟩ :=
    DistanceVectorService.sendDistanceDetect_spec round h.counted
  cases hround.symm.trans hround₁
  obtain ⟨-, hcounters, -⟩ :=
    DistanceVectorService.detectLoop_effect round (round.order.neighbours_nodup _) hround
  refine ⟨hcounted, fun v info hinfo => ?_⟩
  have hv := hcounters v
  rw [hinfo] at hv
  show CountersRecord info (if v ∈ probes.map Prod.fst then _ else _)
  by_cases hprobed : v ∈ probes.map Prod.fst
  · rw [if_pos hprobed] at hv ⊢
    obtain ⟨old, hold, rfl⟩ := Option.map_eq_some_iff.mp hv.symm
    have hmem : v ∈ r.service.m_distanceVector.neighbours :=
      (h.counted v).mp (AList.lookup_isSome.mp (Option.isSome_of_mem hold))
    exact (h.records v old hold).build (hlt v hmem) _
  · rw [if_neg hprobed] at hv ⊢
    exact h.records v info hv.symm

include h in
/-- A reply in order leaves counters that record it. -/
theorem afterReply {reply : PayloadDistanceDetectReply} (order : IterationOrder)
    (hreply : v ∈ r.service.m_distanceVector.neighbours → (r.history v).InOrder reply.seq.toNat) :
    Accounted ⟨(r.service.handleDistanceDetectReply order v reply).2,
      Function.update r.history v ((r.history v).answer reply.seq.toNat)⟩ := by
  refine ⟨h.counted.handleDistanceDetectReply, fun u info hinfo => ?_⟩
  cases hold : r.service.m_neighbourDistanceDetectSeqInfo.lookup v with
  | none =>
    simp only [DistanceVectorService.handleDistanceDetectReply, hold] at hinfo
    have hne : u ≠ v := by
      rintro rfl
      rw [hold] at hinfo
      cases hinfo
    show CountersRecord info
      (Function.update r.history v ((r.history v).answer reply.seq.toNat) u)
    rw [Function.update_of_ne hne]
    exact h.records u info hinfo
  | some old =>
    have hrecord := h.records v old hold
    have hmem : v ∈ r.service.m_distanceVector.neighbours :=
      (h.counted v).mp (AList.lookup_isSome.mp (Option.isSome_of_mem hold))
    have hiff := hrecord.newer_iff_news (hreply hmem)
    show CountersRecord info
      (Function.update r.history v ((r.history v).answer reply.seq.toNat) u)
    by_cases hnewer : old.receivedSeq < reply.seq
    · have hnews := hiff.mp hnewer
      rw [DistanceVectorService.handleDistanceDetectReply_of_newer hold hnewer,
        DistanceVectorService.storeUpdated_seqInfo] at hinfo
      by_cases hu : u = v
      · subst hu
        rw [Function.update_self]
        cases (AList.lookup_insert _).symm.trans hinfo
        exact hrecord.answer hnews
      · rw [Function.update_of_ne hu]
        rw [DistanceVectorService.lookup_setSeqInfo_ne hu] at hinfo
        exact h.records u info hinfo
    · have hnews : ¬ (r.history v).News reply.seq.toNat := fun hnews => hnewer (hiff.mpr hnews)
      rw [DistanceVectorService.handleDistanceDetectReply_of_old hold (UInt64.not_lt.mp hnewer)] at hinfo
      rw [ProbeHistory.answer, if_neg hnews, Function.update_eq_self]
      exact h.records u info hinfo

end Accounted

theorem accounted_of_reaches {selfNodeId : NodeId} {nodeIds : List NodeId}
    (h : (probeRuns selfNodeId nodeIds).Reaches AccountingKept r) : r.Accounted := by
  refine h.invariant ?_ ?_
  · rintro _ ⟨now, rfl⟩
    refine ⟨.new selfNodeId nodeIds now, fun v info hinfo => ?_⟩
    rw [DistanceVectorService.lookup_new hinfo]
    exact ⟨rfl, rfl, nofun, Nat.zero_le _⟩
  · intro r event r' hr hkept hstep
    cases event with
    | sendDistanceDetect round =>
      obtain ⟨⟨s', probes⟩, hround, rfl⟩ := Option.map_eq_some_iff.mp hstep
      exact hr.afterRound hkept.2 hround
    | handleDistanceDetectReply order v reply =>
      cases hstep
      exact hr.afterReply order hkept
    | handleDistanceVector order v distanceInfos =>
      cases hstep
      refine ⟨hr.counted.handleDistanceVector, fun u info hinfo => hr.records u info ?_⟩
      rw [← hinfo]
      exact (congrArg _ (DistanceVectorService.storeUpdated_seqInfo _)).symm

/-- **Probe loss accounting.**  In every run whose rounds and replies are in order: no counter passes the
other; a reply that is news is accepted **if and only if** it is in order; and the next round, which measures
the neighbours it declares as unreachable, declares exactly those with more than three probes handed to the
sender after the newest one answered **if and only if** it is in order. -/
theorem probeAccounting (selfNodeId : NodeId) (nodeIds : List NodeId) (r : ProbedService)
    (h : (probeRuns selfNodeId nodeIds).Reaches AccountingKept r) :
    (∀ v info, r.service.m_neighbourDistanceDetectSeqInfo.lookup v = some info →
      info.receivedSeq ≤ info.sendSeq) ∧
    (∀ order v reply info, r.service.m_neighbourDistanceDetectSeqInfo.lookup v = some info →
      (r.history v).News reply.seq.toNat →
        (info.receivedSeq < reply.seq ↔ (r.history v).InOrder reply.seq.toNat) ∧
        ((r.history v).InOrder reply.seq.toNat → r.service.handleDistanceDetectReply order v reply =
          (r.service.setSeqInfo v { info with receivedSeq := reply.seq }).storeUpdated
            (r.service.m_distanceVector.updateNeighbourDistance order v
              (DistanceVectorService.measuredDistance reply).toNat))) ∧
    ∀ round, ∃ s' probes, r.service.sendDistanceDetect round = some (s', probes) ∧
      s'.m_distanceVector = DistanceVectorService.declareUnreachable r.service.m_distanceVector
        round.order (r.declaredIn round) ∧
      ((∀ v ∈ r.service.m_distanceVector.neighbours,
        v ∈ r.declaredIn round ↔ 3 < (r.history v).unanswered) ↔ r.RoundKept round) := by
  have haccounted := accounted_of_reaches h
  refine ⟨fun v info hinfo => (haccounted.records v info hinfo).receivedSeq_le, ?_, fun round => ?_⟩
  · intro order v reply info hinfo hnews
    have hrecord := haccounted.records v info hinfo
    have hnewer : (r.history v).InOrder reply.seq.toNat → info.receivedSeq < reply.seq := fun hq =>
      (hrecord.newer_iff_news hq).mpr hnews
    refine ⟨⟨fun hlt => ⟨.inr hnews.1, fun hfirst => ?_⟩, hnewer⟩, fun hq => ?_⟩
    · rw [UInt64.lt_iff_toNat_lt, hfirst.2.1] at hlt
      exact Nat.not_lt_zero _ hlt
    · exact DistanceVectorService.handleDistanceDetectReply_of_newer hinfo (hnewer hq)
  · obtain ⟨s', probes, hround, -, -⟩ :=
      DistanceVectorService.sendDistanceDetect_spec round haccounted.counted
    obtain ⟨hdv, -, -⟩ :=
      DistanceVectorService.detectLoop_effect round (round.order.neighbours_nodup _) hround
    exact ⟨s', probes, hround, hdv, haccounted.declared_iff⟩

/-- The first probe to `B` is on its way. -/
theorem firstRound_kept : AccountingKept ⟨.new "A" ["B"] 0, fun _ => {}⟩
    (.sendDistanceDetect (storedRound fun _ => 0)) := by
  have hcounted : (ProbeHistory.counted {}) ≤ 3 := by decide
  have hunanswered : (ProbeHistory.unanswered {}) ≤ 3 := by decide
  have hbuilt : ([] : List Bool).length < 2 ^ 32 := by decide
  exact ⟨fun _ _ _ _ => ⟨fun _ => .inr hcounted, fun _ => hunanswered⟩, fun _ _ => hbuilt⟩

/-- After the first round, as seen from the theorem's own hypotheses. -/
theorem probeAccounting_firstRound : ∃ r : ProbedService,
    (probeRuns "A" ["B"]).step ⟨.new "A" ["B"] 0, fun _ => {}⟩
      (.sendDistanceDetect (storedRound fun _ => 0)) = some r ∧
    (r.history "B").unanswered = 1 ∧
    ∀ v info, r.service.m_neighbourDistanceDetectSeqInfo.lookup v = some info →
      info.receivedSeq ≤ info.sendSeq := by
  have hstep : ((probeRuns "A" ["B"]).step ⟨.new "A" ["B"] 0, fun _ => {}⟩
      (.sendDistanceDetect (storedRound fun _ => 0))).map (fun r => (r.history "B").unanswered) =
      some 1 := by
    decide
  obtain ⟨r, hr, hone⟩ := Option.map_eq_some_iff.mp hstep
  exact ⟨r, hr, hone,
    (probeAccounting "A" ["B"] r (.step (.init ⟨0, rfl⟩) firstRound_kept hr)).1⟩

/-- **The counters are off.**  The answer to the very first probe is ignored; once probe `1` is answered, `B` is
declared unreachable with three probes unanswered; and a made-up number is taken over. -/
theorem accounting_off :
    (∃ r, (probeRuns "A" ["B"]).Reachable r ∧ (r.history "B").News 0 ∧
      (r.service.handleDistanceDetectReply .stored "B" ⟨0, 0⟩).1 = 0 ∧
      (r.service.handleDistanceDetectReply .stored "B" ⟨0, 0⟩).2.m_distanceVector.route "B" =
        some ⟨"", 750⟩) ∧
    (∃ r, (probeRuns "A" ["B"]).Reachable r ∧ (r.history "B").unanswered = 3 ∧
      r.declaredIn (storedRound fun _ => 0) = ["B"]) ∧
    ∃ r, (probeRuns "A" ["B"]).Reachable r ∧
      r.service.m_neighbourDistanceDetectSeqInfo.lookup "B" = some ⟨1, 100⟩ := by
  have hfirst : ((probeRuns "A" ["B"]).run ⟨.new "A" ["B"] 0, fun _ => {}⟩
      [.sendDistanceDetect (storedRound fun _ => 0)]).map (fun r => (decide ((r.history "B").News 0),
        (r.service.handleDistanceDetectReply .stored "B" ⟨0, 0⟩).1,
        (r.service.handleDistanceDetectReply .stored "B" ⟨0, 0⟩).2.m_distanceVector.route "B")) =
      some (true, 0, some ⟨"", 750⟩) := by
    decide
  have hthree : ((probeRuns "A" ["B"]).run ⟨.new "A" ["B"] 0, fun _ => {}⟩
      (List.replicate 2 (.sendDistanceDetect (storedRound fun _ => 0)) ++
        .handleDistanceDetectReply .stored "B" ⟨1, 0⟩ ::
        List.replicate 3 (.sendDistanceDetect (storedRound fun _ => 0)))).map
      (fun r => ((r.history "B").unanswered, r.declaredIn (storedRound fun _ => 0))) =
      some (3, ["B"]) := by
    decide
  have hmadeUp : ((probeRuns "A" ["B"]).run ⟨.new "A" ["B"] 0, fun _ => {}⟩
      [.sendDistanceDetect (storedRound fun _ => 0),
        .handleDistanceDetectReply .stored "B" ⟨100, 0⟩]).map
      (fun r => r.service.m_neighbourDistanceDetectSeqInfo.lookup "B") = some (some ⟨1, 100⟩) := by
    decide
  obtain ⟨r₁, hr₁, h₁⟩ := Option.map_eq_some_iff.mp hfirst
  obtain ⟨r₂, hr₂, h₂⟩ := Option.map_eq_some_iff.mp hthree
  obtain ⟨r₃, hr₃, h₃⟩ := Option.map_eq_some_iff.mp hmadeUp
  simp only [Prod.mk.injEq, decide_eq_true_eq] at h₁ h₂
  exact ⟨⟨r₁, .of_run (.init ⟨0, rfl⟩) hr₁, h₁⟩, ⟨r₂, .of_run (.init ⟨0, rfl⟩) hr₂, h₂⟩,
    ⟨r₃, .of_run (.init ⟨0, rfl⟩) hr₃, h₃⟩⟩

end ProbedService

end DistributedNetwork.Routing
