import Mathlib.Order.Bounds.Defs
import DistributedNetwork.Library.TransitionSystem
import DistributedNetwork.Routing.Table

/-!
# The Bellman–Ford equation, and the table slot that breaks it

A `Measured` node carries, beside its table, the history variable `cost`: the distance last measured
over each own link.  `BellmanFord` is the textbook equation for that cost and the cached vectors.

The code has no such variable.  It keeps the cost of a link in the table slot of the neighbour, and
the recomputation overwrites that slot with the best distance to the neighbour, by whatever way.

* `bellmanFord_of_directLinksBest` — as long as **no neighbour is cheaper to reach through another
  one** (`DirectLinksBest`, of the costs and vectors received so far), every slot still holds its
  link cost (`SlotsHold`) and the equation holds after every call;
* `slotsHold_recompute_iff` — the condition is exact: a recomputation that starts from intact slots
  leaves them intact precisely under it;
* `bellmanFord_fails` — a run in which `E` becomes cheaper over `B`, and keeps that distance as its
  own link cost after `B` is gone.
-/

namespace DistributedNetwork.Routing

open DistributedNetwork.Library

/-- The two calls that change a node. -/
inductive Call where
  | updateNeighbourDistance (peerNodeId : NodeId) (distance : ℕ)
  | updateDvInfos (peerNodeId : NodeId) (peerDvInfos : List (NodeId × ℕ))

/-- A node and the distance last measured over each of its links (unreachable if none was). -/
structure Measured where
  dv : DistanceVector
  cost : NodeId → ℕ

namespace Measured

/-- The two guards of a call; measurements are for neighbours of the constructor. -/
def Accepts (nodeIds : List NodeId) (s : Measured) : Call → Prop
  | .updateNeighbourDistance p _ =>
    p ∈ nodeIds ∧ p ≠ s.dv.m_selfNodeId ∧ p ≠ c_invalidNodeId
  | .updateDvInfos p _ =>
    p ∈ s.dv.neighbours ∧ p ≠ s.dv.m_selfNodeId ∧ p ≠ c_invalidNodeId

instance (nodeIds : List NodeId) (s : Measured) : DecidablePred (s.Accepts nodeIds)
  | .updateNeighbourDistance _ _ => inferInstanceAs (Decidable (_ ∧ _ ∧ _))
  | .updateDvInfos _ _ => inferInstanceAs (Decidable (_ ∧ _ ∧ _))

/-- The node once the arguments of a call are taken in, before any route is recomputed. -/
def receive (s : Measured) : Call → Measured
  | .updateNeighbourDistance p d => ⟨s.dv.setDirect p d, Function.update s.cost p d⟩
  | .updateDvInfos p infos => ⟨s.dv.setCache p (DistanceVector.cacheOf s.dv.m_selfNodeId infos), s.cost⟩

/-- The node after a call. -/
def call (order : IterationOrder) (s : Measured) : Call → Measured
  | .updateNeighbourDistance p d =>
    ⟨(s.dv.updateNeighbourDistance order p d).2, Function.update s.cost p d⟩
  | .updateDvInfos p infos => ⟨(s.dv.updateDvInfos order p infos).2, s.cost⟩

/-- What a neighbour offers for a target over the measured link. -/
def linkOffer (s : Measured) (target neighbour : NodeId) : Option ℕ :=
  if c_unreachableDistance ≤ s.cost neighbour then none
  else if neighbour = target then some (s.cost neighbour)
  else (s.dv.cached neighbour target).map (s.cost neighbour + ·)

/-- **The Bellman–Ford equation.**  Every distance is the capped minimum over the measured links,
every next hop the smallest neighbour attaining it, and an unreachable neighbour is never one. -/
def BellmanFord (s : Measured) : Prop :=
  ∀ t info, s.dv.route t = some info →
    info.distance =
        (s.dv.neighbours.filterMap (s.linkOffer t)).foldr min c_unreachableDistance ∧
      (info.distance = c_unreachableDistance → info.nextHop = c_invalidNodeId) ∧
      (info.distance ≠ c_unreachableDistance →
        IsLeast {v | v ∈ s.dv.neighbours ∧ s.linkOffer t v = some info.distance} info.nextHop) ∧
      ∀ v, v ≠ c_invalidNodeId → c_unreachableDistance ≤ s.cost v → info.nextHop ≠ v

/-- No neighbour is cheaper to reach through another neighbour than over its own link, and none that
is unreachable over its own link is reachable through another one. -/
def DirectLinksBest (s : Measured) : Prop :=
  ∀ u ∈ s.dv.neighbours, ∀ v ∈ s.dv.neighbours, u ≠ v → s.cost u < c_unreachableDistance →
    ∀ d ∈ s.dv.cached u v, min c_unreachableDistance (s.cost v) ≤ s.cost u + d

instance (s : Measured) : Decidable s.DirectLinksBest :=
  inferInstanceAs (Decidable (∀ u ∈ s.dv.neighbours, ∀ v ∈ s.dv.neighbours, u ≠ v →
    s.cost u < c_unreachableDistance →
      ∀ d ∈ s.dv.cached u v, min c_unreachableDistance (s.cost v) ≤ s.cost u + d))

/-- Every neighbour's table slot holds the cost of its own link, up to the cap. -/
def SlotsHold (s : Measured) : Prop :=
  ∀ v ∈ s.dv.neighbours, ∃ info, s.dv.route v = some info ∧
    min c_unreachableDistance info.distance = min c_unreachableDistance (s.cost v)

/-! ### Intact slots make the inner loop compute the equation -/

variable {s : Measured} {dv : DistanceVector} {cost : NodeId → ℕ} {vs nodeIds : List NodeId}
variable {t v : NodeId}

/-- Below the cap the code's offer is the offer over the measured link. -/
theorem offer_iff_linkOffer (h : s.SlotsHold) (hv : v ∈ s.dv.neighbours) {c : ℕ}
    (hc : c < c_unreachableDistance) : s.dv.offer t v = some c ↔ s.linkOffer t v = some c := by
  obtain ⟨info, hroute, hslot⟩ := h v hv
  simp only [DistanceVector.offer, linkOffer, hroute]
  by_cases hun : c_unreachableDistance ≤ s.cost v
  · have hinfo : c_unreachableDistance ≤ info.distance := by omega
    rw [if_pos hinfo, if_pos hun]
  · have hinfo : info.distance = s.cost v := by omega
    rw [hinfo, if_neg hun, if_neg hun]
    by_cases hvt : v = t
    · rw [if_pos hvt, if_pos hvt]
    · rw [if_neg hvt, if_neg hvt]
      cases s.dv.cached v t with
      | none => exact Iff.rfl
      | some d =>
        simp only [Option.map_some, Option.some.injEq]
        rw [DistanceVector.addDistance_eq_min (not_le.mp hun)]
        omega

theorem bestRoute_isBest_linkOffer (h : s.SlotsHold) (hvs : ∀ v, v ∈ vs ↔ v ∈ s.dv.neighbours) :
    IsBest c_unreachableDistance c_invalidNodeId (s.linkOffer t) s.dv.neighbours
      (s.dv.bestRoute vs t).distance (s.dv.bestRoute vs t).nextHop :=
  ((s.dv.bestRoute_isBest vs t).congr_ids hvs).congr_offer fun _ hv _ hc =>
    offer_iff_linkOffer h hv hc

/-- A best route over the measured links meets the equation at its target. -/
theorem bellmanFord_of_isBest {info : NodeInfo}
    (h : IsBest c_unreachableDistance c_invalidNodeId (s.linkOffer t) s.dv.neighbours
      info.distance info.nextHop) :
    info.distance =
        (s.dv.neighbours.filterMap (s.linkOffer t)).foldr min c_unreachableDistance ∧
      (info.distance = c_unreachableDistance → info.nextHop = c_invalidNodeId) ∧
      (info.distance ≠ c_unreachableDistance →
        IsLeast {v | v ∈ s.dv.neighbours ∧ s.linkOffer t v = some info.distance} info.nextHop) ∧
      ∀ v, v ≠ c_invalidNodeId → c_unreachableDistance ≤ s.cost v → info.nextHop ≠ v := by
  refine ⟨h.cost_eq_foldr_min, h.absent_of_top, fun hne => ?_, fun v hv hun hhop => ?_⟩
  · have hlt := lt_of_le_of_ne h.le_top hne
    exact ⟨⟨h.mem hlt, h.attained hlt⟩, fun u hu => h.least hlt u hu.1 hu.2⟩
  · rcases h.le_top.lt_or_eq with hlt | heq
    · have hatt := h.attained hlt
      rw [hhop, linkOffer, if_pos hun] at hatt
      cases hatt
    · exact hv (hhop.symm.trans (h.absent_of_top heq))

/-! ### The condition keeps the slots intact -/

/-- Under the condition the equation at a neighbour gives back its link cost. -/
theorem linkCost_of_isBest (hdir : s.DirectLinksBest) (ht : t ∈ s.dv.neighbours)
    {d : ℕ} {hop : NodeId}
    (h : IsBest c_unreachableDistance c_invalidNodeId (s.linkOffer t) s.dv.neighbours d hop) :
    d = min c_unreachableDistance (s.cost t) := by
  apply le_antisymm
  · by_cases hun : c_unreachableDistance ≤ s.cost t
    · rw [min_eq_left hun]
      exact h.le_top
    · have hoffer : s.linkOffer t t = some (s.cost t) := by
        rw [linkOffer, if_neg hun, if_pos rfl]
      exact le_min h.le_top (h.le_offer t ht _ hoffer)
  · rcases h.le_top.lt_or_eq with hlt | heq
    · have hatt := h.attained hlt
      unfold linkOffer at hatt
      by_cases hun : c_unreachableDistance ≤ s.cost hop
      · rw [if_pos hun] at hatt
        cases hatt
      · rw [if_neg hun] at hatt
        by_cases hht : hop = t
        · rw [if_pos hht] at hatt
          cases hatt
          exact hht ▸ min_le_right _ _
        · rw [if_neg hht, Option.map_eq_some_iff] at hatt
          obtain ⟨x, hx, rfl⟩ := hatt
          exact hdir hop (h.mem hlt) t ht hht (not_le.mp hun) x hx
    · exact heq ▸ min_le_left _ _

theorem slotsHold_setRoute (h : s.SlotsHold) (hdir : s.DirectLinksBest)
    (hvs : ∀ v, v ∈ vs ↔ v ∈ s.dv.neighbours) (t : NodeId) :
    SlotsHold ⟨s.dv.setRoute t (s.dv.bestRoute vs t), s.cost⟩ := by
  intro v hv
  by_cases hvt : v = t
  · subst hvt
    refine ⟨_, DistanceVector.setRoute_route_same _ _ _, ?_⟩
    have hbest := linkCost_of_isBest hdir hv (bestRoute_isBest_linkOffer h hvs)
    show min c_unreachableDistance (s.dv.bestRoute vs v).distance = _
    rw [hbest, ← min_assoc, min_self]
  · obtain ⟨info, hroute, hslot⟩ := h v hv
    exact ⟨info, (DistanceVector.setRoute_route_ne _ _ hvt).trans hroute, hslot⟩

/-- Both hypotheses of the loop only look at costs, caches and slots. -/
theorem DirectLinksBest.congr (hdir : s.DirectLinksBest)
    (hcache : dv.m_neighboursDVInfo = s.dv.m_neighboursDVInfo) :
    DirectLinksBest ⟨dv, s.cost⟩ := by
  unfold DirectLinksBest DistanceVector.cached DistanceVector.neighbours at hdir ⊢
  rw [hcache]
  exact hdir

/-- The recomputation, seen on a measured node: the costs are history and stay. -/
def recompute (order : IterationOrder) (s : Measured) : Measured :=
  ⟨(s.dv.recomputeRoutesWithoutLock order).2, s.cost⟩

theorem recompute_neighbours (order : IterationOrder) :
    (s.recompute order).dv.neighbours = s.dv.neighbours :=
  congrArg AList.keys (DistanceVector.recompute_neighboursDVInfo order)

theorem recompute_linkOffer (order : IterationOrder) :
    (s.recompute order).linkOffer t v = s.linkOffer t v := by
  unfold linkOffer DistanceVector.cached recompute
  rw [DistanceVector.recompute_neighboursDVInfo]

/-- **Loop lemma.**  A recomputation that starts from intact slots under the condition leaves them
intact. -/
theorem slotsHold_recompute (order : IterationOrder) (h : s.SlotsHold) (hdir : s.DirectLinksBest) :
    (s.recompute order).SlotsHold := by
  have hvs := order.mem_neighbours s.dv
  refine (DistanceVector.recomputeTargets_induction (order.neighbours s.dv)
    (P := fun dv => SlotsHold ⟨dv, s.cost⟩ ∧ dv.m_neighboursDVInfo = s.dv.m_neighboursDVInfo)
    ?_ false ⟨h, rfl⟩).1
  rintro dv t ⟨hdv, hcache⟩
  refine ⟨slotsHold_setRoute hdv (hdir.congr hcache) ?_ t, hcache⟩
  intro v
  rw [hvs v, DistanceVector.mem_neighbours_iff, DistanceVector.mem_neighbours_iff, hcache]

/-- When the slots are intact before and after, they are while any target is visited, so every entry
is a best route over the measured links. -/
theorem isBest_linkOffer_of_recompute (order : IterationOrder) (h : s.SlotsHold)
    (h' : (s.recompute order).SlotsHold) {info : NodeInfo}
    (hroute : (s.recompute order).dv.route t = some info) :
    IsBest c_unreachableDistance c_invalidNodeId (s.linkOffer t) s.dv.neighbours
      info.distance info.nextHop := by
  obtain ⟨mid, hcache, _, hother, rfl⟩ := DistanceVector.recompute_route order hroute
  have hn : mid.neighbours = s.dv.neighbours := congrArg AList.keys hcache
  have hmid : SlotsHold ⟨mid, s.cost⟩ := by
    intro v hv
    have hv' : v ∈ s.dv.neighbours := hn ▸ hv
    rcases hother v with hx | hx
    · obtain ⟨i, hi, hslot⟩ := h v hv'
      exact ⟨i, hx.trans hi, hslot⟩
    · obtain ⟨i, hi, hslot⟩ := h' v (by rw [recompute_neighbours]; exact hv')
      exact ⟨i, hx.trans hi, hslot⟩
  have hvs : ∀ v, v ∈ order.neighbours s.dv ↔ v ∈ mid.neighbours := fun v => by
    rw [hn]
    exact order.mem_neighbours s.dv v
  have hbest := bestRoute_isBest_linkOffer (t := t) hmid hvs
  have hoffer : linkOffer ⟨mid, s.cost⟩ t = s.linkOffer t := by
    funext v
    unfold linkOffer DistanceVector.cached
    rw [hcache]
  rw [hoffer] at hbest
  exact hn ▸ hbest

/-- **The condition is exact.**  From intact slots the recomputation leaves them intact if and only
if no neighbour is cheaper to reach through another one. -/
theorem slotsHold_recompute_iff (order : IterationOrder) (h : s.SlotsHold) :
    (s.recompute order).SlotsHold ↔ s.DirectLinksBest := by
  refine ⟨fun h' u hu v hv hne hcost d hd => ?_, slotsHold_recompute order h⟩
  obtain ⟨info, hroute, hslot⟩ := h' v (by rw [recompute_neighbours]; exact hv)
  have hbest := isBest_linkOffer_of_recompute order h h' hroute
  have hoffer : s.linkOffer v u = some (s.cost u + d) := by
    rw [linkOffer, if_neg (not_le.mpr hcost), if_neg hne, hd, Option.map_some]
  have hle := hbest.le_offer u hu _ hoffer
  have htop := hbest.le_top
  have hcost' : (s.recompute order).cost v = s.cost v := rfl
  omega

/-! ### Calls -/

variable {selfNodeId : NodeId} {c : Call}

/-- The state an accepted call recomputes has the costs, caches and slots of `receive`. -/
theorem call_eq_recompute (order : IterationOrder) (h : s.dv.WellFormed selfNodeId nodeIds)
    (hacc : s.Accepts nodeIds c) :
    ∃ m : Measured, m.cost = (s.receive c).cost ∧
      m.dv.m_neighboursDVInfo = (s.receive c).dv.m_neighboursDVInfo ∧
      (∀ x, m.dv.route x = (s.receive c).dv.route x) ∧
      m.dv.WellFormed selfNodeId nodeIds ∧ s.call order c = m.recompute order := by
  cases c with
  | updateNeighbourDistance p d =>
    obtain ⟨hp, hself, hne⟩ := hacc
    obtain ⟨direct, hlink, hdirect, heq⟩ :=
      h.updateNeighbourDistance_eq order d hp (h.self_eq ▸ hself) hne
    exact ⟨⟨direct, Function.update s.cost p d⟩, rfl, hlink.caches, hlink.route, hdirect,
      congrArg (Measured.mk · _) heq⟩
  | updateDvInfos p infos =>
    obtain ⟨hp, hself, hne⟩ := hacc
    have hp' : p ∈ nodeIds := (h.mem_neighbours p).mp hp
    have heq := h.updateDvInfos_eq order infos hp' (h.self_eq ▸ hself) hne
    refine ⟨s.receive (.updateDvInfos p infos), rfl, rfl, fun _ => rfl, h.setCache hp', ?_⟩
    rw [← h.self_eq] at heq
    exact congrArg (fun r => Measured.mk r.2 s.cost) heq

theorem slotsHold_receive (h : s.SlotsHold) (hacc : s.Accepts nodeIds c) :
    (s.receive c).SlotsHold := by
  cases c with
  | updateNeighbourDistance p d =>
    intro v hv
    by_cases hvp : v = p
    · subst hvp
      refine ⟨_, DistanceVector.setDirect_route_same _ _ _, ?_⟩
      show min _ d = min _ (Function.update s.cost v d v)
      rw [Function.update_self]
    · have hv' : v ∈ s.dv.neighbours := by
        have hmem : v ∈ (s.dv.setDirect p d).neighbours := hv
        rw [DistanceVector.setDirect_eq] at hmem
        by_cases hd : c_unreachableDistance ≤ d
        · rw [if_pos hd] at hmem
          exact ((s.dv.mem_setCache_neighbours v p ∅).mp hmem).resolve_left hvp
        · rwa [if_neg hd] at hmem
      obtain ⟨info, hroute, hslot⟩ := h v hv'
      refine ⟨info, (DistanceVector.setDirect_route_ne _ _ hvp).trans hroute, ?_⟩
      show _ = min _ (Function.update s.cost p d v)
      rw [Function.update_of_ne hvp, hslot]
  | updateDvInfos p infos =>
    intro v hv
    rcases (s.dv.mem_setCache_neighbours v p _).mp hv with rfl | hv'
    · exact h v hacc.1
    · exact h v hv'

/-- **Step lemma.**  From intact slots a call under the condition keeps the slots and establishes
the equation. -/
theorem call_bellmanFord (order : IterationOrder) (h : s.dv.WellFormed selfNodeId nodeIds)
    (hslots : s.SlotsHold) (hacc : s.Accepts nodeIds c) (hdir : (s.receive c).DirectLinksBest) :
    (s.call order c).dv.WellFormed selfNodeId nodeIds ∧ (s.call order c).SlotsHold ∧
      (s.call order c).BellmanFord := by
  obtain ⟨m, hcost, hcache, hroute, hm, heq⟩ := call_eq_recompute order h hacc
  have hn : m.dv.neighbours = (s.receive c).dv.neighbours := congrArg AList.keys hcache
  have hmslots : m.SlotsHold := by
    intro v hv
    obtain ⟨info, hinfo, hslot⟩ := slotsHold_receive hslots hacc v (hn ▸ hv)
    exact ⟨info, (hroute v).trans hinfo, by rw [hcost]; exact hslot⟩
  have hmdir : m.DirectLinksBest := by
    have := hdir.congr hcache
    rwa [← hcost] at this
  have hafter := slotsHold_recompute order hmslots hmdir
  rw [heq]
  refine ⟨hm.recompute order, hafter, fun t info hinfo => ?_⟩
  have hbest := isBest_linkOffer_of_recompute order hmslots hafter hinfo
  apply bellmanFord_of_isBest
  rw [recompute_neighbours]
  exact hbest.congr_offer fun v _ _ _ => by rw [recompute_linkOffer]

end Measured

/-! ### Runs -/

/-- A node built as `new selfNodeId nodeIds`, driven by accepted calls; every call traverses the hash
containers in an order of its own. -/
def measuredNode (selfNodeId : NodeId) (nodeIds : List NodeId) :
    TransitionSystem Measured (Call × IterationOrder) where
  init s := s = ⟨.new selfNodeId nodeIds, fun _ => c_unreachableDistance⟩
  step s a := if s.Accepts nodeIds a.1 then some (s.call a.2 a.1) else none

theorem measuredNode_step {selfNodeId : NodeId} {nodeIds : List NodeId} {s s' : Measured}
    {a : Call × IterationOrder} :
    (measuredNode selfNodeId nodeIds).step s a = some s' ↔
      s.Accepts nodeIds a.1 ∧ s.call a.2 a.1 = s' := by
  show (if s.Accepts nodeIds a.1 then some (s.call a.2 a.1) else none) = some s' ↔ _
  rw [Option.ite_none_right_eq_some, Option.some.injEq]

/-- The run condition: what a call brings in leaves no neighbour cheaper over another one. -/
def KeepsDirectLinksBest (s : Measured) (a : Call × IterationOrder) : Prop :=
  (s.receive a.1).DirectLinksBest

/-- The slots of a fresh node hold: nothing was measured and every neighbour is unreachable. -/
theorem new_slotsHold {selfNodeId : NodeId} {nodeIds : List NodeId}
    (hids : c_invalidNodeId ∉ nodeIds) :
    Measured.SlotsHold ⟨.new selfNodeId nodeIds, fun _ => c_unreachableDistance⟩ := by
  intro v hv
  have hmem : v ∈ nodeIds := (DistanceVector.mem_neighbours_new selfNodeId v nodeIds).mp hv
  refine ⟨{}, ?_, rfl⟩
  show (DistanceVector.new selfNodeId nodeIds).route v = _
  have hne : v ≠ c_invalidNodeId := fun h => hids (h ▸ hmem)
  rw [DistanceVector.new_route, if_neg hne, if_pos hmem]

/-- **Bellman–Ford under the condition.**  In every run whose calls leave no neighbour cheaper to
reach through another one, the equation holds after every call. -/
theorem bellmanFord_of_directLinksBest (selfNodeId : NodeId) (nodeIds : List NodeId)
    (hids : c_invalidNodeId ∉ nodeIds) (s s' : Measured) (a : Call × IterationOrder)
    (hrun : (measuredNode selfNodeId nodeIds).Reaches KeepsDirectLinksBest s)
    (hcond : KeepsDirectLinksBest s a)
    (hstep : (measuredNode selfNodeId nodeIds).step s a = some s') : s'.BellmanFord := by
  have hinv : s.dv.WellFormed selfNodeId nodeIds ∧ s.SlotsHold := by
    refine hrun.invariant
      (I := fun s => s.dv.WellFormed selfNodeId nodeIds ∧ s.SlotsHold) ?_ ?_
    · rintro s rfl
      exact ⟨DistanceVector.new_wellFormed, new_slotsHold hids⟩
    · rintro s a s' ⟨hwf, hslots⟩ hg hs
      obtain ⟨hacc, rfl⟩ := measuredNode_step.mp hs
      obtain ⟨hwf', hslots', _⟩ := Measured.call_bellmanFord a.2 hwf hslots hacc hg
      exact ⟨hwf', hslots'⟩
  obtain ⟨hacc, rfl⟩ := measuredNode_step.mp hstep
  exact (Measured.call_bellmanFord a.2 hinv.1 hinv.2 hacc hcond).2.2

/-! ### The slot is lost once an indirect way is cheaper -/

section Loss

/-- `A` measures `E` at `10` and `B` at `1`, and hears from `B` that `E` is `2` away. -/
def beforeLoss : Measured :=
  [Call.updateNeighbourDistance "E" 10, .updateNeighbourDistance "B" 1,
    .updateDvInfos "B" [("E", 2)]].foldl (Measured.call .stored)
    ⟨.new "A" ["B", "E"], fun _ => c_unreachableDistance⟩

/-- Then `B` is lost: `E` stays recorded at distance `3` over its own link of cost `10`. -/
def afterLoss : Measured :=
  beforeLoss.call .stored (.updateNeighbourDistance "B" 750)

theorem beforeLoss_reachable : (measuredNode "A" ["B", "E"]).Reachable beforeLoss := by
  refine .step (a := (.updateDvInfos "B" [("E", 2)], .stored)) ?_ trivial
    (measuredNode_step.mpr ⟨by decide, rfl⟩)
  refine .step (a := (.updateNeighbourDistance "B" 1, .stored)) ?_ trivial
    (measuredNode_step.mpr ⟨by decide, rfl⟩)
  exact .step (a := (.updateNeighbourDistance "E" 10, .stored)) (.init rfl) trivial
    (measuredNode_step.mpr ⟨by decide, rfl⟩)

/-- **The equation fails** at the end of a run of four accepted calls. -/
theorem bellmanFord_fails :
    (measuredNode "A" ["B", "E"]).Reachable beforeLoss ∧
      (measuredNode "A" ["B", "E"]).step beforeLoss (.updateNeighbourDistance "B" 750, .stored) =
        some afterLoss ∧ ¬ afterLoss.BellmanFord := by
  refine ⟨beforeLoss_reachable, measuredNode_step.mpr ⟨by decide, rfl⟩, fun h => ?_⟩
  have hroute : afterLoss.dv.route "E" = some ⟨"E", 3⟩ := by decide
  have hequation := (h "E" _ hroute).1
  revert hequation
  decide

/-- A run under the condition: `A` measures `B` and hears from it about a third node. -/
theorem bellmanFord_of_directLinksBest_measured :
    Measured.BellmanFord (Measured.call .stored (Measured.call .stored
      ⟨.new "A" ["B", "E"], fun _ => c_unreachableDistance⟩ (.updateNeighbourDistance "B" 1))
      (.updateDvInfos "B" [("D", 2)])) :=
  bellmanFord_of_directLinksBest "A" ["B", "E"] (by decide) _ _
    (.updateDvInfos "B" [("D", 2)], .stored)
    (.step (a := (.updateNeighbourDistance "B" 1, .stored)) (.init rfl)
      (by unfold KeepsDirectLinksBest; decide) (measuredNode_step.mpr ⟨by decide, rfl⟩))
    (by unfold KeepsDirectLinksBest; decide) (measuredNode_step.mpr ⟨by decide, rfl⟩)

end Loss

end DistributedNetwork.Routing
