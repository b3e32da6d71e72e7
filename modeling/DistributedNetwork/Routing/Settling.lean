import DistributedNetwork.Library.Geodesic
import DistributedNetwork.Routing.Links

/-!
# Tables settle at the shortest distances

While no link is lost the tables of a network settle from the near targets outwards.  `Via` says that a
target is best reached over a neighbour, with at most `k` links behind it; a link is `LinkSettled` to
depth `k` when the table and the cache of its node are right for all such targets, and so is every
vector on the way over it.

* `SlotMeasured.recompute`, `NodeSettled.recompute` — what one recomputation makes of a measured link and of a
  right cache;
* `rightVector_of_settled` — a node that is settled to depth `k` advertises what is right to depth
  `k + 1`; poisoned reverse takes nothing away from it;
* `linkSettled_step` — no step but a loss disturbs what is settled;
* `linkSettled_round` — in a round every neighbour's vector arrives that was sent in it, and the depth
  grows by one;
* `converges` — after a measurement of all links and two rounds fewer than there are nodes every table
  holds exactly the shortest distances below the cap, and keeps them.
-/

namespace DistributedNetwork.Routing

open DistributedNetwork.Library

/-- Links work in both directions and cost something; the two costs of a link may differ. -/
structure Topology.Linked (topo : Topology) : Prop where
  mem_nodes : ∀ u ∈ topo.nodes, ∀ v ∈ topo.neighbours u, v ∈ topo.nodes
  neighbours : ∀ u ∈ topo.nodes, ∀ v ∈ topo.neighbours u, u ∈ topo.neighbours v
  linkCost_pos : ∀ u ∈ topo.nodes, ∀ v ∈ topo.neighbours u, 0 < topo.linkCost u v

/-- From `u` nothing is cheaper than the link to `v` and then at most `k` links to `x`, for `d`. -/
structure Topology.Via (topo : Topology) (k : ℕ) (u v x : NodeId) (d : ℕ) : Prop where
  adj : topo.graph.adj u v
  geodesic : topo.graph.Geodesic k v x d
  ne : x ≠ u
  lt : topo.linkCost u v + d < c_unreachableDistance
  le : ∀ c, topo.graph.Walk u x c → topo.linkCost u v + d ≤ c

/-- The slot of a neighbour holds no more than the cost of the link. -/
def SlotMeasured (topo : Topology) (u v : NodeId) (dv : DistanceVector) : Prop :=
  ∃ info, dv.route v = some info ∧ info.distance ≤ topo.linkCost u v

/-- The cache is right for the targets that are best reached over `v`. -/
def RightCache (topo : Topology) (k : ℕ) (u v : NodeId) (dv : DistanceVector) : Prop :=
  ∀ x d, topo.Via k u v x d → x ≠ v → dv.cached v x = some d

/-- So is the table. -/
structure NodeSettled (topo : Topology) (k : ℕ) (u v : NodeId) (dv : DistanceVector) : Prop where
  cached : RightCache topo k u v dv
  route : ∀ x d, topo.Via k u v x d →
    ∃ info, dv.route x = some info ∧ info.distance = topo.linkCost u v + d

/-- A vector from `v` to `u` that is right for these targets. -/
def RightVector (topo : Topology) (k : ℕ) (u v : NodeId) (dvInfos : List (NodeId × ℕ)) : Prop :=
  ∀ x d, topo.Via k u v x d → x ≠ v → (x, d) ∈ dvInfos

/-! ### One node -/

section Node

variable {topo : Topology} {u v p x : NodeId} {j k d : ℕ} {dv base : DistanceVector}
variable {dvInfos : List (NodeId × ℕ)} (order : IterationOrder)

theorem Topology.Via.mono (h : topo.Via j u v x d) (hle : j ≤ k) : topo.Via k u v x d :=
  ⟨h.adj, h.geodesic.mono hle, h.ne, h.lt, h.le⟩

theorem RightVector.mono (h : RightVector topo k u v dvInfos) (hle : j ≤ k) :
    RightVector topo j u v dvInfos := fun x d hvia hx => h x d (hvia.mono hle) hx

/-- **A measured link stays measured**: the neighbour's own offer is the slot it had. -/
theorem SlotMeasured.recompute (h : SlotMeasured topo u v base) (hadj : topo.graph.adj u v)
    (hv : v ∈ base.neighbours) : SlotMeasured topo u v (base.recomputeRoutesWithoutLock order).2 := by
  obtain ⟨slot, hslot, hle⟩ := h
  have hcost := topo.linkCost_lt u hadj.1 v hadj.2.1
  have htarget : v ∈ base.targetNodes := DistanceVector.mem_targetNodes.mpr (.inr (.inl hv))
  obtain ⟨info, hinfo⟩ := Option.isSome_iff_exists.mp
    (DistanceVector.recompute_route_isSome order htarget)
  obtain ⟨mid, _, hsame, _, rfl⟩ := DistanceVector.recompute_route order hinfo
  have hoffer : mid.offer v v = some slot.distance := DistanceVector.offer_eq_some_iff.mpr
    ⟨slot, hsame.trans hslot, by omega, .inl ⟨rfl, rfl⟩⟩
  have hbest := (mid.bestRoute_isBest (order.neighbours base) v).le_offer v
    ((order.mem_neighbours base v).mpr hv) _ hoffer
  exact ⟨_, hinfo, by omega⟩

/-- **A right cache makes a right table**: the neighbour offers the shortest distance, and nobody can
offer less. -/
theorem NodeSettled.recompute (hcached : RightCache topo k u v base) (hm : SlotMeasured topo u v base)
    (hadj : topo.graph.adj u v) (hv : v ∈ base.neighbours)
    (hresult : RoutesAreWalks topo u (base.recomputeRoutesWithoutLock order).2) :
    NodeSettled topo k u v (base.recomputeRoutesWithoutLock order).2 := by
  have hcaches (x : NodeId) :
      (base.recomputeRoutesWithoutLock order).2.cached v x = base.cached v x := by
    rw [DistanceVector.cached, DistanceVector.recompute_neighboursDVInfo]
    rfl
  refine ⟨fun x d hvia hx => (hcaches x).trans (hcached x d hvia hx), fun x d hvia => ?_⟩
  have hvalid : x ≠ c_invalidNodeId := by
    rcases hvia.geodesic.walk.target (P := fun x => x ≠ c_invalidNodeId)
      (fun a b hab heq => topo.neighbours_valid a hab.1 (heq ▸ hab.2.1)) with rfl | hx
    · exact fun heq => topo.neighbours_valid u hadj.1 (heq ▸ hadj.2.1)
    · exact hx
  have htarget : x ∈ base.targetNodes := by
    by_cases hx : x = v
    · exact DistanceVector.mem_targetNodes.mpr (.inr (.inl (hx ▸ hv)))
    · refine DistanceVector.mem_targetNodes.mpr (.inr (.inr ⟨v, ?_⟩))
      rw [hcached x d hvia hx]
      rfl
  obtain ⟨info, hinfo⟩ := Option.isSome_iff_exists.mp
    (DistanceVector.recompute_route_isSome order htarget)
  refine ⟨info, hinfo, ?_⟩
  obtain ⟨mid, hcache, hsame, hother, hbestRoute⟩ := DistanceVector.recompute_route order hinfo
  have hlt := hvia.lt
  -- whether it has been visited or not, the slot of `v` is measured
  have hslot : SlotMeasured topo u v mid := by
    rcases hother v with hbase | hafter
    · obtain ⟨slot, hslot, hle⟩ := hm
      exact ⟨slot, hbase.trans hslot, hle⟩
    · obtain ⟨slot, hslot, hle⟩ := hm.recompute order hadj hv
      exact ⟨slot, hafter.trans hslot, hle⟩
  obtain ⟨slot, hslot, hle⟩ := hslot
  have hoffer : ∃ c, mid.offer x v = some c ∧ c ≤ topo.linkCost u v + d := by
    by_cases hx : v = x
    · exact ⟨slot.distance, DistanceVector.offer_eq_some_iff.mpr
        ⟨slot, hslot, by omega, .inl ⟨hx, rfl⟩⟩, by omega⟩
    · have he : mid.cached v x = some d := by
        rw [DistanceVector.cached, hcache]
        exact hcached x d hvia (Ne.symm hx)
      exact ⟨_, DistanceVector.offer_eq_some_iff.mpr
        ⟨slot, hslot, by omega, .inr ⟨hx, d, he, rfl⟩⟩, by omega⟩
  obtain ⟨c, hoffer, hc⟩ := hoffer
  have hbest := (mid.bestRoute_isBest (order.neighbours base) x).le_offer v
    ((order.mem_neighbours base v).mpr hv) c hoffer
  have hupper : info.distance ≤ topo.linkCost u v + d := by
    rw [hbestRoute]
    omega
  have hlower := hvia.le _ (hresult.route x info hinfo hvalid (by omega))
  omega

/-- What a measurement of a link does to the other links, and to its own. -/
theorem measure_link (h : RoutesAreWalks topo u dv) (hu : u ∈ topo.nodes) (hp : p ∈ topo.neighbours u)
    (hadj : topo.graph.adj u v) (hm : p = v ∨ SlotMeasured topo u v dv) :
    SlotMeasured topo u v (dv.updateNeighbourDistance order p (topo.linkCost u p)).2 ∧
      (NodeSettled topo k u v dv →
        NodeSettled topo k u v (dv.updateNeighbourDistance order p (topo.linkCost u p)).2) := by
  have hvalid : ∀ w ∈ topo.neighbours u, w ≠ c_invalidNodeId := fun w hw heq =>
    topo.neighbours_valid u hu (heq ▸ hw)
  by_cases hself : p = u
  · have hsame : dv.updateNeighbourDistance order p (topo.linkCost u p) = (false, dv) := by
      rw [DistanceVector.updateNeighbourDistance, if_pos (.inl (hself.trans h.wellFormed.self_eq.symm))]
    rw [hsame]
    rcases hm with rfl | hm
    · exact absurd hself hadj.2.2
    · exact ⟨hm, id⟩
  obtain ⟨direct, hlink, hwf, heq⟩ := h.wellFormed.updateNeighbourDistance_eq order
    (topo.linkCost u p) hp hself (hvalid p hp)
  have hcost := topo.linkCost_lt u hu p hp
  have hv : v ∈ direct.neighbours := (hwf.mem_neighbours v).mpr hadj.2.1
  have hdirect : SlotMeasured topo u v direct := by
    by_cases hvp : v = p
    · subst hvp
      exact ⟨_, (hlink.route v).trans (DistanceVector.setDirect_route_same _ _ _), le_rfl⟩
    · obtain ⟨slot, hslot, hle⟩ := hm.resolve_left (Ne.symm hvp)
      exact ⟨slot, (hlink.route v).trans ((DistanceVector.setDirect_route_ne _ _ hvp).trans hslot), hle⟩
  have hresult := h.updateNeighbourDistance order hu hp (.inl rfl)
  rw [heq] at hresult ⊢
  refine ⟨hdirect.recompute order hadj hv, fun hsettled => ?_⟩
  refine .recompute order (fun x d hvia hx => ?_) hdirect hadj hv hresult
  -- a measurement below the cap leaves the caches as they are
  rw [DistanceVector.cached, hlink.caches]
  simp only [DistanceVector.setDirect, if_neg (not_le.mpr hcost)]
  exact hsettled.cached x d hvia hx

/-- What a vector of `p` does to the link to `v`. -/
theorem receive_link (h : RoutesAreWalks topo u dv) (hu : u ∈ topo.nodes)
    (hadvertises : AdvertisesWalks topo ⟨p, u, dvInfos⟩) (hdistinct : DistinctTargets ⟨p, u, dvInfos⟩)
    (hadj : topo.graph.adj u v) (hm : SlotMeasured topo u v dv) :
    SlotMeasured topo u v (dv.updateDvInfos order p dvInfos).2 ∧
      ((p ≠ v → NodeSettled topo k u v dv) → (p = v → RightVector topo k u v dvInfos) →
        NodeSettled topo k u v (dv.updateDvInfos order p dvInfos).2) := by
  have hvalid : ∀ w ∈ topo.neighbours u, w ≠ c_invalidNodeId := fun w hw heq =>
    topo.neighbours_valid u hu (heq ▸ hw)
  by_cases hp : p ∈ topo.neighbours u ∧ p ≠ u
  · have hresult := h.updateDvInfos (m := ⟨p, u, dvInfos⟩) order hu hadvertises
    have heq := h.wellFormed.updateDvInfos_eq order dvInfos hp.1 hp.2 (hvalid p hp.1)
    have hmem (cache : DvCache) : v ∈ (dv.setCache p cache).neighbours :=
      ((h.wellFormed.setCache hp.1).mem_neighbours v).mpr hadj.2.1
    have hv := hmem (DistanceVector.cacheOf u dvInfos)
    have hbase : SlotMeasured topo u v (dv.setCache p (DistanceVector.cacheOf u dvInfos)) := hm
    change RoutesAreWalks topo u (dv.updateDvInfos order p dvInfos).2 at hresult
    rw [heq] at hresult ⊢
    refine ⟨hbase.recompute order hadj hv, fun hother hown => ?_⟩
    refine .recompute order (fun x d hvia hx => ?_) hbase hadj hv hresult
    by_cases hpv : p = v
    · subst hpv
      rw [DistanceVector.setCache_cached_same]
      exact (DistanceVector.cacheOf_lookup_iff d hdistinct.1 hdistinct.2).mpr (hown rfl x d hvia hx)
    · rw [DistanceVector.setCache_cached_ne _ _ _ (Ne.symm hpv)]
      exact (hother hpv).cached x d hvia hx
  · have hpv : p ≠ v := fun heq => hp (heq ▸ ⟨hadj.2.1, hadj.2.2⟩)
    have hsame : (dv.updateDvInfos order p dvInfos).2 = dv := by
      unfold DistanceVector.updateDvInfos
      by_cases hguard : p = dv.m_selfNodeId ∨ p = c_invalidNodeId
      · rw [if_pos hguard]
      · rw [if_neg hguard, if_pos]
        rw [not_or, h.wellFormed.self_eq] at hguard
        exact fun hmem => hp ⟨(h.wellFormed.mem_neighbours p).mp hmem, hguard.1⟩
    rw [hsame]
    exact ⟨hm, fun hother _ => hother hpv⟩

/-- **What a settled node advertises is right one link further.**  Its own entry cannot lead back over
the receiver, whose shortest distance is greater by the link between them. -/
theorem rightVector_of_settled (hlinked : topo.Linked)
    (hsettled : ∀ w, topo.graph.adj v w → NodeSettled topo k v w dv)
    (hself : dv.m_selfNodeId = v) (hsplit : HopsSplit topo v dv)
    (hperm : dvInfos.Perm (dv.dvInfo u)) : RightVector topo (k + 1) u v dvInfos := by
  intro x d hvia hxv
  obtain ⟨w, c, hadj, hgeodesic, rfl⟩ := hvia.geodesic.first (Ne.symm hxv)
  have hlt := hvia.lt
  have hcost : topo.graph.cost v w = topo.linkCost v w := rfl
  rw [hcost] at hlt ⊢
  obtain ⟨info, hinfo, hdistance⟩ := (hsettled w hadj).route x c
    ⟨hadj, hgeodesic, hxv, by omega, hvia.geodesic.le⟩
  have hvalid : x ≠ c_invalidNodeId := by
    rcases hvia.geodesic.walk.target (P := fun x => x ≠ c_invalidNodeId)
      (fun a b hab heq => topo.neighbours_valid a hab.1 (heq ▸ hab.2.1)) with heq | hx
    · exact absurd heq.symm hxv
    · exact hx
  have hhop : info.nextHop ≠ u := by
    intro heq
    obtain ⟨_, c', e, _, hback, hsum⟩ := hsplit x info hinfo hvalid (by omega)
    rw [heq] at hback
    have := hvia.le e hback
    have := hlinked.linkCost_pos u hvia.adj.1 v hvia.adj.2.1
    omega
  refine hperm.mem_iff.mpr ((DistanceVector.mem_dvInfo _).mpr ⟨?_, hvia.ne, info, hinfo, ?_⟩)
  · rw [hself]
    exact fun heq => hvia.adj.2.2 heq.symm
  · rw [DistanceVector.advertised, if_neg hhop]
    exact hdistance.symm

end Node

/-! ### All nodes -/

namespace LinkEvent

/-- The event reports a link as unreachable. -/
def isLoss : LinkEvent → Bool
  | .lose _ _ _ => true
  | _ => false

def isReceive (v u : NodeId) : LinkEvent → Bool
  | .receive a b _ => a = v && b = u
  | _ => false

def isMeasure (u v : NodeId) : LinkEvent → Bool
  | .measure a b _ => a = u && b = v
  | _ => false

end LinkEvent

def AllMeasured (topo : Topology) (s : LinkNetwork) : Prop :=
  ∀ u v, topo.graph.adj u v → SlotMeasured topo u v (s.node u)

/-- The node `u` and the vectors that come from `v` are right for what is best reached over `v`. -/
structure LinkSettled (topo : Topology) (k : ℕ) (s : LinkNetwork) (u v : NodeId) : Prop where
  node : NodeSettled topo k u v (s.node u)
  link : ∀ dvInfos ∈ s.link v u, RightVector topo k u v dvInfos

def AllSettled (topo : Topology) (k : ℕ) (s : LinkNetwork) : Prop :=
  ∀ u v, topo.graph.adj u v → LinkSettled topo k s u v

section Steps

variable {topo : Topology} {s s' : LinkNetwork} {u v : NodeId} {j k : ℕ} {e : LinkEvent}
variable {es : List LinkEvent}

/-- What comes over a link has been advertised by a node of the network. -/
theorem link_of_reachable (hs : (linkNetwork topo).Reachable s) {dvInfos : List (NodeId × ℕ)}
    (hmem : dvInfos ∈ s.link v u) :
    AdvertisesWalks topo ⟨v, u, dvInfos⟩ ∧ DistinctTargets ⟨v, u, dvInfos⟩ := by
  obtain ⟨t, ht, hcaptures⟩ := links_refine hs
  exact (hopsSplit_of_reachable ht).2 _ (hcaptures.link v u dvInfos hmem)

theorem hopsSplit_of_linked (hs : (linkNetwork topo).Reachable s) (hu : u ∈ topo.nodes) :
    HopsSplit topo u (s.node u) := by
  obtain ⟨t, ht, hcaptures⟩ := links_refine hs
  rw [hcaptures.node]
  exact ((hopsSplit_of_reachable ht).1 u hu).2

/-- Only the loss of a link makes a slot worse than the link. -/
theorem slotMeasured_step (hs : (linkNetwork topo).Reachable s) (hloss : e.isLoss = false)
    (hadj : topo.graph.adj u v) (hm : e.isMeasure u v = true ∨ SlotMeasured topo u v (s.node u))
    (hstep : (linkNetwork topo).step s e = some s') : SlotMeasured topo u v (s'.node u) := by
  cases e with
  | measure a b order =>
    obtain ⟨⟨ha, hb⟩, rfl⟩ := LinkNetwork.reportDistance_eq_some.mp hstep
    by_cases hau : a = u
    · subst hau
      rw [LinkNetwork.setNode_same]
      refine (measure_link (k := 0) order (routesAreWalks_of_linked hs ha) ha hb hadj ?_).1
      exact hm.imp_left fun h => by simpa [LinkEvent.isMeasure] using h
    · rw [LinkNetwork.setNode_ne _ _ (Ne.symm hau)]
      refine hm.resolve_left fun h => hau ?_
      simp only [LinkEvent.isMeasure, Bool.and_eq_true, decide_eq_true_eq] at h
      exact h.1
  | lose a b order => cases hloss
  | send a b dvInfos =>
    obtain ⟨_, rfl⟩ := LinkNetwork.send_eq_some.mp hstep
    exact hm.resolve_left nofun
  | receive a b order =>
    obtain ⟨dvInfos, queue, hqueue, hb, rfl⟩ := LinkNetwork.receive_eq_some.mp hstep
    have hsent := link_of_reachable hs (hqueue ▸ List.mem_cons_self)
    have hm : SlotMeasured topo u v (s.node u) := hm.resolve_left nofun
    rw [LinkNetwork.setLink_node]
    by_cases hbu : b = u
    · subst hbu
      rw [LinkNetwork.setNode_same]
      exact (receive_link (k := 0) order (routesAreWalks_of_linked hs hb) hb hsent.1 hsent.2 hadj hm).1
    · rw [LinkNetwork.setNode_ne _ _ (Ne.symm hbu)]
      exact hm
  | disconnect a b =>
    cases hstep
    exact hm.resolve_left nofun

/-- **Nothing but a loss disturbs a settled link**, as long as what the neighbour sends is as right. -/
theorem linkSettled_step (hlinked : topo.Linked) (hs : (linkNetwork topo).Reachable s)
    (hm : AllMeasured topo s) (hk : AllSettled topo k s) (hj : j ≤ k + 1) (hadj : topo.graph.adj u v)
    (h : LinkSettled topo j s u v) (hloss : e.isLoss = false)
    (hstep : (linkNetwork topo).step s e = some s') : LinkSettled topo j s' u v := by
  cases e with
  | measure a b order =>
    obtain ⟨⟨ha, hb⟩, rfl⟩ := LinkNetwork.reportDistance_eq_some.mp hstep
    refine ⟨?_, h.link⟩
    by_cases hau : a = u
    · subst hau
      rw [LinkNetwork.setNode_same]
      exact (measure_link order (routesAreWalks_of_linked hs ha) ha hb hadj (.inr (hm a v hadj))).2 h.node
    · rw [LinkNetwork.setNode_ne _ _ (Ne.symm hau)]
      exact h.node
  | lose a b order => cases hloss
  | send a b dvInfos =>
    obtain ⟨⟨ha, hb, hperm⟩, rfl⟩ := LinkNetwork.send_eq_some.mp hstep
    refine ⟨h.node, fun infos hmem => ?_⟩
    by_cases hab : v = a ∧ u = b
    · obtain ⟨rfl, rfl⟩ := hab
      rw [LinkNetwork.setLink_same] at hmem
      rcases List.mem_append.mp hmem with hmem | hmem
      · exact h.link infos hmem
      · cases List.mem_singleton.mp hmem
        have hwalks := routesAreWalks_of_linked hs ha
        exact (rightVector_of_settled hlinked (fun w hw => (hk v w hw).node) hwalks.wellFormed.self_eq
          (hopsSplit_of_linked hs ha) hperm).mono hj
    · rw [LinkNetwork.setLink_ne _ _ hab] at hmem
      exact h.link infos hmem
  | receive a b order =>
    obtain ⟨dvInfos, queue, hqueue, hb, rfl⟩ := LinkNetwork.receive_eq_some.mp hstep
    have hsent := link_of_reachable hs (hqueue ▸ List.mem_cons_self)
    refine ⟨?_, fun infos hmem => ?_⟩
    · rw [LinkNetwork.setLink_node]
      by_cases hbu : b = u
      · subst hbu
        rw [LinkNetwork.setNode_same]
        refine (receive_link order (routesAreWalks_of_linked hs hb) hb hsent.1 hsent.2 hadj
          (hm b v hadj)).2 (fun _ => h.node) ?_
        rintro rfl
        exact h.link dvInfos (hqueue ▸ List.mem_cons_self)
      · rw [LinkNetwork.setNode_ne _ _ (Ne.symm hbu)]
        exact h.node
    · by_cases hab : v = a ∧ u = b
      · obtain ⟨rfl, rfl⟩ := hab
        rw [LinkNetwork.setLink_same] at hmem
        exact h.link infos (hqueue ▸ List.mem_cons_of_mem _ hmem)
      · rw [LinkNetwork.setLink_ne _ _ hab] at hmem
        exact h.link infos hmem
  | disconnect a b =>
    cases hstep
    refine ⟨h.node, fun infos hmem => ?_⟩
    by_cases hab : v = a ∧ u = b
    · obtain ⟨rfl, rfl⟩ := hab
      rw [LinkNetwork.setLink_same] at hmem
      cases hmem
    · rw [LinkNetwork.setLink_ne _ _ hab] at hmem
      exact h.link infos hmem

theorem allMeasured_step (hs : (linkNetwork topo).Reachable s) (hm : AllMeasured topo s)
    (hloss : e.isLoss = false) (hstep : (linkNetwork topo).step s e = some s') : AllMeasured topo s' :=
  fun u v hadj => slotMeasured_step hs hloss hadj (.inr (hm u v hadj)) hstep

theorem allSettled_step (hlinked : topo.Linked) (hs : (linkNetwork topo).Reachable s)
    (hm : AllMeasured topo s) (hk : AllSettled topo k s) (hloss : e.isLoss = false)
    (hstep : (linkNetwork topo).step s e = some s') : AllSettled topo k s' :=
  fun u v hadj => linkSettled_step hlinked hs hm hk (Nat.le_succ k) hadj (hk u v hadj) hloss hstep

/-- A measured network is settled for the neighbours that are best reached directly. -/
theorem allSettled_zero (hs : (linkNetwork topo).Reachable s) (hm : AllMeasured topo s) :
    AllSettled topo 0 s := by
  have htarget : ∀ {u v x d}, topo.Via 0 u v x d → v = x ∧ d = 0 := by
    intro u v x d hvia
    obtain ⟨-, ⟨hw, -⟩, -⟩ := hvia
    cases hw
    exact ⟨rfl, rfl⟩
  intro u v hadj
  refine ⟨⟨fun x d hvia hx => ?_, fun x d hvia => ?_⟩, fun infos _ x d hvia hx => ?_⟩
  · exact absurd (htarget hvia).1.symm hx
  · obtain ⟨rfl, rfl⟩ := htarget hvia
    obtain ⟨slot, hslot, hle⟩ := hm u v hadj
    have hlt := hvia.lt
    have hvalid : v ≠ c_invalidNodeId := fun heq => topo.neighbours_valid u hadj.1 (heq ▸ hadj.2.1)
    have hlower := hvia.le _ ((routesAreWalks_of_linked hs hadj.1).route v slot hslot hvalid (by omega))
    exact ⟨slot, hslot, by omega⟩
  · exact absurd (htarget hvia).1.symm hx

/-! ### Rounds -/

/-- One more vector of `v` reaches `u` than was on the way when the events began, so that one of them was sent
since.  Where a disconnect empties the queue on the way, this asks for more vectors than that. -/
def Round (topo : Topology) (s : LinkNetwork) (es : List LinkEvent) : Prop :=
  ∀ u v, topo.graph.adj u v → (s.link v u).length < es.countP (LinkEvent.isReceive v u)

/-- **In a round the depth grows by one**, by induction on its events: either a vector sent in the round
has arrived, or the vectors from before it, which travel first, are fewer than those still to arrive. -/
theorem linkSettled_round (hlinked : topo.Linked) (hadj : topo.graph.adj u v)
    (hloss : ∀ e ∈ es, e.isLoss = false) (hs : (linkNetwork topo).Reachable s)
    (hm : AllMeasured topo s) (hk : AllSettled topo k s)
    (h : LinkSettled topo (k + 1) s u v ∨ ∃ old new, s.link v u = old ++ new ∧
      old.length < es.countP (LinkEvent.isReceive v u) ∧
      ∀ dvInfos ∈ new, RightVector topo (k + 1) u v dvInfos)
    (hrun : (linkNetwork topo).run s es = some s') : LinkSettled topo (k + 1) s' u v := by
  induction es generalizing s with
  | nil =>
    cases hrun
    rcases h with h | ⟨old, new, _, hcount, _⟩
    · exact h
    · exact absurd hcount (Nat.not_lt_zero _)
  | cons e es ih =>
    obtain ⟨s₁, hstep, hrun⟩ := Option.bind_eq_some_iff.mp hrun
    have hloss₁ := hloss e List.mem_cons_self
    refine ih (fun e' he' => hloss e' (List.mem_cons_of_mem _ he')) (.step hs trivial hstep)
      (allMeasured_step hs hm hloss₁ hstep) (allSettled_step hlinked hs hm hk hloss₁ hstep) ?_ hrun
    rcases h with h | ⟨old, new, hlink, hcount, hnew⟩
    · exact .inl (linkSettled_step hlinked hs hm hk le_rfl hadj h hloss₁ hstep)
    have hpending : s₁.link v u = s.link v u → e.isReceive v u = false →
        LinkSettled topo (k + 1) s₁ u v ∨ ∃ old new, s₁.link v u = old ++ new ∧
          old.length < es.countP (LinkEvent.isReceive v u) ∧
          ∀ dvInfos ∈ new, RightVector topo (k + 1) u v dvInfos := by
      intro hsame hother
      rw [List.countP_cons_of_neg (by rw [hother]; exact Bool.false_ne_true)] at hcount
      exact .inr ⟨old, new, hsame.trans hlink, hcount, hnew⟩
    cases e with
    | measure a b order =>
      obtain ⟨_, rfl⟩ := LinkNetwork.reportDistance_eq_some.mp hstep
      exact hpending rfl rfl
    | lose a b order => cases hloss₁
    | send a b dvInfos =>
      obtain ⟨⟨ha, hb, hperm⟩, rfl⟩ := LinkNetwork.send_eq_some.mp hstep
      by_cases hab : v = a ∧ u = b
      · obtain ⟨rfl, rfl⟩ := hab
        have hwalks := routesAreWalks_of_linked hs ha
        have hright := rightVector_of_settled hlinked (fun w hw => (hk v w hw).node)
          hwalks.wellFormed.self_eq (hopsSplit_of_linked hs ha) hperm
        refine .inr ⟨old, new ++ [dvInfos], ?_, ?_, fun infos hmem => ?_⟩
        · rw [LinkNetwork.setLink_same, hlink, List.append_assoc]
        · exact hcount
        · rcases List.mem_append.mp hmem with hmem | hmem
          · exact hnew infos hmem
          · cases List.mem_singleton.mp hmem
            exact hright
      · exact hpending (LinkNetwork.setLink_ne _ _ hab) rfl
    | receive a b order =>
      obtain ⟨dvInfos, queue, hqueue, hb, rfl⟩ := LinkNetwork.receive_eq_some.mp hstep
      by_cases hab : v = a ∧ u = b
      · obtain ⟨rfl, rfl⟩ := hab
        rw [List.countP_cons_of_pos (by simp [LinkEvent.isReceive])] at hcount
        cases old with
        | cons oldest old =>
          rw [hqueue, List.cons_append, List.cons.injEq] at hlink
          refine .inr ⟨old, new, ?_, ?_, hnew⟩
          · rw [LinkNetwork.setLink_same, hlink.2]
          · rw [List.length_cons] at hcount
            omega
        | nil =>
          rw [hqueue, List.nil_append] at hlink
          have hsent := link_of_reachable hs (hqueue ▸ List.mem_cons_self)
          refine .inl ⟨?_, fun infos hmem => ?_⟩
          · rw [LinkNetwork.setLink_node, LinkNetwork.setNode_same]
            exact (receive_link order (routesAreWalks_of_linked hs hb) hb hsent.1 hsent.2 hadj
              (hm u v hadj)).2 (fun hne => absurd rfl hne)
              fun _ => hnew dvInfos (hlink ▸ List.mem_cons_self)
          · rw [LinkNetwork.setLink_same] at hmem
            exact hnew infos (hlink ▸ List.mem_cons_of_mem _ hmem)
      · refine hpending (LinkNetwork.setLink_ne _ _ hab) ?_
        rw [Bool.eq_false_iff]
        intro h
        simp only [LinkEvent.isReceive, Bool.and_eq_true, decide_eq_true_eq] at h
        exact hab ⟨h.1.symm, h.2.symm⟩
    | disconnect a b =>
      cases hstep
      by_cases hab : v = a ∧ u = b
      · obtain ⟨rfl, rfl⟩ := hab
        refine .inr ⟨[], [], ?_, ?_, fun _ hmem => by cases hmem⟩
        · rw [LinkNetwork.setLink_same]
          rfl
        · rw [List.countP_cons_of_neg (by simp [LinkEvent.isReceive])] at hcount
          exact Nat.zero_lt_of_lt hcount
      · exact hpending (LinkNetwork.setLink_ne _ _ hab) rfl

end Steps

/-! ### Convergence -/

/-- `Rounds topo k s s'`: from `s` to `s'` there are `k` rounds without a loss. -/
inductive Rounds (topo : Topology) : ℕ → LinkNetwork → LinkNetwork → Prop
  | nil (s : LinkNetwork) : Rounds topo 0 s s
  | round {k : ℕ} {s t t' : LinkNetwork} {es : List LinkEvent} : Rounds topo k s t →
      (∀ e ∈ es, e.isLoss = false) → Round topo t es → (linkNetwork topo).run t es = some t' →
        Rounds topo (k + 1) s t'

/-- Following the next hops for `x` from a node leads to `x`, link by link. -/
inductive Leads (topo : Topology) (s : LinkNetwork) (x : NodeId) : NodeId → Prop
  | arrived : Leads topo s x x
  | hop {u : NodeId} {info : NodeInfo} : (s.node u).route x = some info →
      topo.graph.adj u info.nextHop → Leads topo s x info.nextHop → Leads topo s x u

section Convergence

variable {topo : Topology} {s s₀ s' : LinkNetwork} {u x : NodeId} {k d : ℕ} {es : List LinkEvent}

/-- Slots stay measured from their measurement on. -/
theorem allMeasured_of_run (hs : (linkNetwork topo).Reachable s) (hloss : ∀ e ∈ es, e.isLoss = false)
    (hm : ∀ u v, topo.graph.adj u v →
      (∃ e ∈ es, e.isMeasure u v = true) ∨ SlotMeasured topo u v (s.node u))
    (hrun : (linkNetwork topo).run s es = some s') : AllMeasured topo s' := by
  induction es generalizing s with
  | nil =>
    cases hrun
    exact fun u v hadj => (hm u v hadj).resolve_left fun ⟨_, hmem, _⟩ => by cases hmem
  | cons e es ih =>
    obtain ⟨s₁, hstep, hrun⟩ := Option.bind_eq_some_iff.mp hrun
    refine ih (.step hs trivial hstep) (fun e' he' => hloss e' (List.mem_cons_of_mem _ he')) ?_ hrun
    intro u v hadj
    have hkeep (h : e.isMeasure u v = true ∨ SlotMeasured topo u v (s.node u)) :=
      slotMeasured_step hs (hloss e List.mem_cons_self) hadj h hstep
    rcases hm u v hadj with ⟨e', hmem, hmeasure⟩ | hslot
    · rcases List.mem_cons.mp hmem with rfl | hmem
      · exact .inr (hkeep (.inl hmeasure))
      · exact .inl ⟨e', hmem, hmeasure⟩
    · exact .inr (hkeep (.inr hslot))

theorem allSettled_of_rounds (hlinked : topo.Linked) (hs : (linkNetwork topo).Reachable s)
    (hm : AllMeasured topo s) (hrounds : Rounds topo k s s') :
    (linkNetwork topo).Reachable s' ∧ AllMeasured topo s' ∧ AllSettled topo k s' := by
  induction hrounds with
  | nil s => exact ⟨hs, hm, allSettled_zero hs hm⟩
  | @round k s t t' es _ hloss hround hrun ih =>
    obtain ⟨ht, hmt, hkt⟩ := ih hs hm
    refine ⟨.of_run ht hrun, ?_, fun u v hadj => ?_⟩
    · exact allMeasured_of_run ht hloss (fun u v hadj => .inr (hmt u v hadj)) hrun
    · exact linkSettled_round hlinked hadj hloss ht hmt hkt
        (.inr ⟨t.link v u, [], (List.append_nil _).symm, hround u v hadj, fun _ h => by cases h⟩) hrun

/-- A settled network knows the cheapest walks of one link more than its depth. -/
theorem AllSettled.distance (hk : AllSettled topo k s) (hwalk : topo.graph.Geodesic (k + 1) u x d)
    (hne : x ≠ u) (hlt : d < c_unreachableDistance) :
    ∃ info, (s.node u).route x = some info ∧ info.distance = d := by
  obtain ⟨v, c, hadj, hgeodesic, rfl⟩ := hwalk.first (Ne.symm hne)
  exact (hk u v hadj).node.route x c ⟨hadj, hgeodesic, hne, hlt, hwalk.le⟩

/-- In a settled network that is deep enough the distances below the cap are the shortest ones. -/
theorem AllSettled.distance_iff (hlinked : topo.Linked) (hs : (linkNetwork topo).Reachable s)
    (hk : AllSettled topo k s) (hcard : topo.nodes.card ≤ k + 2) (hu : u ∈ topo.nodes) (hne : x ≠ u)
    (hx : x ≠ c_invalidNodeId) (hlt : d < c_unreachableDistance) :
    (∃ info, (s.node u).route x = some info ∧ info.distance = d) ↔
      topo.graph.Walk u x d ∧ ∀ c, topo.graph.Walk u x c → d ≤ c := by
  have hcost : ∀ a b, topo.graph.adj a b → 0 < topo.graph.cost a b := fun a b hab =>
    hlinked.linkCost_pos a hab.1 b hab.2.1
  have hnodes : ∀ a b, topo.graph.adj a b → b ∈ topo.nodes := fun a b hab =>
    hlinked.mem_nodes a hab.1 b hab.2.1
  have hknown {j c : ℕ} (hc : topo.graph.Geodesic j u x c) (hclt : c < c_unreachableDistance) :
      ∃ info, (s.node u).route x = some info ∧ info.distance = c :=
    hk.distance ((hc.card hcost hnodes hu).mono (by omega)) hne hclt
  constructor
  · rintro ⟨info, hinfo, rfl⟩
    have hwalk := (routesAreWalks_of_linked hs hu).route x info hinfo hx hlt
    obtain ⟨j, c, hgeodesic, hle⟩ := WeightedGraph.exists_geodesic hwalk
    obtain ⟨info', hinfo', rfl⟩ := hknown hgeodesic (by omega)
    cases hinfo.symm.trans hinfo'
    exact ⟨hwalk, hgeodesic.le⟩
  · rintro ⟨hwalk, hle⟩
    obtain ⟨j, c, hgeodesic, hc⟩ := WeightedGraph.exists_geodesic hwalk
    have hd := hle c hgeodesic.walk
    obtain rfl : c = d := by omega
    exact hknown hgeodesic hlt

/-- **The tables converge.**  From any reachable state of a network of `n` nodes: once every link has
been measured, `n - 2` rounds without a loss leave in every table exactly the shortest distances below
the cap, whatever was lost, late or out of date before; a longer last round changes nothing more. -/
theorem converges (topo : Topology) (hlinked : topo.Linked) (s s₀ s' : LinkNetwork)
    (hs : (linkNetwork topo).Reachable s) (es : List LinkEvent) (hloss : ∀ e ∈ es, e.isLoss = false)
    (hmeasured : ∀ u v, topo.graph.adj u v → ∃ e ∈ es, e.isMeasure u v = true)
    (hrun : (linkNetwork topo).run s es = some s₀) (k : ℕ) (hk : topo.nodes.card ≤ k + 2)
    (hrounds : Rounds topo k s₀ s') (u : NodeId) (hu : u ∈ topo.nodes) (x : NodeId) (hne : x ≠ u)
    (hx : x ≠ c_invalidNodeId) (d : ℕ) (hlt : d < c_unreachableDistance) :
    (∃ info, (s'.node u).route x = some info ∧ info.distance = d) ↔
      topo.graph.Walk u x d ∧ ∀ c, topo.graph.Walk u x c → d ≤ c := by
  have hm := allMeasured_of_run hs hloss (fun u v hadj => .inl (hmeasured u v hadj)) hrun
  obtain ⟨hs', _, hsettled⟩ := allSettled_of_rounds hlinked (.of_run hs hrun) hm hrounds
  exact hsettled.distance_iff hlinked hs' hk hu hne hx hlt

end Convergence

section SmallNetwork

/-- Three nodes in a line, with links of cost `5`. -/
def lineOfThree : Topology where
  nodes := {"A", "B", "C"}
  neighbours u := if u = "B" then ["A", "C"] else ["B"]
  linkCost _ _ := 5
  nodes_valid := by decide
  neighbours_valid := by decide
  linkCost_lt := by decide

/-- Every node measures its links. -/
def lineMeasures : List LinkEvent :=
  [.measure "A" "B" .stored, .measure "B" "A" .stored, .measure "B" "C" .stored, .measure "C" "B" .stored]

/-- The state after the node's measurement. -/
def LinkNetwork.measure (s : LinkNetwork) (u v : NodeId) : LinkNetwork :=
  s.setNode u ((s.node u).updateNeighbourDistance .stored v 5).2

def lineMeasured : LinkNetwork :=
  (((LinkNetwork.start lineOfThree).measure "A" "B").measure "B" "A").measure "B" "C" |>.measure "C" "B"

theorem lineMeasured_run :
    (linkNetwork lineOfThree).run (.start lineOfThree) lineMeasures = some lineMeasured :=
  Option.bind_eq_some_iff.mpr ⟨_, step_measure (by decide) (by decide) .stored,
    Option.bind_eq_some_iff.mpr ⟨_, step_measure (by decide) (by decide) .stored,
    Option.bind_eq_some_iff.mpr ⟨_, step_measure (by decide) (by decide) .stored,
    Option.bind_eq_some_iff.mpr ⟨_, step_measure (by decide) (by decide) .stored, rfl⟩⟩⟩⟩

theorem lineOfThree_adj {u v : NodeId} (h : lineOfThree.graph.adj u v) :
    (u = "A" ∧ v = "B") ∨ (u = "B" ∧ v = "A") ∨ (u = "B" ∧ v = "C") ∨ (u = "C" ∧ v = "B") := by
  obtain ⟨hu, hv, -⟩ := h
  have hu : u = "A" ∨ u = "B" ∨ u = "C" := by simpa [lineOfThree] using hu
  rcases hu with rfl | rfl | rfl
  · exact .inl ⟨rfl, by simpa [lineOfThree] using hv⟩
  · have hv : v = "A" ∨ v = "C" := by simpa [lineOfThree] using hv
    rcases hv with rfl | rfl
    · exact .inr (.inl ⟨rfl, rfl⟩)
    · exact .inr (.inr (.inl ⟨rfl, rfl⟩))
  · exact .inr (.inr (.inr ⟨rfl, by simpa [lineOfThree] using hv⟩))

/-- Every node sends its vector to its neighbours and receives theirs. -/
def lineRound (node : NodeId → DistanceVector) : List LinkEvent :=
  [.send "A" "B" ((node "A").dvInfo "B"), .send "B" "A" ((node "B").dvInfo "A"),
    .send "B" "C" ((node "B").dvInfo "C"), .send "C" "B" ((node "C").dvInfo "B"),
    .receive "A" "B" .stored, .receive "B" "A" .stored, .receive "B" "C" .stored, .receive "C" "B" .stored]

theorem lineRound_run (node : NodeId → DistanceVector) :
    ∃ s, (linkNetwork lineOfThree).run ⟨node, fun _ _ => []⟩ (lineRound node) = some s :=
  ⟨_, Option.bind_eq_some_iff.mpr ⟨_, step_send (by decide) (by decide) (.refl _),
    Option.bind_eq_some_iff.mpr ⟨_, step_send (by decide) (by decide) (.refl _),
    Option.bind_eq_some_iff.mpr ⟨_, step_send (by decide) (by decide) (.refl _),
    Option.bind_eq_some_iff.mpr ⟨_, step_send (by decide) (by decide) (.refl _),
    Option.bind_eq_some_iff.mpr ⟨_, step_receive rfl (by decide) .stored,
    Option.bind_eq_some_iff.mpr ⟨_, step_receive rfl (by decide) .stored,
    Option.bind_eq_some_iff.mpr ⟨_, step_receive rfl (by decide) .stored,
    Option.bind_eq_some_iff.mpr ⟨_, step_receive rfl (by decide) .stored, rfl⟩⟩⟩⟩⟩⟩⟩⟩⟩

theorem lineOfThree_round : ∃ s, Rounds lineOfThree 1 lineMeasured s := by
  have hround := lineRound_run lineMeasured.node
  obtain ⟨s, hrun⟩ := hround
  have hloss : ∀ e ∈ lineRound lineMeasured.node, e.isLoss = false := by
    intro e he
    simp only [lineRound, List.mem_cons, List.not_mem_nil, or_false] at he
    rcases he with rfl | rfl | rfl | rfl | rfl | rfl | rfl | rfl <;> rfl
  have hreceived : Round lineOfThree lineMeasured (lineRound lineMeasured.node) := by
    intro u v hadj
    rcases lineOfThree_adj hadj with ⟨rfl, rfl⟩ | ⟨rfl, rfl⟩ | ⟨rfl, rfl⟩ | ⟨rfl, rfl⟩ <;>
      exact Nat.zero_lt_one
  exact ⟨s, .round (.nil lineMeasured) hloss hreceived hrun⟩

theorem lineOfThree_measured (u v : NodeId) (hadj : lineOfThree.graph.adj u v) :
    ∃ e ∈ lineMeasures, e.isMeasure u v = true := by
  rcases lineOfThree_adj hadj with ⟨rfl, rfl⟩ | ⟨rfl, rfl⟩ | ⟨rfl, rfl⟩ | ⟨rfl, rfl⟩
  · exact ⟨.measure "A" "B" .stored, by simp [lineMeasures], rfl⟩
  · exact ⟨.measure "B" "A" .stored, by simp [lineMeasures], rfl⟩
  · exact ⟨.measure "B" "C" .stored, by simp [lineMeasures], rfl⟩
  · exact ⟨.measure "C" "B" .stored, by simp [lineMeasures], rfl⟩

theorem lineOfThree_noLoss (e : LinkEvent) (he : e ∈ lineMeasures) : e.isLoss = false := by
  simp only [lineMeasures, List.mem_cons, List.not_mem_nil, or_false] at he
  rcases he with rfl | rfl | rfl | rfl <;> rfl

theorem lineOfThree_linked : lineOfThree.Linked :=
  ⟨by decide, by decide, by decide⟩

/-- A walk that leads anywhere takes a link. -/
theorem five_le_of_walk {u x : NodeId} {c : ℕ} (h : lineOfThree.graph.Walk u x c) (hne : u ≠ x) : 5 ≤ c := by
  cases h with
  | nil => exact absurd rfl hne
  | cons _ _ => exact Nat.le_add_right 5 _

/-- The way from `A` to `C` is by `B`. -/
theorem lineOfThree_geodesic : lineOfThree.graph.Geodesic 2 "A" "C" 10 := by
  have hAB : lineOfThree.graph.adj "A" "B" := ⟨by decide, by decide, by decide⟩
  have hBC : lineOfThree.graph.adj "B" "C" := ⟨by decide, by decide, by decide⟩
  have hwalk : lineOfThree.graph.WalkIn 2 "A" "C" (5 + (5 + 0)) := .cons hAB (.cons hBC (.nil 0 "C"))
  refine ⟨hwalk, fun c hc => ?_⟩
  generalize hsource : "A" = u at hc
  generalize htarget : "C" = x at hc
  cases hc with
  | nil => exact absurd (hsource.trans htarget.symm) (by decide)
  | cons hadj hrest =>
    subst hsource
    subst htarget
    rcases lineOfThree_adj hadj with ⟨-, rfl⟩ | ⟨hA, -⟩ | ⟨hA, -⟩ | ⟨hA, -⟩
    · exact Nat.add_le_add_left (five_le_of_walk hrest (by decide)) 5
    · exact absurd hA (by decide)
    · exact absurd hA (by decide)
    · exact absurd hA (by decide)

/-- `A` learns the way to `C`, to which it has no link. -/
theorem converges_line : ∃ s, Rounds lineOfThree 1 lineMeasured s ∧
    ∃ info, (s.node "A").route "C" = some info ∧ info.distance = 10 := by
  obtain ⟨s, hrounds⟩ := lineOfThree_round
  have hiff := converges lineOfThree lineOfThree_linked _ _ s (.init rfl) _ lineOfThree_noLoss
    lineOfThree_measured lineMeasured_run 1 (by decide) hrounds "A" (by decide) "C" (by decide)
    (by decide) 10 (by decide)
  exact ⟨s, hrounds, hiff.mpr ⟨lineOfThree_geodesic.walk, lineOfThree_geodesic.le⟩⟩

end SmallNetwork

end DistributedNetwork.Routing
