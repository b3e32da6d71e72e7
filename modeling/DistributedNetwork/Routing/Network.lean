import Mathlib.Data.Finset.Basic
import DistributedNetwork.Library.TransitionSystem
import DistributedNetwork.Library.WeightedGraph
import DistributedNetwork.Routing.Table

/-!
# Networks of distance-vector nodes

A `Topology` lists the neighbours every node is built with and the cost of every link.  A `Network`
is the state of all nodes together with the vectors captured so far.  Four things happen, in any
order and any number of times:

* a link is **measured** at its cost, or **lost** (measured as unreachable);
* the vector of a node for one of its neighbours is **captured**;
* a captured vector is **delivered**, late, repeatedly or never.

`RoutesAreWalks` is the invariant that carries everything: below the cap, table entries, cached
vectors and captured vectors are all costs of walks.  It gives `distance_walk`: routes are never
underestimated, whatever was lost, delayed or repeated on the way.
-/

namespace DistributedNetwork.Routing

open DistributedNetwork.Library

/-- Who is built with which neighbours, and what each link costs. -/
structure Topology where
  nodes : Finset NodeId
  neighbours : NodeId → List NodeId
  linkCost : NodeId → NodeId → ℕ
  nodes_valid : c_invalidNodeId ∉ nodes
  neighbours_valid : ∀ u ∈ nodes, c_invalidNodeId ∉ neighbours u
  linkCost_lt : ∀ u ∈ nodes, ∀ v ∈ neighbours u, linkCost u v < c_unreachableDistance

/-- A vector on its way from `sender` to `receiver`. -/
structure Message where
  sender : NodeId
  receiver : NodeId
  dvInfos : List (NodeId × ℕ)
  deriving DecidableEq

structure Network where
  node : NodeId → DistanceVector
  captured : List Message

/-- One step of a network; every recomputation has its own traversal order. -/
inductive Event where
  | measure (node neighbour : NodeId) (order : IterationOrder)
  | lose (node neighbour : NodeId) (order : IterationOrder)
  | capture (message : Message)
  | deliver (message : Message) (order : IterationOrder)

namespace Topology

/-- The links as a graph; a node that lists itself is not linked to itself. -/
def graph (topo : Topology) : WeightedGraph NodeId where
  adj u v := u ∈ topo.nodes ∧ v ∈ topo.neighbours u ∧ v ≠ u
  cost := topo.linkCost

end Topology

namespace Network

variable (topo : Topology)

def start : Network where
  node u := .new u (topo.neighbours u)
  captured := []

/-- Replace the state of one node. -/
def setNode (s : Network) (u : NodeId) (dv : DistanceVector) : Network :=
  { s with node := Function.update s.node u dv }

/-- Report the cost of a link, or that it is unreachable, to the node `u`. -/
def reportDistance (s : Network) (u v : NodeId) (distance : ℕ) (order : IterationOrder) :
    Option Network :=
  if u ∈ topo.nodes ∧ v ∈ topo.neighbours u then
    some (s.setNode u ((s.node u).updateNeighbourDistance order v distance).2)
  else none

/-- Take note of the vector `message.sender` advertises to its neighbour at this moment; the table
is a hash map, so the entries come in any order. -/
def capture (s : Network) (message : Message) : Option Network :=
  if message.sender ∈ topo.nodes ∧ message.receiver ∈ topo.neighbours message.sender ∧
      message.dvInfos.Perm ((s.node message.sender).dvInfo message.receiver) then
    some { s with captured := message :: s.captured }
  else none

/-- Hand a captured vector to its receiver; it stays captured and may be handed over again. -/
def deliver (s : Network) (message : Message) (order : IterationOrder) : Option Network :=
  if message ∈ s.captured ∧ message.receiver ∈ topo.nodes then
    some (s.setNode message.receiver
      ((s.node message.receiver).updateDvInfos order message.sender message.dvInfos).2)
  else none

def step (s : Network) : Event → Option Network
  | .measure u v order => s.reportDistance topo u v (topo.linkCost u v) order
  | .lose u v order => s.reportDistance topo u v c_unreachableDistance order
  | .capture message => s.capture topo message
  | .deliver message order => s.deliver topo message order

end Network

/-- The network as a transition system. -/
def network (topo : Topology) : TransitionSystem Network Event where
  init s := s = .start topo
  step := Network.step topo

/-! ### What a step can do -/

section StepCases

variable {topo : Topology} {s s' : Network} {u v : NodeId} {d : ℕ} {order : IterationOrder}
variable {message : Message}

@[simp] theorem setNode_same (s : Network) (u : NodeId) (dv : DistanceVector) :
    (s.setNode u dv).node u = dv :=
  Function.update_self _ _ _

theorem setNode_ne (s : Network) (dv : DistanceVector) (h : v ≠ u) :
    (s.setNode u dv).node v = s.node v :=
  Function.update_of_ne h _ _

theorem reportDistance_eq_some : s.reportDistance topo u v d order = some s' ↔
    (u ∈ topo.nodes ∧ v ∈ topo.neighbours u) ∧
      s.setNode u ((s.node u).updateNeighbourDistance order v d).2 = s' := by
  rw [Network.reportDistance, Option.ite_none_right_eq_some, Option.some.injEq]

theorem capture_eq_some : s.capture topo message = some s' ↔
    (message.sender ∈ topo.nodes ∧ message.receiver ∈ topo.neighbours message.sender ∧
      message.dvInfos.Perm ((s.node message.sender).dvInfo message.receiver)) ∧
      { s with captured := message :: s.captured } = s' := by
  rw [Network.capture, Option.ite_none_right_eq_some, Option.some.injEq]

theorem deliver_eq_some : s.deliver topo message order = some s' ↔
    (message ∈ s.captured ∧ message.receiver ∈ topo.nodes) ∧
      s.setNode message.receiver
        ((s.node message.receiver).updateDvInfos order message.sender message.dvInfos).2 = s' := by
  rw [Network.deliver, Option.ite_none_right_eq_some, Option.some.injEq]

/-- **Step rule.**  A property of single nodes and of single messages is preserved by every step when
the two updates preserve it at a node and a captured vector has it. -/
theorem network_step_rule {P : NodeId → DistanceVector → Prop} {Q : Message → Prop} {e : Event}
    (hreport : ∀ u ∈ topo.nodes, ∀ v ∈ topo.neighbours u, ∀ d order, ∀ dv,
      d = topo.linkCost u v ∨ d = c_unreachableDistance → P u dv →
        P u (dv.updateNeighbourDistance order v d).2)
    (hdeliver : ∀ m : Message, ∀ order, ∀ dv, m.receiver ∈ topo.nodes → Q m → P m.receiver dv →
      P m.receiver (dv.updateDvInfos order m.sender m.dvInfos).2)
    (hcapture : ∀ m : Message, ∀ dv, m.sender ∈ topo.nodes →
      m.receiver ∈ topo.neighbours m.sender → m.dvInfos.Perm (dv.dvInfo m.receiver) →
        P m.sender dv → Q m)
    (hnodes : ∀ u ∈ topo.nodes, P u (s.node u)) (hmessages : ∀ m ∈ s.captured, Q m)
    (hstep : s.step topo e = some s') :
    (∀ u ∈ topo.nodes, P u (s'.node u)) ∧ ∀ m ∈ s'.captured, Q m := by
  have hset : ∀ u dv, P u dv → ∀ x ∈ topo.nodes, P x ((s.setNode u dv).node x) := by
    intro u dv hdv x hx
    by_cases hxu : x = u
    · subst hxu
      rw [setNode_same]
      exact hdv
    · rw [setNode_ne _ _ hxu]
      exact hnodes x hx
  cases e with
  | measure u v order =>
    obtain ⟨⟨hu, hv⟩, rfl⟩ := reportDistance_eq_some.mp hstep
    exact ⟨hset u _ (hreport u hu v hv _ order _ (.inl rfl) (hnodes u hu)), hmessages⟩
  | lose u v order =>
    obtain ⟨⟨hu, hv⟩, rfl⟩ := reportDistance_eq_some.mp hstep
    exact ⟨hset u _ (hreport u hu v hv _ order _ (.inr rfl) (hnodes u hu)), hmessages⟩
  | capture m =>
    obtain ⟨⟨hu, hv, hperm⟩, rfl⟩ := capture_eq_some.mp hstep
    refine ⟨hnodes, fun m' hm' => ?_⟩
    rcases List.mem_cons.mp hm' with rfl | hm'
    · exact hcapture _ _ hu hv hperm (hnodes _ hu)
    · exact hmessages m' hm'
  | deliver m order =>
    obtain ⟨⟨hm, hr⟩, rfl⟩ := deliver_eq_some.mp hstep
    exact ⟨hset _ _ (hdeliver m order _ hr (hmessages m hm) (hnodes _ hr)), hmessages⟩

end StepCases

/-! ### Everything below the cap is the cost of a walk -/

/-- The walk invariant of one node.  The own node is never a reachable target of its own table and
never appears in a cache. -/
structure RoutesAreWalks (topo : Topology) (u : NodeId) (dv : DistanceVector) : Prop where
  wellFormed : dv.WellFormed u (topo.neighbours u)
  route : ∀ x info, dv.route x = some info → x ≠ c_invalidNodeId →
    info.distance < c_unreachableDistance → topo.graph.Walk u x info.distance
  cached : ∀ v x d, dv.cached v x = some d → x ≠ c_invalidNodeId → d < c_unreachableDistance →
    topo.graph.Walk v x d
  own_route : ∀ info, dv.route u = some info → c_unreachableDistance ≤ info.distance
  own_cached : ∀ v, dv.cached v u = none

/-- A vector whose entries below the cap are costs of walks from its sender. -/
def AdvertisesWalks (topo : Topology) (m : Message) : Prop :=
  ∀ x d, (x, d) ∈ m.dvInfos → x ≠ c_invalidNodeId → d < c_unreachableDistance →
    topo.graph.Walk m.sender x d

namespace RoutesAreWalks

variable {topo : Topology} {u v p t x : NodeId} {dv : DistanceVector} {d : ℕ}
variable (order : IterationOrder)

theorem new (hu : u ∈ topo.nodes) : RoutesAreWalks topo u (.new u (topo.neighbours u)) where
  wellFormed := DistanceVector.new_wellFormed
  route := by
    intro x info h hx hlt
    rw [DistanceVector.new_route, if_neg hx] at h
    by_cases hmem : x ∈ topo.neighbours u
    · rw [if_pos hmem] at h
      cases h
      exact absurd hlt (lt_irrefl _)
    · rw [if_neg hmem] at h
      cases h
  cached := by
    intro v x d h
    rw [DistanceVector.new_cached] at h
    cases h
  own_route := by
    intro info h
    have hne : u ≠ c_invalidNodeId := fun heq => topo.nodes_valid (heq ▸ hu)
    rw [DistanceVector.new_route, if_neg hne] at h
    by_cases hmem : u ∈ topo.neighbours u
    · rw [if_pos hmem] at h
      cases h
      exact le_rfl
    · rw [if_neg hmem] at h
      cases h
  own_cached := fun v => DistanceVector.new_cached u v u _

/-- A single write of a walk cost, or of an unreachable distance, keeps the invariant. -/
theorem setRoute {info : NodeInfo} (h : RoutesAreWalks topo u dv)
    (hhop : info.nextHop ≠ c_invalidNodeId → info.distance < c_unreachableDistance)
    (hwalk : t ≠ c_invalidNodeId → info.distance < c_unreachableDistance →
      topo.graph.Walk u t info.distance)
    (hown : t = u → c_unreachableDistance ≤ info.distance) :
    RoutesAreWalks topo u (dv.setRoute t info) where
  wellFormed := h.wellFormed.setRoute hhop
  route := by
    intro x i hx hne hlt
    by_cases hxt : x = t
    · subst hxt
      rw [DistanceVector.setRoute_route_same] at hx
      cases hx
      exact hwalk hne hlt
    · rw [DistanceVector.setRoute_route_ne _ _ hxt] at hx
      exact h.route x i hx hne hlt
  cached := h.cached
  own_route := by
    intro i hi
    by_cases hut : u = t
    · subst hut
      rw [DistanceVector.setRoute_route_same] at hi
      cases hi
      exact hown rfl
    · rw [DistanceVector.setRoute_route_ne _ _ hut] at hi
      exact h.own_route i hi
  own_cached := h.own_cached

/-- An offer is the cost of a walk over the neighbour; nobody offers the own node. -/
theorem offer (h : RoutesAreWalks topo u dv) (hv : v ≠ c_invalidNodeId)
    (hoffer : dv.offer t v = some d) (hlt : d < c_unreachableDistance) :
    t ≠ u ∧ (t ≠ c_invalidNodeId → topo.graph.Walk u t d) := by
  obtain ⟨info, hroute, hinfo, hcase⟩ := DistanceVector.offer_eq_some_iff.mp hoffer
  have hwalk : topo.graph.Walk u v info.distance := h.route v info hroute hv hinfo
  rcases hcase with ⟨rfl, rfl⟩ | ⟨_, e, he, rfl⟩
  · refine ⟨?_, fun _ => hwalk⟩
    rintro rfl
    exact absurd (h.own_route info hroute) (not_le.mpr hlt)
  · have hsum : min c_unreachableDistance (info.distance + e) = info.distance + e := by omega
    rw [hsum] at hlt ⊢
    refine ⟨?_, fun ht => hwalk.append (h.cached v t e he ht (by omega))⟩
    rintro rfl
    rw [h.own_cached v] at he
    cases he

theorem setRoute_bestRoute {vs : List NodeId} (h : RoutesAreWalks topo u dv)
    (hvs : c_invalidNodeId ∉ vs) (t : NodeId) :
    RoutesAreWalks topo u (dv.setRoute t (dv.bestRoute vs t)) := by
  have hbest := dv.bestRoute_isBest vs t
  have hoffer (hlt : (dv.bestRoute vs t).distance < c_unreachableDistance) :=
    h.offer (fun heq => hvs (heq ▸ hbest.mem hlt)) (hbest.attained hlt) hlt
  refine h.setRoute (dv.bestRoute_hop_reachable vs t) (fun ht hlt => (hoffer hlt).2 ht) ?_
  intro ht
  by_contra hlt
  exact (hoffer (not_le.mp hlt)).1 ht

/-- The recomputation keeps the invariant, target by target. -/
theorem recompute (h : RoutesAreWalks topo u dv) (hu : u ∈ topo.nodes) :
    RoutesAreWalks topo u (dv.recomputeRoutesWithoutLock order).2 := by
  have hvs : c_invalidNodeId ∉ order.neighbours dv := by
    rw [order.mem_neighbours, h.wellFormed.mem_neighbours]
    exact topo.neighbours_valid u hu
  exact DistanceVector.recomputeTargets_induction (P := RoutesAreWalks topo u) _
    (fun dv t hdv => hdv.setRoute_bestRoute hvs t) false h

theorem setCache {cache : DvCache} (h : RoutesAreWalks topo u dv) (hp : p ∈ topo.neighbours u)
    (hwalk : ∀ x d, cache.lookup x = some d → x ≠ c_invalidNodeId → d < c_unreachableDistance →
      topo.graph.Walk p x d) (hown : cache.lookup u = none) :
    RoutesAreWalks topo u (dv.setCache p cache) where
  wellFormed := h.wellFormed.setCache hp
  route := h.route
  cached := by
    intro v x d hx
    by_cases hvp : v = p
    · subst hvp
      rw [DistanceVector.setCache_cached_same] at hx
      exact hwalk x d hx
    · rw [DistanceVector.setCache_cached_ne _ _ _ hvp] at hx
      exact h.cached v x d hx
  own_route := h.own_route
  own_cached := by
    intro v
    by_cases hvp : v = p
    · subst hvp
      rw [DistanceVector.setCache_cached_same]
      exact hown
    · rw [DistanceVector.setCache_cached_ne _ _ _ hvp]
      exact h.own_cached v

/-- A measurement at the link cost, or of a lost link, keeps the invariant. -/
theorem updateNeighbourDistance (h : RoutesAreWalks topo u dv) (hu : u ∈ topo.nodes)
    (hp : p ∈ topo.neighbours u) (hd : d = topo.linkCost u p ∨ d = c_unreachableDistance) :
    RoutesAreWalks topo u (dv.updateNeighbourDistance order p d).2 := by
  by_cases hguard : p = dv.m_selfNodeId ∨ p = c_invalidNodeId
  · rw [DistanceVector.updateNeighbourDistance, if_pos hguard]
    exact h
  rw [not_or, h.wellFormed.self_eq] at hguard
  obtain ⟨direct, hlink, hwf, heq⟩ :=
    h.wellFormed.updateNeighbourDistance_eq order d hp hguard.1 hguard.2
  have hset : RoutesAreWalks topo u (dv.setDirect p d) := by
    have hcaches : RoutesAreWalks topo u
        (if c_unreachableDistance ≤ d then dv.setCache p ∅ else dv) := by
      by_cases hun : c_unreachableDistance ≤ d
      · rw [if_pos hun]
        exact h.setCache hp (fun x e hx => by cases hx) rfl
      · rw [if_neg hun]
        exact h
    rw [DistanceVector.setDirect_eq]
    refine hcaches.setRoute (fun hhop => ?_) (fun _ hlt => ?_) fun hpu => absurd hpu hguard.1
    · by_contra hun
      exact hhop (if_pos (not_lt.mp hun))
    · rcases hd with rfl | rfl
      · exact .edge ⟨hu, hp, hguard.1⟩
      · exact absurd hlt (lt_irrefl _)
  have hdirect : RoutesAreWalks topo u direct := by
    refine ⟨hwf, fun x info hx => ?_, fun v x e hx => ?_, fun info hi => ?_, fun v => ?_⟩
    · exact hset.route x info ((hlink.route x).symm.trans hx)
    · exact hset.cached v x e (by rwa [DistanceVector.cached, hlink.caches] at hx)
    · exact hset.own_route info ((hlink.route u).symm.trans hi)
    · rw [DistanceVector.cached, hlink.caches]
      exact hset.own_cached v
  rw [heq]
  exact hdirect.recompute order hu

/-- The vector of a neighbour whose entries are walk costs keeps the invariant. -/
theorem updateDvInfos {m : Message} {dv : DistanceVector} (h : RoutesAreWalks topo m.receiver dv)
    (hu : m.receiver ∈ topo.nodes) (hm : AdvertisesWalks topo m) :
    RoutesAreWalks topo m.receiver (dv.updateDvInfos order m.sender m.dvInfos).2 := by
  unfold DistanceVector.updateDvInfos
  by_cases hguard : m.sender = dv.m_selfNodeId ∨ m.sender = c_invalidNodeId
  · rw [if_pos hguard]
    exact h
  rw [if_neg hguard]
  by_cases hn : m.sender ∈ dv.m_neighboursDVInfo
  · rw [if_neg (not_not.mpr hn)]
    split
    · exact h
    · refine (h.setCache ((h.wellFormed.mem_neighbours _).mp hn) (fun x d hx => ?_) ?_).recompute
        order hu
      · exact hm x d (DistanceVector.cacheOf_sound d hx).1
      · rw [h.wellFormed.self_eq, Option.eq_none_iff_forall_ne_some]
        exact fun d hd => (DistanceVector.cacheOf_sound d hd).2 rfl
  · rw [if_pos hn]
    exact h

/-- What such a node advertises are walk costs again; poisoning only raises entries to the cap. -/
theorem advertisesWalks {m : Message} (h : RoutesAreWalks topo m.sender dv)
    (hperm : m.dvInfos.Perm (dv.dvInfo m.receiver)) : AdvertisesWalks topo m := by
  intro x d hx hne hlt
  obtain ⟨_, _, info, hroute, rfl⟩ :=
    (DistanceVector.mem_dvInfo d).mp (hperm.mem_iff.mp hx)
  unfold DistanceVector.advertised at hlt ⊢
  by_cases hpoison : info.nextHop = m.receiver
  · rw [if_pos hpoison] at hlt
    exact absurd hlt (lt_irrefl _)
  · rw [if_neg hpoison] at hlt ⊢
    exact h.route x info hroute hne hlt

end RoutesAreWalks

/-- **The walk invariant** holds of every node and every captured vector of a reachable network. -/
theorem routesAreWalks_of_reachable {topo : Topology} {s : Network}
    (h : (network topo).Reachable s) :
    (∀ u ∈ topo.nodes, RoutesAreWalks topo u (s.node u)) ∧
      ∀ m ∈ s.captured, AdvertisesWalks topo m := by
  refine h.invariant (I := fun s => (∀ u ∈ topo.nodes, RoutesAreWalks topo u (s.node u)) ∧
    ∀ m ∈ s.captured, AdvertisesWalks topo m) ?_ ?_
  · rintro s rfl
    exact ⟨fun u hu => .new hu, fun m hm => by cases hm⟩
  · rintro s e s' ⟨hnodes, hmessages⟩ _ hstep
    exact network_step_rule
      (fun u hu v hv d order dv hd hdv => hdv.updateNeighbourDistance order hu hv hd)
      (fun m order dv hr hm hdv => hdv.updateDvInfos order hr hm)
      (fun m dv _ _ hperm hdv => hdv.advertisesWalks hperm) hnodes hmessages hstep

/-- **Routes are never underestimated.**  In every reachable state a table entry below the cap is the
cost of a walk to its target, hence at least the shortest distance. -/
theorem distance_walk (topo : Topology) (s : Network) (hs : (network topo).Reachable s)
    (u : NodeId) (hu : u ∈ topo.nodes) (x : NodeId) (hx : x ≠ c_invalidNodeId) (info : NodeInfo)
    (hroute : (s.node u).route x = some info) (hlt : info.distance < c_unreachableDistance) :
    topo.graph.Walk u x info.distance ∧ topo.graph.shortest u x ≤ info.distance := by
  have hwalk := ((routesAreWalks_of_reachable hs).1 u hu).route x info hroute hx hlt
  exact ⟨hwalk, WeightedGraph.shortest_le hwalk⟩

/-- Two nodes with one link of cost `5`. -/
def twoNodes : Topology where
  nodes := {"A", "B"}
  neighbours u := if u = "A" then ["B"] else ["A"]
  linkCost _ _ := 5
  nodes_valid := by decide
  neighbours_valid := by decide
  linkCost_lt := by decide

/-- `A` has measured its link to `B`. -/
def twoNodesMeasured : Network :=
  (Network.start twoNodes).setNode "A"
    (((Network.start twoNodes).node "A").updateNeighbourDistance .stored "B" 5).2

theorem twoNodesMeasured_reachable : (network twoNodes).Reachable twoNodesMeasured := by
  refine .step (a := .measure "A" "B" .stored) (.init rfl) trivial ?_
  show (Network.start twoNodes).reportDistance twoNodes "A" "B" 5 .stored = _
  exact reportDistance_eq_some.mpr ⟨by decide, rfl⟩

theorem distance_walk_twoNodes :
    twoNodes.graph.Walk "A" "B" 5 ∧ twoNodes.graph.shortest "A" "B" ≤ 5 :=
  distance_walk twoNodes twoNodesMeasured twoNodesMeasured_reachable "A" (by decide) "B" (by decide)
    ⟨"B", 5⟩ (by decide) (by decide)

end DistributedNetwork.Routing
