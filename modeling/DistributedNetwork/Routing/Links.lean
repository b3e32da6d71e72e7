import DistributedNetwork.Routing.Network

/-!
# Networks whose vectors travel in order

The session between two neighbours carries the vectors of one direction in the order in which they
were sent, each at most once; what is on the way is gone when the session ends.  A `LinkNetwork` keeps
these vectors in a queue for each direction, where a `Network` lets any captured vector arrive at any
time and any number of times.

* `links_refine` — every run of a `LinkNetwork` is a run of a `Network`, so that what holds of the routes
  there holds here;
* `HopsSplit` — below the cap the next hop is a neighbour, and the distance is that of a walk to it and
  of one on from there.
-/

namespace DistributedNetwork.Routing

open DistributedNetwork.Library

structure LinkNetwork where
  node : NodeId → DistanceVector
  /-- `link v u`: the vectors on their way from `v` to `u`, oldest first -/
  link : NodeId → NodeId → List (List (NodeId × ℕ))

inductive LinkEvent where
  | measure (node neighbour : NodeId) (order : IterationOrder)
  | lose (node neighbour : NodeId) (order : IterationOrder)
  /-- `sendDistanceVector` turns to one neighbour -/
  | send (sender receiver : NodeId) (dvInfos : List (NodeId × ℕ))
  | receive (sender receiver : NodeId) (order : IterationOrder)
  /-- the session ends -/
  | disconnect (sender receiver : NodeId)

namespace LinkNetwork

variable (topo : Topology)

def start : LinkNetwork where
  node u := .new u (topo.neighbours u)
  link _ _ := []

def setNode (s : LinkNetwork) (u : NodeId) (dv : DistanceVector) : LinkNetwork :=
  { s with node := Function.update s.node u dv }

def setLink (s : LinkNetwork) (v u : NodeId) (queue : List (List (NodeId × ℕ))) : LinkNetwork :=
  { s with link := Function.update s.link v (Function.update (s.link v) u queue) }

def reportDistance (s : LinkNetwork) (u v : NodeId) (distance : ℕ) (order : IterationOrder) :
    Option LinkNetwork :=
  if u ∈ topo.nodes ∧ v ∈ topo.neighbours u then
    some (s.setNode u ((s.node u).updateNeighbourDistance order v distance).2)
  else none

/-- The table is a hash map, so the entries of the vector come in any order. -/
def send (s : LinkNetwork) (v u : NodeId) (dvInfos : List (NodeId × ℕ)) : Option LinkNetwork :=
  if v ∈ topo.nodes ∧ u ∈ topo.neighbours v ∧ dvInfos.Perm ((s.node v).dvInfo u) then
    some (s.setLink v u (s.link v u ++ [dvInfos]))
  else none

def receive (s : LinkNetwork) (v u : NodeId) (order : IterationOrder) : Option LinkNetwork :=
  match s.link v u with
  | [] => none
  | dvInfos :: queue =>
    if u ∈ topo.nodes then
      some ((s.setNode u ((s.node u).updateDvInfos order v dvInfos).2).setLink v u queue)
    else none

def step (s : LinkNetwork) : LinkEvent → Option LinkNetwork
  | .measure u v order => s.reportDistance topo u v (topo.linkCost u v) order
  | .lose u v order => s.reportDistance topo u v c_unreachableDistance order
  | .send v u dvInfos => s.send topo v u dvInfos
  | .receive v u order => s.receive topo v u order
  | .disconnect v u => some (s.setLink v u [])

end LinkNetwork

def linkNetwork (topo : Topology) : TransitionSystem LinkNetwork LinkEvent where
  init s := s = .start topo
  step := LinkNetwork.step topo

/-! ### What a step can do -/

section StepCases

variable {topo : Topology} {s s' : LinkNetwork} {u v a b : NodeId} {d : ℕ} {order : IterationOrder}
variable {dvInfos : List (NodeId × ℕ)}

namespace LinkNetwork

@[simp] theorem setNode_same (s : LinkNetwork) (u : NodeId) (dv : DistanceVector) :
    (s.setNode u dv).node u = dv :=
  Function.update_self _ _ _

theorem setNode_ne (s : LinkNetwork) (dv : DistanceVector) (h : v ≠ u) :
    (s.setNode u dv).node v = s.node v :=
  Function.update_of_ne h _ _

@[simp] theorem setLink_node (s : LinkNetwork) (v u : NodeId) (queue : List (List (NodeId × ℕ))) :
    (s.setLink v u queue).node = s.node :=
  rfl

@[simp] theorem setLink_same (s : LinkNetwork) (v u : NodeId) (queue : List (List (NodeId × ℕ))) :
    (s.setLink v u queue).link v u = queue := by
  simp only [setLink, Function.update_self]

theorem setLink_ne (s : LinkNetwork) (queue : List (List (NodeId × ℕ))) (h : ¬ (a = v ∧ b = u)) :
    (s.setLink v u queue).link a b = s.link a b := by
  by_cases ha : a = v
  · subst ha
    have hb : b ≠ u := fun hb => h ⟨rfl, hb⟩
    simp only [setLink, Function.update_self, Function.update_of_ne hb]
  · simp only [setLink, Function.update_of_ne ha]

theorem reportDistance_eq_some : s.reportDistance topo u v d order = some s' ↔
    (u ∈ topo.nodes ∧ v ∈ topo.neighbours u) ∧
      s.setNode u ((s.node u).updateNeighbourDistance order v d).2 = s' := by
  rw [reportDistance, Option.ite_none_right_eq_some, Option.some.injEq]

theorem send_eq_some : s.send topo v u dvInfos = some s' ↔
    (v ∈ topo.nodes ∧ u ∈ topo.neighbours v ∧ dvInfos.Perm ((s.node v).dvInfo u)) ∧
      s.setLink v u (s.link v u ++ [dvInfos]) = s' := by
  rw [send, Option.ite_none_right_eq_some, Option.some.injEq]

theorem receive_eq_some : s.receive topo v u order = some s' ↔
    ∃ dvInfos queue, s.link v u = dvInfos :: queue ∧ u ∈ topo.nodes ∧
      (s.setNode u ((s.node u).updateDvInfos order v dvInfos).2).setLink v u queue = s' := by
  unfold receive
  cases hlink : s.link v u with
  | nil => simp only [reduceCtorEq, false_and, exists_false]
  | cons dvInfos queue =>
    simp only [Option.ite_none_right_eq_some, Option.some.injEq, List.cons.injEq]
    constructor
    · rintro ⟨hu, heq⟩
      exact ⟨dvInfos, queue, ⟨rfl, rfl⟩, hu, heq⟩
    · rintro ⟨_, _, ⟨rfl, rfl⟩, hu, heq⟩
      exact ⟨hu, heq⟩

end LinkNetwork

/-! Which steps are enabled. -/

theorem step_measure (hu : u ∈ topo.nodes) (hv : v ∈ topo.neighbours u) (order : IterationOrder) :
    (linkNetwork topo).step s (.measure u v order) =
      some (s.setNode u ((s.node u).updateNeighbourDistance order v (topo.linkCost u v)).2) :=
  LinkNetwork.reportDistance_eq_some.mpr ⟨⟨hu, hv⟩, rfl⟩

theorem step_send (hv : v ∈ topo.nodes) (hu : u ∈ topo.neighbours v)
    (hperm : dvInfos.Perm ((s.node v).dvInfo u)) : (linkNetwork topo).step s (.send v u dvInfos) =
      some (s.setLink v u (s.link v u ++ [dvInfos])) :=
  LinkNetwork.send_eq_some.mpr ⟨⟨hv, hu, hperm⟩, rfl⟩

theorem step_receive {queue : List (List (NodeId × ℕ))} (hlink : s.link v u = dvInfos :: queue)
    (hu : u ∈ topo.nodes) (order : IterationOrder) : (linkNetwork topo).step s (.receive v u order) =
      some ((s.setNode u ((s.node u).updateDvInfos order v dvInfos).2).setLink v u queue) :=
  LinkNetwork.receive_eq_some.mpr ⟨dvInfos, queue, hlink, hu, rfl⟩

end StepCases

/-! ### Refinement -/

/-- The nodes agree, and every vector on the way has been captured. -/
structure Captures (s : LinkNetwork) (t : Network) : Prop where
  node : s.node = t.node
  link : ∀ v u dvInfos, dvInfos ∈ s.link v u → ⟨v, u, dvInfos⟩ ∈ t.captured

section Refinement

variable {topo : Topology} {s s' : LinkNetwork} {t : Network}

theorem Captures.setNode (h : Captures s t) (u : NodeId) (dv : DistanceVector) :
    Captures (s.setNode u dv) (t.setNode u dv) where
  node := by
    show Function.update s.node u dv = Function.update t.node u dv
    rw [h.node]
  link := h.link

/-- A queue that holds captured vectors only. -/
theorem Captures.setLink (h : Captures s t) {v u : NodeId} {queue : List (List (NodeId × ℕ))}
    (hqueue : ∀ dvInfos ∈ queue, ⟨v, u, dvInfos⟩ ∈ t.captured) : Captures (s.setLink v u queue) t where
  node := h.node
  link := by
    intro a b dvInfos hmem
    by_cases hab : a = v ∧ b = u
    · obtain ⟨rfl, rfl⟩ := hab
      rw [LinkNetwork.setLink_same] at hmem
      exact hqueue dvInfos hmem
    · rw [LinkNetwork.setLink_ne _ _ hab] at hmem
      exact h.link a b dvInfos hmem

/-- A step over links is matched by one step between captured vectors, or by none. -/
theorem Captures.step (h : Captures s t) (ht : (network topo).Reachable t) {e : LinkEvent}
    (hstep : (linkNetwork topo).step s e = some s') :
    ∃ t', (network topo).Reachable t' ∧ Captures s' t' := by
  cases e with
  | measure u v order =>
    obtain ⟨hlink, rfl⟩ := LinkNetwork.reportDistance_eq_some.mp hstep
    refine ⟨_, .step (a := .measure u v order) ht trivial (reportDistance_eq_some.mpr ⟨hlink, rfl⟩), ?_⟩
    rw [h.node]
    exact h.setNode u _
  | lose u v order =>
    obtain ⟨hlink, rfl⟩ := LinkNetwork.reportDistance_eq_some.mp hstep
    refine ⟨_, .step (a := .lose u v order) ht trivial (reportDistance_eq_some.mpr ⟨hlink, rfl⟩), ?_⟩
    rw [h.node]
    exact h.setNode u _
  | send v u dvInfos =>
    obtain ⟨⟨hv, hu, hperm⟩, rfl⟩ := LinkNetwork.send_eq_some.mp hstep
    rw [h.node] at hperm
    refine ⟨_, .step (a := .capture ⟨v, u, dvInfos⟩) ht trivial
      (capture_eq_some.mpr ⟨⟨hv, hu, hperm⟩, rfl⟩), ?_⟩
    have hcaptured : Captures s { t with captured := ⟨v, u, dvInfos⟩ :: t.captured } :=
      ⟨h.node, fun a b infos hmem => List.mem_cons_of_mem _ (h.link a b infos hmem)⟩
    refine hcaptured.setLink fun infos hmem => ?_
    rcases List.mem_append.mp hmem with hmem | hmem
    · exact hcaptured.link v u infos hmem
    · cases List.mem_singleton.mp hmem
      exact List.mem_cons_self
  | receive v u order =>
    obtain ⟨dvInfos, queue, hqueue, hu, rfl⟩ := LinkNetwork.receive_eq_some.mp hstep
    have hcaptured (infos : List (NodeId × ℕ)) (hmem : infos ∈ dvInfos :: queue) :
        ⟨v, u, infos⟩ ∈ t.captured := h.link v u infos (hqueue ▸ hmem)
    refine ⟨_, .step (a := .deliver ⟨v, u, dvInfos⟩ order) ht trivial
      (deliver_eq_some.mpr ⟨⟨hcaptured dvInfos List.mem_cons_self, hu⟩, rfl⟩), ?_⟩
    rw [h.node]
    exact (h.setNode u _).setLink fun infos hmem => hcaptured infos (List.mem_cons_of_mem _ hmem)
  | disconnect v u =>
    cases hstep
    exact ⟨t, ht, h.setLink fun _ hmem => by cases hmem⟩

/-- **Vectors that travel in order are captured vectors**: the nodes of a reachable `LinkNetwork` are
those of a reachable `Network` in which everything on the way has been captured. -/
theorem links_refine (h : (linkNetwork topo).Reachable s) :
    ∃ t, (network topo).Reachable t ∧ Captures s t := by
  refine h.invariant (I := fun s => ∃ t, (network topo).Reachable t ∧ Captures s t) ?_ ?_
  · rintro s rfl
    exact ⟨.start topo, .init rfl, rfl, fun _ _ _ hmem => by cases hmem⟩
  · rintro s e s' ⟨t, ht, hcaptures⟩ _ hstep
    exact hcaptures.step ht hstep

theorem routesAreWalks_of_linked (h : (linkNetwork topo).Reachable s) {u : NodeId}
    (hu : u ∈ topo.nodes) : RoutesAreWalks topo u (s.node u) := by
  obtain ⟨t, ht, hcaptures⟩ := links_refine h
  rw [hcaptures.node]
  exact (routesAreWalks_of_reachable ht).1 u hu

end Refinement

/-! ### The distance splits at the next hop -/

/-- Below the cap a distance is that of a walk to the next hop, a neighbour, and of a walk from there. -/
def HopsSplit (topo : Topology) (u : NodeId) (dv : DistanceVector) : Prop :=
  ∀ x info, dv.route x = some info → x ≠ c_invalidNodeId → info.distance < c_unreachableDistance →
    topo.graph.adj u info.nextHop ∧
      ∃ c e, topo.graph.Walk u info.nextHop c ∧ topo.graph.Walk info.nextHop x e ∧ info.distance = c + e

section HopsSplit

variable {topo : Topology} {u p : NodeId} {dv : DistanceVector} {d : ℕ} (order : IterationOrder)

/-- Every slot that the recomputation reads is the cost of a walk, whether it has been overwritten
already or not. -/
theorem HopsSplit.recompute {base : DistanceVector} (hu : u ∈ topo.nodes)
    (hn : ∀ v, v ∈ base.neighbours ↔ v ∈ topo.neighbours u)
    (hbase : ∀ v info, base.route v = some info → v ≠ c_invalidNodeId →
      info.distance < c_unreachableDistance → topo.graph.Walk u v info.distance)
    (hown : ∀ info, base.route u = some info → c_unreachableDistance ≤ info.distance)
    (hresult : RoutesAreWalks topo u (base.recomputeRoutesWithoutLock order).2) :
    HopsSplit topo u (base.recomputeRoutesWithoutLock order).2 := by
  intro x info hroute hx hlt
  obtain ⟨mid, hcache, _, hother, rfl⟩ := DistanceVector.recompute_route order hroute
  have hbest := mid.bestRoute_isBest (order.neighbours base) x
  obtain ⟨slot, hslot, hslotlt, hcase⟩ := DistanceVector.offer_eq_some_iff.mp (hbest.attained hlt)
  have hmem : (mid.bestRoute (order.neighbours base) x).nextHop ∈ topo.neighbours u :=
    (hn _).mp ((order.mem_neighbours base _).mp (hbest.mem hlt))
  have hhop : (mid.bestRoute (order.neighbours base) x).nextHop ≠ c_invalidNodeId := fun heq =>
    topo.neighbours_valid u hu (heq ▸ hmem)
  have hself : (mid.bestRoute (order.neighbours base) x).nextHop ≠ u := by
    intro heq
    rw [heq] at hslot
    have hun : c_unreachableDistance ≤ slot.distance := by
      rcases hother u with hsame | hsame
      · exact hown slot (hsame.symm.trans hslot)
      · exact hresult.own_route slot (hsame.symm.trans hslot)
    omega
  have hwalk : topo.graph.Walk u (mid.bestRoute (order.neighbours base) x).nextHop slot.distance := by
    rcases hother (mid.bestRoute (order.neighbours base) x).nextHop with hsame | hsame
    · exact hbase _ slot (hsame.symm.trans hslot) hhop hslotlt
    · exact hresult.route _ slot (hsame.symm.trans hslot) hhop hslotlt
  refine ⟨⟨hu, hmem, hself⟩, ?_⟩
  rcases hcase with ⟨heq, hd⟩ | ⟨_, e, he, hd⟩
  · refine ⟨slot.distance, 0, hwalk, ?_, by omega⟩
    rw [heq]
    exact .nil x
  · have hcached : (base.recomputeRoutesWithoutLock order).2.cached
        (mid.bestRoute (order.neighbours base) x).nextHop x = some e := by
      rw [DistanceVector.cached, DistanceVector.recompute_neighboursDVInfo, ← hcache]
      exact he
    exact ⟨slot.distance, e, hwalk, hresult.cached _ x e hcached hx (by omega), by omega⟩

theorem HopsSplit.updateNeighbourDistance (h : HopsSplit topo u dv) (hdv : RoutesAreWalks topo u dv)
    (hu : u ∈ topo.nodes) (hp : p ∈ topo.neighbours u)
    (hd : d = topo.linkCost u p ∨ d = c_unreachableDistance) :
    HopsSplit topo u (dv.updateNeighbourDistance order p d).2 := by
  by_cases hguard : p = dv.m_selfNodeId ∨ p = c_invalidNodeId
  · rw [DistanceVector.updateNeighbourDistance, if_pos hguard]
    exact h
  rw [not_or, hdv.wellFormed.self_eq] at hguard
  obtain ⟨direct, hlink, hwf, heq⟩ :=
    hdv.wellFormed.updateNeighbourDistance_eq order d hp hguard.1 hguard.2
  have hresult := hdv.updateNeighbourDistance order hu hp hd
  rw [heq] at hresult ⊢
  refine .recompute order hu hwf.mem_neighbours (fun v info hv hne hlt => ?_) (fun info hv => ?_) hresult
  · rw [hlink.route] at hv
    by_cases hvp : v = p
    · subst hvp
      rw [DistanceVector.setDirect_route_same] at hv
      cases hv
      rcases hd with rfl | rfl
      · exact .edge ⟨hu, hp, hguard.1⟩
      · exact absurd hlt (lt_irrefl _)
    · rw [DistanceVector.setDirect_route_ne _ _ hvp] at hv
      exact hdv.route v info hv hne hlt
  · rw [hlink.route, DistanceVector.setDirect_route_ne _ _ (Ne.symm hguard.1)] at hv
    exact hdv.own_route info hv

theorem HopsSplit.updateDvInfos {m : Message} {dv : DistanceVector} (h : HopsSplit topo m.receiver dv)
    (hdv : RoutesAreWalks topo m.receiver dv) (hu : m.receiver ∈ topo.nodes)
    (hm : AdvertisesWalks topo m) :
    HopsSplit topo m.receiver (dv.updateDvInfos order m.sender m.dvInfos).2 := by
  have hresult := hdv.updateDvInfos order hu hm
  by_cases haccepted : m.sender ≠ m.receiver ∧ m.sender ≠ c_invalidNodeId ∧
      m.sender ∈ topo.neighbours m.receiver
  · obtain ⟨hself, hne, hn⟩ := haccepted
    rw [hdv.wellFormed.updateDvInfos_eq order m.dvInfos hn hself hne] at hresult ⊢
    exact .recompute order hu (hdv.wellFormed.setCache hn).mem_neighbours
      (fun v info hv => hdv.route v info hv) (fun info hv => hdv.own_route info hv) hresult
  · have hrejected : (dv.updateDvInfos order m.sender m.dvInfos).2 = dv := by
      unfold DistanceVector.updateDvInfos
      by_cases hguard : m.sender = dv.m_selfNodeId ∨ m.sender = c_invalidNodeId
      · rw [if_pos hguard]
      · rw [if_neg hguard, if_pos]
        rw [not_or, hdv.wellFormed.self_eq] at hguard
        exact fun hmem => haccepted ⟨hguard.1, hguard.2, (hdv.wellFormed.mem_neighbours _).mp hmem⟩
    rw [hrejected]
    exact h

theorem HopsSplit.new : HopsSplit topo u (.new u (topo.neighbours u)) := by
  intro x info hroute hx hlt
  rw [DistanceVector.new_route, if_neg hx] at hroute
  split at hroute
  · cases hroute
    exact absurd hlt (lt_irrefl _)
  · cases hroute

/-- What `dvInfo` gives away: every target once, and not the receiver. -/
def DistinctTargets (m : Message) : Prop :=
  (m.dvInfos.map Prod.fst).Nodup ∧ m.receiver ∉ m.dvInfos.map Prod.fst

theorem distinctTargets_of_perm {m : Message} (h : m.dvInfos.Perm (dv.dvInfo m.receiver)) :
    DistinctTargets m := by
  have hkeys := h.map Prod.fst
  refine ⟨hkeys.nodup_iff.mpr (DistanceVector.dvInfo_keys_nodup dv m.receiver), fun hmem => ?_⟩
  obtain ⟨pair, hpair, hfst⟩ := List.mem_map.mp (hkeys.mem_iff.mp hmem)
  exact ((DistanceVector.mem_dvInfo pair.2).mp hpair).2.1 hfst

theorem hopsSplit_of_reachable {s : Network} (h : (network topo).Reachable s) :
    (∀ u ∈ topo.nodes, RoutesAreWalks topo u (s.node u) ∧ HopsSplit topo u (s.node u)) ∧
      ∀ m ∈ s.captured, AdvertisesWalks topo m ∧ DistinctTargets m := by
  refine h.invariant (I := fun s =>
    (∀ u ∈ topo.nodes, RoutesAreWalks topo u (s.node u) ∧ HopsSplit topo u (s.node u)) ∧
      ∀ m ∈ s.captured, AdvertisesWalks topo m ∧ DistinctTargets m) ?_ ?_
  · rintro s rfl
    exact ⟨fun u hu => ⟨.new hu, .new⟩, fun m hm => by cases hm⟩
  · rintro s e s' ⟨hnodes, hmessages⟩ _ hstep
    exact network_step_rule (P := fun u dv => RoutesAreWalks topo u dv ∧ HopsSplit topo u dv)
      (Q := fun m => AdvertisesWalks topo m ∧ DistinctTargets m)
      (fun u hu v hv d order dv hd hdv =>
        ⟨hdv.1.updateNeighbourDistance order hu hv hd,
          hdv.2.updateNeighbourDistance order hdv.1 hu hv hd⟩)
      (fun m order dv hr hm hdv =>
        ⟨hdv.1.updateDvInfos order hr hm.1, hdv.2.updateDvInfos order hdv.1 hr hm.1⟩)
      (fun m dv _ _ hperm hdv => ⟨hdv.1.advertisesWalks hperm, distinctTargets_of_perm hperm⟩)
      hnodes hmessages hstep

end HopsSplit

end DistributedNetwork.Routing
