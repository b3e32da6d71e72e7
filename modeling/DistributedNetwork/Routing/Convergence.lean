import DistributedNetwork.Routing.Network

/-!
# Converged routes forward at the advertised cost

In a `Quiescent` network every cache holds the current vector of its neighbour, and measuring a link
or delivering that vector once more changes no table.  The tables are then a fixed point:

* `Quiescent.isBest` — every entry is the best offer over the **current** tables of the neighbours;
* `Quiescent.detour_lt` — a neighbour that is cheaper to reach indirectly is reached over a
  **smaller** identifier;
* `Quiescent.le_walk` — no walk is cheaper than the entry of its target.

Together with the walk invariant this makes the link to the next hop the cheapest way to it
(`Quiescent.slot_nextHop`): otherwise the detour would be an equally good first hop with a smaller
identifier.  Following the next hops therefore spends exactly the recorded distance.

The exception is the entry that the constructor keys by the empty string: it is at distance `0`
until the first recomputation, and a node without a link never recomputes (`forwards_iff`).
-/

namespace DistributedNetwork.Routing

open DistributedNetwork.Library

/-- Links exist in both directions, inside the network, at one positive cost. -/
structure Topology.Symmetric (topo : Topology) : Prop where
  mem_nodes : ∀ u ∈ topo.nodes, ∀ v ∈ topo.neighbours u, v ∈ topo.nodes
  neighbours : ∀ u ∈ topo.nodes, ∀ v ∈ topo.neighbours u, u ∈ topo.neighbours v
  linkCost_eq : ∀ u ∈ topo.nodes, ∀ v ∈ topo.neighbours u, topo.linkCost u v = topo.linkCost v u
  linkCost_pos : ∀ u ∈ topo.nodes, ∀ v ∈ topo.neighbours u, 0 < topo.linkCost u v

/-- Nothing is left to do: caches are current, and repeating a measurement or a delivery leaves every
table entry as it is.  One traversal order for each repetition is enough. -/
structure Quiescent (topo : Topology) (s : Network) : Prop where
  cached_iff : ∀ u v, topo.graph.adj u v → ∀ x d,
    (s.node u).cached v x = some d ↔ (x, d) ∈ (s.node v).dvInfo u
  measured : ∀ u v, topo.graph.adj u v → ∃ order, ∀ x,
    ((s.node u).updateNeighbourDistance order v (topo.linkCost u v)).2.route x = (s.node u).route x
  delivered : ∀ u v, topo.graph.adj u v → ∃ order, ∀ x,
    ((s.node u).updateDvInfos order v ((s.node v).dvInfo u)).2.route x = (s.node u).route x

/-- `Forwards topo s x u d`: following the next hops for `x` from `u` reaches `x`, and the links on
the way cost `d` together. -/
inductive Forwards (topo : Topology) (s : Network) (x : NodeId) : NodeId → ℕ → Prop
  | arrived : Forwards topo s x x 0
  | hop {u : NodeId} {info : NodeInfo} {d : ℕ} : u ≠ x → (s.node u).route x = some info →
      topo.graph.adj u info.nextHop → Forwards topo s x info.nextHop d →
        Forwards topo s x u (topo.linkCost u info.nextHop + d)

/-! ### The tables of a quiescent network are a fixed point -/

section FixedPoint

variable {topo : Topology} {s : Network} {u v x : NodeId} {info i : NodeInfo} {c d : ℕ}

theorem adj_symm (hsym : topo.Symmetric) (h : topo.graph.adj u v) : topo.graph.adj v u :=
  ⟨hsym.mem_nodes u h.1 v h.2.1, hsym.neighbours u h.1 v h.2.1, h.2.2.symm⟩

theorem adj_valid (h : topo.graph.adj u v) : v ≠ c_invalidNodeId := fun heq =>
  topo.neighbours_valid u h.1 (heq ▸ h.2.1)

theorem walk_pos (hsym : topo.Symmetric) (hw : topo.graph.Walk u x d) (hne : u ≠ x) : 0 < d := by
  refine hw.pos ?_ hne
  intro v w h
  exact hsym.linkCost_pos v h.1 w h.2.1

/-- A cached entry below the cap is the current entry of the neighbour, learned from elsewhere. -/
theorem Quiescent.route_of_cached_lt (hq : Quiescent topo s) (h : topo.graph.adj u v)
    (hcached : (s.node u).cached v x = some d) (hlt : d < c_unreachableDistance) :
    ∃ info, (s.node v).route x = some info ∧ info.distance = d ∧ info.nextHop ≠ u := by
  obtain ⟨_, _, info, hroute, hd⟩ :=
    (DistanceVector.mem_dvInfo d).mp ((hq.cached_iff u v h x d).mp hcached)
  unfold DistanceVector.advertised at hd
  by_cases hpoison : info.nextHop = u
  · rw [if_pos hpoison] at hd
    omega
  · rw [if_neg hpoison] at hd
    exact ⟨info, hroute, hd.symm, hpoison⟩

variable (hs : (network topo).Reachable s) (hq : Quiescent topo s)

include hs hq

/-- The state in which a repeated delivery recomputes has the caches that are there already. -/
theorem Quiescent.redelivered (h : topo.graph.adj u v) :
    ∃ base : DistanceVector, ∃ order : IterationOrder,
      (∀ x, base.route x = (s.node u).route x) ∧
      (∀ w x, base.cached w x = (s.node u).cached w x) ∧
      (∀ w, w ∈ base.neighbours ↔ w ∈ topo.neighbours u) ∧
      ∀ x, (base.recomputeRoutesWithoutLock order).2.route x = (s.node u).route x := by
  obtain ⟨order, hsame⟩ := hq.delivered u v h
  have hwalks := (routesAreWalks_of_reachable hs).1
  have hwf := (hwalks u h.1).wellFormed
  have heq := hwf.updateDvInfos_eq order ((s.node v).dvInfo u) h.2.1 h.2.2 (adj_valid h)
  refine ⟨(s.node u).setCache v (DistanceVector.cacheOf u ((s.node v).dvInfo u)), order,
    fun x => rfl, fun w x => ?_, ?_, ?_⟩
  · by_cases hwv : w = v
    · subst hwv
      rw [DistanceVector.setCache_cached_same]
      ext d
      have hself : u ∉ ((s.node w).dvInfo u).map Prod.fst := by
        intro hmem
        obtain ⟨pair, hpair, hfst⟩ := List.mem_map.mp hmem
        exact ((DistanceVector.mem_dvInfo pair.2).mp hpair).2.1 hfst
      exact (DistanceVector.cacheOf_lookup_iff d
        (DistanceVector.dvInfo_keys_nodup (s.node w) u) hself).trans (hq.cached_iff u w h x d).symm
    · exact DistanceVector.setCache_cached_ne _ _ _ hwv
  · intro w
    exact (hwf.setCache h.2.1).mem_neighbours w
  · rw [heq] at hsame
    exact hsame

/-- **Every entry is the best offer of the current tables.** -/
theorem Quiescent.isBest (h : topo.graph.adj u v) (hroute : (s.node u).route x = some info) :
    IsBest c_unreachableDistance c_invalidNodeId ((s.node u).offer x) (topo.neighbours u)
      info.distance info.nextHop := by
  obtain ⟨base, order, hr, hc, hn, hsame⟩ := hq.redelivered hs h
  obtain ⟨mid, hcache, _, hother, rfl⟩ :=
    DistanceVector.recompute_route order ((hsame x).trans hroute)
  have hoffer : mid.offer x = (s.node u).offer x := by
    funext w
    apply DistanceVector.offer_congr
    · rcases hother w with hw | hw
      · exact hw.trans (hr w)
      · exact hw.trans (hsame w)
    · rw [DistanceVector.cached, hcache]
      exact hc w x
  have hbest := mid.bestRoute_isBest (order.neighbours base) x
  rw [hoffer] at hbest
  exact hbest.congr_ids fun w => (order.mem_neighbours base w).trans (hn w)

/-- Whatever a neighbour advertises is a target of the table. -/
theorem Quiescent.route_of_cached (h : topo.graph.adj u v)
    (hcached : (s.node u).cached v x = some d) : ∃ info, (s.node u).route x = some info := by
  obtain ⟨base, order, _, hc, _, hsame⟩ := hq.redelivered hs h
  have hmem : x ∈ base.targetNodes := by
    refine DistanceVector.mem_targetNodes.mpr (.inr (.inr ⟨v, ?_⟩))
    rw [hc, hcached]
    rfl
  have hsome := DistanceVector.recompute_route_isSome order hmem
  rw [hsame] at hsome
  exact Option.isSome_iff_exists.mp hsome

/-- Measuring a link again would write its cost into the slot, so the slot is no more than that, and
if it is less then another neighbour is the way to this one. -/
theorem Quiescent.remeasured (h : topo.graph.adj u v) (hroute : (s.node u).route v = some info) :
    info.distance ≤ topo.linkCost u v ∧
      (info.distance < topo.linkCost u v → info.nextHop ≠ v) := by
  obtain ⟨order, hsame⟩ := hq.measured u v h
  have hwf := ((routesAreWalks_of_reachable hs).1 u h.1).wellFormed
  have hcost : topo.linkCost u v < c_unreachableDistance := topo.linkCost_lt u h.1 v h.2.1
  obtain ⟨direct, hlink, hdirect, heq⟩ := hwf.updateNeighbourDistance_eq order
    (topo.linkCost u v) h.2.1 h.2.2 (adj_valid h)
  rw [heq] at hsame
  obtain ⟨mid, _, hmid, _, rfl⟩ := DistanceVector.recompute_route order ((hsame v).trans hroute)
  have hslot : mid.offer v v = some (topo.linkCost u v) := by
    refine DistanceVector.offer_eq_some_iff.mpr ⟨⟨v, topo.linkCost u v⟩, ?_, hcost, .inl ⟨rfl, rfl⟩⟩
    rw [hmid, hlink.route, DistanceVector.setDirect_route_same, if_neg (not_le.mpr hcost)]
  have hbest := mid.bestRoute_isBest (order.neighbours direct) v
  have hv : v ∈ order.neighbours direct := by
    rw [order.mem_neighbours, hdirect.mem_neighbours]
    exact h.2.1
  refine ⟨hbest.le_offer v hv _ hslot, fun hlt hhop => ?_⟩
  have hatt := hbest.attained (hlt.trans hcost)
  rw [hhop, hslot, Option.some.injEq] at hatt
  omega

/-- **The tie break.**  A neighbour that is cheaper to reach indirectly is reached over a smaller
identifier, because the neighbour itself offers the same distance. -/
theorem Quiescent.detour_lt (h : topo.graph.adj u v) (hroute : (s.node u).route v = some info)
    (hlt : info.distance < topo.linkCost u v) : info.nextHop < v := by
  have hcost : topo.linkCost u v < c_unreachableDistance := topo.linkCost_lt u h.1 v h.2.1
  have hbest := hq.isBest hs h hroute
  have hself : (s.node u).offer v v = some info.distance :=
    DistanceVector.offer_eq_some_iff.mpr ⟨info, hroute, hlt.trans hcost, .inl ⟨rfl, rfl⟩⟩
  have hle := hbest.least (hlt.trans hcost) v h.2.1 hself
  exact lt_of_le_of_ne hle ((hq.remeasured hs h hroute).2 hlt)

/-- What a next hop other than the target accounts for: its slot and its own current entry. -/
theorem Quiescent.via_nextHop (h : topo.graph.adj u v) (hroute : (s.node u).route x = some info)
    (hlt : info.distance < c_unreachableDistance) (hhop : info.nextHop ≠ x) :
    ∃ slot i, topo.graph.adj u info.nextHop ∧ (s.node u).route info.nextHop = some slot ∧
      (s.node info.nextHop).route x = some i ∧ i.nextHop ≠ u ∧
        info.distance = slot.distance + i.distance := by
  have hbest := hq.isBest hs h hroute
  obtain ⟨slot, hslot, hslotlt, hcase⟩ :=
    DistanceVector.offer_eq_some_iff.mp (hbest.attained hlt)
  rcases hcase with ⟨heq, _⟩ | ⟨_, e, he, hsum⟩
  · exact absurd heq hhop
  have hself : info.nextHop ≠ u := by
    intro heq
    rw [heq] at hslot
    have := ((routesAreWalks_of_reachable hs).1 u h.1).own_route slot hslot
    omega
  have hadj : topo.graph.adj u info.nextHop := ⟨h.1, hbest.mem hlt, hself⟩
  obtain ⟨i, hi, hie, hne⟩ := hq.route_of_cached_lt hadj he (by omega)
  exact ⟨slot, i, hadj, hslot, hi, hne, by omega⟩

variable (hsym : topo.Symmetric)

include hsym

/-- Conversely an entry of the neighbour that was learned from elsewhere is cached. -/
theorem Quiescent.cached_of_route (h : topo.graph.adj u v) (hx : x ≠ u)
    (hroute : (s.node v).route x = some info) (hhop : info.nextHop ≠ u) :
    (s.node u).cached v x = some info.distance := by
  have hself : (s.node v).m_selfNodeId = v :=
    ((routesAreWalks_of_reachable hs).1 v (hsym.mem_nodes u h.1 v h.2.1)).wellFormed.self_eq
  refine (hq.cached_iff u v h x info.distance).mpr ((DistanceVector.mem_dvInfo _).mpr ?_)
  refine ⟨fun heq => h.2.2 (heq.trans hself).symm, hx, info, hroute, ?_⟩
  rw [DistanceVector.advertised, if_neg hhop]

/-- **No walk is cheaper than the entry of its target**, by induction on the walk.  Where the
neighbour has poisoned the target, its own entry already leads over this node. -/
theorem Quiescent.le_walk (hu : u ∈ topo.nodes) (hw : topo.graph.Walk u x c)
    (hc : c < c_unreachableDistance) (hne : x ≠ u) (hx : x ≠ c_invalidNodeId) :
    ∃ info, (s.node u).route x = some info ∧ info.distance ≤ c := by
  induction hw with
  | nil => exact absurd rfl hne
  | @cons u v x d hadj _ ih =>
    have hwalks := (routesAreWalks_of_reachable hs).1 u hu
    obtain ⟨slot, hslot⟩ := Option.isSome_iff_exists.mp (hwalks.wellFormed.slot v hadj.2.1)
    have hle : slot.distance ≤ topo.linkCost u v := (hq.remeasured hs hadj hslot).1
    have hcost : topo.graph.cost u v = topo.linkCost u v := rfl
    by_cases hxv : x = v
    · subst hxv
      exact ⟨slot, hslot, by omega⟩
    obtain ⟨i, hi, hid⟩ := ih (hsym.mem_nodes u hu v hadj.2.1) (by omega) hxv hx
    by_cases hpoison : i.nextHop = u
    · obtain ⟨_, j, _, _, hj, _, hsum⟩ := hq.via_nextHop hs (adj_symm hsym hadj) hi (by omega)
        (by rw [hpoison]; exact hne.symm)
      rw [hpoison] at hj
      exact ⟨j, hj, by omega⟩
    · have hcached := hq.cached_of_route hs hsym hadj hne hi hpoison
      obtain ⟨info, hinfo⟩ := hq.route_of_cached hs hadj hcached
      have hoffer : (s.node u).offer x v =
          some (min c_unreachableDistance (slot.distance + i.distance)) :=
        DistanceVector.offer_eq_some_iff.mpr
          ⟨slot, hslot, by omega, .inr ⟨fun h => hxv h.symm, _, hcached, rfl⟩⟩
      have := (hq.isBest hs hadj hinfo).le_offer v hadj.2.1 _ hoffer
      exact ⟨info, hinfo, by omega⟩

/-- A first hop that is as good as the entry **offers** the distance of the entry: were its own entry
poisoned, it would lead over this node and cost more. -/
theorem Quiescent.offer_of_walk {slot : NodeInfo} (hadj : topo.graph.adj u v)
    (hslot : (s.node u).route v = some slot) (hw : topo.graph.Walk v x c)
    (hx : x ≠ c_invalidNodeId) (hne : x ≠ u) (hroute : (s.node u).route x = some info)
    (hlt : info.distance < c_unreachableDistance) (hle : slot.distance + c ≤ info.distance) :
    (s.node u).offer x v = some info.distance := by
  have hpos : 0 < slot.distance := by
    have hwalk := ((routesAreWalks_of_reachable hs).1 u hadj.1).route v slot hslot (adj_valid hadj)
      (by omega)
    exact walk_pos hsym hwalk hadj.2.2.symm
  have hbest := hq.isBest hs hadj hroute
  by_cases hvx : v = x
  · have hoffer : (s.node u).offer x v = some slot.distance :=
      DistanceVector.offer_eq_some_iff.mpr ⟨slot, hslot, by omega, .inl ⟨hvx, rfl⟩⟩
    have := hbest.le_offer v hadj.2.1 _ hoffer
    rw [hoffer, Option.some.injEq]
    omega
  obtain ⟨k, hk, hkc⟩ := hq.le_walk hs hsym (hsym.mem_nodes u hadj.1 v hadj.2.1) hw (by omega)
    (fun h => hvx h.symm) hx
  by_cases hpoison : k.nextHop = u
  · obtain ⟨_, j, _, _, hj, _, hsum⟩ := hq.via_nextHop hs (adj_symm hsym hadj) hk (by omega)
      (by rw [hpoison]; exact hne.symm)
    rw [hpoison, hroute, Option.some.injEq] at hj
    subst hj
    omega
  · have hcached := hq.cached_of_route hs hsym hadj hne hk hpoison
    have hoffer : (s.node u).offer x v =
        some (min c_unreachableDistance (slot.distance + k.distance)) :=
      DistanceVector.offer_eq_some_iff.mpr ⟨slot, hslot, by omega, .inr ⟨hvx, _, hcached, rfl⟩⟩
    have := hbest.le_offer v hadj.2.1 _ hoffer
    rw [hoffer, Option.some.injEq]
    omega

/-- **The link to a next hop is the cheapest way to it.**  A cheaper detour would start with a
smaller identifier and reach the target at the same distance. -/
theorem Quiescent.slot_nextHop {slot : NodeInfo} (hx : x ≠ c_invalidNodeId) (hne : x ≠ u)
    (hroute : (s.node u).route x = some info) (hlt : info.distance < c_unreachableDistance)
    (hadj : topo.graph.adj u info.nextHop) (hslot : (s.node u).route info.nextHop = some slot) :
    slot.distance = topo.linkCost u info.nextHop := by
  by_contra hcost
  have hslotlt : slot.distance < topo.linkCost u info.nextHop :=
    lt_of_le_of_ne (hq.remeasured hs hadj hslot).1 hcost
  have hcap := topo.linkCost_lt u hadj.1 _ hadj.2.1
  have hb := hq.detour_lt hs hadj hslot hslotlt
  have hhop : info.nextHop ≠ x := by
    -- the slot would be the entry itself, whose next hop is the target
    intro heq
    rw [heq] at hslot hb
    rw [hslot, Option.some.injEq] at hroute
    rw [hroute, heq] at hb
    exact lt_irrefl _ hb
  obtain ⟨slot', i, _, hslot', hi, _, hsum⟩ := hq.via_nextHop hs hadj hroute hlt hhop
  rw [hslot, Option.some.injEq] at hslot'
  subst hslot'
  obtain ⟨slotb, j, hadjb, hslotb, hj, _, hsumb⟩ :=
    hq.via_nextHop hs hadj hslot (by omega) hb.ne
  have hnodes := (routesAreWalks_of_reachable hs).1
  have hdetour := (hnodes _ (hsym.mem_nodes u hadj.1 _ hadjb.2.1)).route _ j hj (adj_valid hadj)
    (by omega)
  have hrest := (hnodes _ (hsym.mem_nodes u hadj.1 _ hadj.2.1)).route _ i hi hx (by omega)
  have hoffer := hq.offer_of_walk hs hsym hadjb hslotb (hdetour.append hrest) hx hne hroute hlt
    (by omega)
  have hleast := (hq.isBest hs hadj hroute).least hlt _ hadjb.2.1 hoffer
  exact absurd hb (not_lt.mpr hleast)

/-- **Following the next hops spends the recorded distance**, by strong induction on it. -/
theorem Quiescent.forwards (h : topo.graph.adj u v) (hx : x ≠ c_invalidNodeId)
    (hroute : (s.node u).route x = some info) (hlt : info.distance < c_unreachableDistance) :
    Forwards topo s x u info.distance := by
  induction hd : info.distance using Nat.strong_induction_on generalizing u v info with
  | _ d ih =>
    have hwalks := (routesAreWalks_of_reachable hs).1 u h.1
    have hne : x ≠ u := by
      rintro rfl
      exact absurd (hwalks.own_route info hroute) (not_le.mpr hlt)
    have hbest := hq.isBest hs h hroute
    obtain ⟨slot, hslot, hslotlt, _⟩ := DistanceVector.offer_eq_some_iff.mp (hbest.attained hlt)
    have hadj : topo.graph.adj u info.nextHop := by
      refine ⟨h.1, hbest.mem hlt, fun heq => ?_⟩
      rw [heq] at hslot
      exact absurd (hwalks.own_route slot hslot) (not_le.mpr hslotlt)
    have hcost := hq.slot_nextHop hs hsym hx hne hroute hlt hadj hslot
    have hpos := hsym.linkCost_pos u hadj.1 _ hadj.2.1
    by_cases hhop : info.nextHop = x
    · -- the last link: the slot of the target is the entry itself
      have hsame : slot = info := by
        rw [hhop, hroute, Option.some.injEq] at hslot
        exact hslot.symm
      have hdist : d = topo.linkCost u info.nextHop + 0 := by
        rw [← hcost, hsame]
        omega
      rw [hdist]
      refine .hop hne.symm hroute hadj ?_
      rw [hhop]
      exact .arrived
    · obtain ⟨slot', i, _, hslot', hi, _, hsum⟩ := hq.via_nextHop hs hadj hroute hlt hhop
      rw [hslot, Option.some.injEq] at hslot'
      subst hslot'
      have hdist : d = topo.linkCost u info.nextHop + i.distance := by omega
      rw [hdist]
      exact .hop hne.symm hroute hadj
        (ih i.distance (by omega) (adj_symm hsym hadj) hi (by omega) rfl)

/-- A linked node has lost the constructor's entry for the empty string: its distance would be that
of a neighbour plus a positive cost, and so on downwards. -/
theorem Quiescent.invalid_unreachable (h : topo.graph.adj u v)
    (hroute : (s.node u).route c_invalidNodeId = some info) :
    c_unreachableDistance ≤ info.distance := by
  by_contra hlt
  rw [not_le] at hlt
  induction hd : info.distance using Nat.strong_induction_on generalizing u v info with
  | _ d ih =>
    have hhop : info.nextHop ≠ c_invalidNodeId := fun heq =>
      topo.neighbours_valid u h.1 (heq ▸ (hq.isBest hs h hroute).mem hlt)
    obtain ⟨slot, i, hadj, hslot, hi, _, hsum⟩ := hq.via_nextHop hs h hroute hlt hhop
    have hwalk := ((routesAreWalks_of_reachable hs).1 u h.1).route _ slot hslot hhop (by omega)
    have hpos := walk_pos hsym hwalk hadj.2.2.symm
    exact ih i.distance (by omega) (adj_symm hsym hadj) hi (by omega) rfl

end FixedPoint

/-! ### A node without a link -/

section Isolated

variable {topo : Topology} {s : Network} {u : NodeId}

/-- A node that is linked to nobody stays as its constructor left it. -/
theorem isolated_new (hsym : topo.Symmetric) (hs : (network topo).Reachable s) (hu : u ∈ topo.nodes)
    (hno : ¬ ∃ v, topo.graph.adj u v) : s.node u = .new u (topo.neighbours u) := by
  have hself : ∀ v, v ∈ topo.neighbours u → v = u := fun v hv => by
    by_contra hne
    exact hno ⟨v, hu, hv, hne⟩
  let P : NodeId → DistanceVector → Prop := fun w dv => w = u → dv = .new u (topo.neighbours u)
  let Q : Message → Prop := fun m => m.receiver = u → m.sender = u
  have hinv := hs.invariant (I := fun s => (∀ w ∈ topo.nodes, P w (s.node w)) ∧
    ∀ m ∈ s.captured, Q m) ?_ ?_
  · exact hinv.1 u hu rfl
  · rintro s rfl
    exact ⟨fun w _ hw => by subst hw; rfl, fun m hm => by cases hm⟩
  · rintro s e s' ⟨hnodes, hmessages⟩ _ hstep
    refine network_step_rule (P := P) (Q := Q) ?_ ?_ ?_ hnodes hmessages hstep
    · intro w _ v hv d order dv _ hdv hw
      subst hw
      rw [hdv rfl, hself v hv, DistanceVector.updateNeighbourDistance,
        if_pos (.inl (DistanceVector.new_self _ _).symm)]
    · intro m order dv _ hm hdv hr
      rw [hdv hr, hm hr, DistanceVector.updateDvInfos,
        if_pos (.inl (DistanceVector.new_self _ _).symm)]
    · intro m dv hsender hreceiver _ _ hr
      rw [hr] at hreceiver
      exact hself _ (hsym.neighbours _ hsender u hreceiver)

end Isolated

/-- **Converged routes forward at the recorded distance, exactly at the linked nodes.**  At a node
without a link the entry of the empty string is still at distance `0`, and leads nowhere. -/
theorem forwards_iff (topo : Topology) (hsym : topo.Symmetric) (s : Network)
    (hs : (network topo).Reachable s) (hq : Quiescent topo s) (u : NodeId) (hu : u ∈ topo.nodes) :
    (∀ x info, (s.node u).route x = some info → info.distance < c_unreachableDistance →
      Forwards topo s x u info.distance) ↔ ∃ v, topo.graph.adj u v := by
  constructor
  · intro hall
    by_contra hno
    have hroute : (s.node u).route c_invalidNodeId = some ⟨c_invalidNodeId, 0⟩ := by
      rw [isolated_new hsym hs hu hno, DistanceVector.new_route, if_pos rfl]
    have hforward := hall c_invalidNodeId _ hroute (by decide)
    generalize (⟨c_invalidNodeId, 0⟩ : NodeInfo).distance = d at hforward
    cases hforward with
    | arrived => exact topo.nodes_valid hu
    | hop _ _ hadj _ => exact hno ⟨_, hadj⟩
  · rintro ⟨v, hadj⟩ x info hroute hlt
    refine hq.forwards hs hsym hadj ?_ hroute hlt
    rintro rfl
    exact absurd (hq.invalid_unreachable hs hsym hadj hroute) (not_le.mpr hlt)

section SmallNetworks

/-- One node without neighbours. -/
def oneNode : Topology where
  nodes := {"A"}
  neighbours _ := []
  linkCost _ _ := 1
  nodes_valid := by decide
  neighbours_valid := by decide
  linkCost_lt := by decide

/-- **The exception is real**: a single node records the empty string at distance `0` and forwards it
nowhere. -/
theorem forwards_fails : oneNode.Symmetric ∧ (network oneNode).Reachable (.start oneNode) ∧
    Quiescent oneNode (.start oneNode) ∧ "A" ∈ oneNode.nodes ∧
    ((Network.start oneNode).node "A").route "" = some ⟨"", 0⟩ ∧
    ¬ Forwards oneNode (.start oneNode) "" "A" 0 := by
  have hno : ∀ u v, ¬ oneNode.graph.adj u v := fun u v h => by
    cases h.2.1
  refine ⟨⟨by decide, by decide, by decide, by decide⟩, .init rfl,
    ⟨fun u v h => absurd h (hno u v), fun u v h => absurd h (hno u v),
      fun u v h => absurd h (hno u v)⟩, by decide, by decide, fun h => ?_⟩
  generalize hu : "A" = u at h
  generalize (0 : ℕ) = d at h
  cases h with
  | arrived => exact absurd hu (by decide)
  | hop _ _ hadj _ => exact hno _ _ hadj

/-- Both nodes have measured the link. -/
def bothMeasured : Network :=
  twoNodesMeasured.setNode "B"
    ((twoNodesMeasured.node "B").updateNeighbourDistance .stored "A" 5).2

/-- The vectors the two nodes advertise to each other. -/
def twoNodesMessage (sender receiver : NodeId) : Message :=
  ⟨sender, receiver, (bothMeasured.node sender).dvInfo receiver⟩

def oneCaptured : Network :=
  { bothMeasured with captured := [twoNodesMessage "A" "B"] }

def bothCaptured : Network :=
  { oneCaptured with captured := [twoNodesMessage "B" "A", twoNodesMessage "A" "B"] }

/-- `B` has received the vector of `A`. -/
def oneDelivered : Network :=
  bothCaptured.setNode "B"
    ((bothCaptured.node "B").updateDvInfos .stored "A" (twoNodesMessage "A" "B").dvInfos).2

def twoNodesConverged : Network :=
  oneDelivered.setNode "A"
    ((oneDelivered.node "A").updateDvInfos .stored "B" (twoNodesMessage "B" "A").dvInfos).2

theorem twoNodesConverged_reachable : (network twoNodes).Reachable twoNodesConverged := by
  have hmeasured : (network twoNodes).Reachable bothMeasured := by
    refine .step (a := .measure "B" "A" .stored) twoNodesMeasured_reachable trivial ?_
    show twoNodesMeasured.reportDistance twoNodes "B" "A" 5 .stored = _
    exact reportDistance_eq_some.mpr ⟨by decide, rfl⟩
  have hcaptured : (network twoNodes).Reachable oneCaptured := by
    refine .step (a := .capture (twoNodesMessage "A" "B")) hmeasured trivial ?_
    show bothMeasured.capture twoNodes (twoNodesMessage "A" "B") = _
    exact capture_eq_some.mpr ⟨by decide, rfl⟩
  have hboth : (network twoNodes).Reachable bothCaptured := by
    refine .step (a := .capture (twoNodesMessage "B" "A")) hcaptured trivial ?_
    show oneCaptured.capture twoNodes (twoNodesMessage "B" "A") = _
    exact capture_eq_some.mpr ⟨by decide, rfl⟩
  have hone : (network twoNodes).Reachable oneDelivered := by
    refine .step (a := .deliver (twoNodesMessage "A" "B") .stored) hboth trivial ?_
    show bothCaptured.deliver twoNodes (twoNodesMessage "A" "B") .stored = _
    exact deliver_eq_some.mpr ⟨by decide, rfl⟩
  refine .step (a := .deliver (twoNodesMessage "B" "A") .stored) hone trivial ?_
  show oneDelivered.deliver twoNodes (twoNodesMessage "B" "A") .stored = _
  exact deliver_eq_some.mpr ⟨by decide, rfl⟩

theorem twoNodesConverged_quiescent : Quiescent twoNodes twoNodesConverged := by
  have hcases : ∀ u v, twoNodes.graph.adj u v → (u = "A" ∧ v = "B") ∨ (u = "B" ∧ v = "A") := by
    rintro u v ⟨hu, hv, _⟩
    have hmem : u = "A" ∨ u = "B" := by simpa [twoNodes] using hu
    rcases hmem with rfl | rfl
    · exact .inl ⟨rfl, by simpa [twoNodes] using hv⟩
    · exact .inr ⟨rfl, by simpa [twoNodes] using hv⟩
  refine ⟨fun u v h x d => ?_, fun u v h => ⟨.stored, fun x => ?_⟩, fun u v h => ⟨.stored, fun x => ?_⟩⟩
  · have hcache : (twoNodesConverged.node u).m_neighboursDVInfo.lookup v =
        some (DistanceVector.cacheOf u ((twoNodesConverged.node v).dvInfo u)) := by
      have hentries : ((twoNodesConverged.node u).m_neighboursDVInfo.lookup v).map AList.entries =
          some (DistanceVector.cacheOf u ((twoNodesConverged.node v).dvInfo u)).entries := by
        rcases hcases u v h with ⟨rfl, rfl⟩ | ⟨rfl, rfl⟩ <;> decide
      obtain ⟨cache, hlookup, hcache⟩ := Option.map_eq_some_iff.mp hentries
      rw [hlookup]
      exact congrArg some (AList.ext hcache)
    rw [DistanceVector.cached, hcache, Option.bind_some]
    refine DistanceVector.cacheOf_lookup_iff d (DistanceVector.dvInfo_keys_nodup _ _) ?_
    rcases hcases u v h with ⟨rfl, rfl⟩ | ⟨rfl, rfl⟩ <;> decide
  · rcases hcases u v h with ⟨rfl, rfl⟩ | ⟨rfl, rfl⟩ <;> exact AList.perm_lookup (by decide)
  · rcases hcases u v h with ⟨rfl, rfl⟩ | ⟨rfl, rfl⟩ <;> exact AList.perm_lookup (by decide)

/-- In the two-node network `A` does forward, because it is linked to `B`. -/
theorem forwards_iff_twoNodes : (∀ x info, (twoNodesConverged.node "A").route x = some info →
    info.distance < c_unreachableDistance → Forwards twoNodes twoNodesConverged x "A" info.distance) ↔
      ∃ v, twoNodes.graph.adj "A" v :=
  forwards_iff twoNodes ⟨by decide, by decide, by decide, by decide⟩ twoNodesConverged
    twoNodesConverged_reachable twoNodesConverged_quiescent "A" (by decide)

end SmallNetworks

end DistributedNetwork.Routing
