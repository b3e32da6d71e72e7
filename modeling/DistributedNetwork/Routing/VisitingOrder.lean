import DistributedNetwork.Routing.Calls

/-!
# The order in which a recomputation visits the targets

The recomputation replaces table entries one by one, and the entry of a neighbour is also the cost at which
later targets are offered over it.  `revisedOffer dv t u` is what the neighbour `u` offers for `t` once its
own entry has been replaced by the best route to it.

* `orderIndependent_iff` — the result and the returned flag are the same for every two orders **if and only
  if** no revised offer of another neighbour overtakes the best route to a target (`OrderFree`);
* `recompute_fst` — the flag of the recomputation itself is exact: it says whether some entry changed;
* `changeFlagExact_iff` — the flag of a call is exact, and the same call repeated at once changes nothing,
  in every order **if and only if** the node is `Settled` once the arguments are taken in and a measured
  link is the best route to its neighbour (`LinkKept`).
-/

namespace DistributedNetwork.Routing

open DistributedNetwork.Library

/-! ### Orders that start with given targets -/

namespace IterationOrder

theorem stored_neighbours_perm : ∀ dv, (stored.neighbours dv).Perm dv.neighbours :=
  stored.neighbours_perm

/-- Visit the targets in `first` before all others. -/
def visitFirst (first : List NodeId) : IterationOrder where
  targets dv := (first.filter (· ∈ dv.targetNodes)).dedup ++ dv.targetNodes.filter (· ∉ first)
  neighbours := stored.neighbours
  targets_perm := by
    intro dv
    have hnd : dv.targetNodes.Nodup := List.nodup_dedup _
    refine (List.perm_ext_iff_of_nodup ?_ hnd).mpr fun t => ?_
    · refine List.nodup_append.mpr ⟨List.nodup_dedup _, hnd.filter _, ?_⟩
      rintro t ht _ ht' rfl
      simp only [List.mem_dedup, List.mem_filter, decide_eq_true_eq] at ht ht'
      exact ht'.2 ht.1
    · simp only [List.mem_append, List.mem_dedup, List.mem_filter, decide_eq_true_eq]
      by_cases hfirst : t ∈ first
      · simp only [hfirst, true_and, not_true_eq_false, and_false, or_false]
      · simp only [hfirst, false_and, not_false_eq_true, and_true, false_or]
  neighbours_perm := stored_neighbours_perm

theorem visitFirst_one {dv : DistanceVector} {t : NodeId} (ht : t ∈ dv.targetNodes) :
    ∃ rest, (visitFirst [t]).targets dv = t :: rest := by
  refine ⟨dv.targetNodes.filter (· ∉ [t]), ?_⟩
  simp [visitFirst, ht]

theorem visitFirst_two {dv : DistanceVector} {t u : NodeId} (hne : u ≠ t) (hu : u ∈ dv.targetNodes)
    (ht : t ∈ dv.targetNodes) : ∃ rest, (visitFirst [u, t]).targets dv = u :: t :: rest := by
  refine ⟨dv.targetNodes.filter (· ∉ [u, t]), ?_⟩
  simp [visitFirst, hu, ht, hne]

end IterationOrder

namespace DistanceVector

variable {order : IterationOrder} {dv dv' : DistanceVector} {c : Call} {t u v : NodeId} {d : ℕ}
variable {info info' : NodeInfo} {vs ts : List NodeId}

/-! ### The best route and the offers revised by it -/

/-- The best route of a target over all neighbours, in the table as it stands. -/
def best (dv : DistanceVector) (target : NodeId) : NodeInfo :=
  dv.bestRoute dv.neighbours target

/-- What `neighbour` offers for `target` once its own entry is the best route to it. -/
def revisedOffer (dv : DistanceVector) (target neighbour : NodeId) : Option ℕ :=
  (dv.setRoute neighbour (dv.best neighbour)).offer target neighbour

theorem best_isBest (dv : DistanceVector) (t : NodeId) :
    IsBest c_unreachableDistance c_invalidNodeId (dv.offer t) dv.neighbours (dv.best t).distance
      (dv.best t).nextHop :=
  dv.bestRoute_isBest dv.neighbours t

/-- The visiting order of the neighbours is irrelevant, and so is everything but the offers. -/
theorem bestRoute_eq_of_isBest (hvs : ∀ v, v ∈ vs ↔ v ∈ dv.neighbours)
    (h : IsBest c_unreachableDistance c_invalidNodeId (dv.offer t) dv.neighbours info.distance
      info.nextHop) : dv.bestRoute vs t = info := by
  obtain ⟨hdist, hhop⟩ := ((dv.bestRoute_isBest vs t).congr_ids hvs).unique h
  cases info
  cases hbest : dv.bestRoute vs t
  simp_all only

theorem not_lt_invalid (v : NodeId) : ¬ v < c_invalidNodeId := by
  intro h
  rw [String.lt_iff_toList_lt] at h
  exact List.not_lt_nil _ h

/-- The offers in the table itself never overtake the best route. -/
theorem offer_not_overtakes (hu : u ∈ dv.neighbours) (hd : dv.offer t u = some d) :
    ¬ Overtakes (dv.best t).distance (dv.best t).nextHop d u :=
  (dv.best_isBest t).not_overtakes (not_lt_invalid u) hu hd

/-- A neighbour offers itself, so the best route to it costs no more than its entry. -/
theorem best_le_slot (hu : u ∈ dv.neighbours) (hroute : dv.route u = some info) :
    (dv.best u).distance ≤ info.distance := by
  by_cases hlt : info.distance < c_unreachableDistance
  · refine (dv.best_isBest u).le_offer u hu _ ?_
    exact offer_eq_some_iff.mpr ⟨info, hroute, hlt, .inl ⟨rfl, rfl⟩⟩
  · exact (dv.best_isBest u).le_top.trans (not_lt.mp hlt)

/-- A cheaper entry of the same neighbour means an offer at least as cheap. -/
theorem offer_le_of_slot_le (hcached : dv.cached u t = dv'.cached u t)
    (hroute : dv.route u = some info) (hroute' : dv'.route u = some info')
    (hle : info'.distance ≤ info.distance) (hd : dv.offer t u = some d) :
    ∃ d', d' ≤ d ∧ dv'.offer t u = some d' := by
  obtain ⟨i, hi, hlt, hcase⟩ := offer_eq_some_iff.mp hd
  cases hroute.symm.trans hi
  rcases hcase with ⟨hut, rfl⟩ | ⟨hut, e, he, rfl⟩
  · exact ⟨_, hle, offer_eq_some_iff.mpr ⟨info', hroute', hle.trans_lt hlt, .inl ⟨hut, rfl⟩⟩⟩
  · refine ⟨min c_unreachableDistance (info'.distance + e), by omega, offer_eq_some_iff.mpr ?_⟩
    exact ⟨info', hroute', hle.trans_lt hlt, .inr ⟨hut, e, hcached ▸ he, rfl⟩⟩

/-- Replacing the entry of one target by the best route to it makes no offer dearer. -/
theorem improves_setRoute_best (dv : DistanceVector) (x t : NodeId) :
    Improves dv.neighbours (dv.offer t) ((dv.setRoute x (dv.best x)).offer t) := by
  intro u hu d hd
  by_cases hux : u = x
  · subst hux
    obtain ⟨info, hroute, _⟩ := offer_eq_some_iff.mp hd
    have hcached : dv.cached u t = (dv.setRoute u (dv.best u)).cached u t := rfl
    exact offer_le_of_slot_le hcached hroute (setRoute_route_same _ _ _) (best_le_slot hu hroute) hd
  · exact ⟨d, le_rfl, (offer_congr (setRoute_route_ne _ _ hux) rfl).trans hd⟩

/-! ### The flag of a recomputation -/

theorem recomputeTargets_fst (hnd : ts.Nodup) (b : Bool) (dv : DistanceVector) :
    (recomputeTargets vs ts b dv).1 = true ↔
      b = true ∨ ∃ t ∈ ts, (recomputeTargets vs ts b dv).2.route t ≠ dv.route t := by
  induction ts generalizing b dv with
  | nil => simp [recomputeTargets]
  | cons x ts ih =>
    rw [List.nodup_cons] at hnd
    have hx : (recomputeTargets vs (x :: ts) b dv).2.route x = some (dv.bestRoute vs x) :=
      (recomputeTargets_route_notMem vs hnd.1 _ _).trans (setRoute_route_same _ _ _)
    have hother : ∀ t ∈ ts, (dv.setRoute x (dv.bestRoute vs x)).route t = dv.route t := fun t ht =>
      setRoute_route_ne _ _ fun heq => hnd.1 (heq ▸ ht)
    simp only [List.mem_cons, exists_eq_or_imp]
    rw [hx]
    simp only [recomputeTargets]
    rw [ih hnd.2, Bool.or_eq_true, or_assoc]
    refine or_congr_right (or_congr ?_ (exists_congr fun t => and_congr_right fun ht => ?_))
    · rw [bne_iff_ne, ne_comm]
    · rw [hother t ht]

/-- **The flag of the recomputation is exact**: some entry is new or has changed. -/
theorem recompute_fst (order : IterationOrder) (dv : DistanceVector) :
    (dv.recomputeRoutesWithoutLock order).1 = true ↔
      ∃ t, (dv.recomputeRoutesWithoutLock order).2.route t ≠ dv.route t := by
  unfold recomputeRoutesWithoutLock
  rw [recomputeTargets_fst (order.targets_nodup dv)]
  simp only [Bool.false_eq_true, false_or]
  constructor
  · rintro ⟨t, _, hne⟩
    exact ⟨t, hne⟩
  · rintro ⟨t, hne⟩
    refine ⟨t, ?_, hne⟩
    by_contra ht
    exact hne (recomputeTargets_route_notMem _ ht _ _)

/-! ### Independence of the order -/

/-- No other neighbour's revised offer overtakes the best route to a target. -/
def OrderFree (dv : DistanceVector) : Prop :=
  ∀ t ∈ dv.targetNodes, ∀ u ∈ dv.neighbours, u ≠ t → ∀ d ∈ dv.revisedOffer t u,
    ¬ Overtakes (dv.best t).distance (dv.best t).nextHop d u

instance (dv : DistanceVector) : Decidable dv.OrderFree :=
  inferInstanceAs (Decidable (∀ t ∈ dv.targetNodes, ∀ u ∈ dv.neighbours, u ≠ t →
    ∀ d ∈ dv.revisedOffer t u, ¬ (d < (dv.best t).distance ∨
      ((dv.best t).distance = d ∧ u < (dv.best t).nextHop))))

/-- **Visit lemma.**  When every entry is the one before the loop or already the best route before the
loop, and the visited target still has its own entry, the loop finds the best route before the loop. -/
theorem OrderFree.visit (h : dv.OrderFree) (ht : t ∈ dv.targetNodes) {mid : DistanceVector}
    (hcaches : mid.m_neighboursDVInfo = dv.m_neighboursDVInfo)
    (hroute : ∀ x, mid.route x = dv.route x ∨ mid.route x = some (dv.best x))
    (hunvisited : mid.route t = dv.route t) (hvs : ∀ v, v ∈ vs ↔ v ∈ dv.neighbours) :
    mid.bestRoute vs t = dv.best t := by
  have hneighbours : mid.neighbours = dv.neighbours := congrArg AList.keys hcaches
  have hcached : ∀ u, mid.cached u t = dv.cached u t := fun u => by
    unfold cached
    rw [hcaches]
  have hoffer : ∀ u, mid.offer t u = dv.offer t u ∨ u ≠ t ∧ mid.offer t u = dv.revisedOffer t u := by
    intro u
    by_cases hut : u = t
    · subst hut
      exact .inl (offer_congr hunvisited (hcached u))
    · rcases hroute u with hold | hnew
      · exact .inl (offer_congr hold (hcached u))
      · exact .inr ⟨hut, offer_congr (hnew.trans (setRoute_route_same _ _ _).symm) (hcached u)⟩
  refine bestRoute_eq_of_isBest (fun v => by rw [hneighbours]; exact hvs v) ?_
  rw [hneighbours]
  refine (dv.best_isBest t).of_improves (fun u hu d hd => ?_) fun u hu d hd => ?_
  · rcases hoffer u with hold | ⟨_, hnew⟩
    · exact ⟨d, le_rfl, hold.trans hd⟩
    · rw [hnew]
      exact dv.improves_setRoute_best u t u hu d hd
  · rcases hoffer u with hold | ⟨hut, hnew⟩
    · exact offer_not_overtakes hu (hold ▸ hd)
    · exact h t ht u hu hut d (hnew ▸ hd)

/-- **Loop lemma.**  Whatever the order, the loop leaves for each target the best route before the loop. -/
theorem OrderFree.recomputeTargets_route (h : dv.OrderFree) (hvs : ∀ v, v ∈ vs ↔ v ∈ dv.neighbours)
    (hnd : ts.Nodup) (hts : ∀ t ∈ ts, t ∈ dv.targetNodes) (b : Bool) {mid : DistanceVector}
    (hcaches : mid.m_neighboursDVInfo = dv.m_neighboursDVInfo)
    (hroute : ∀ x, mid.route x = dv.route x ∨ mid.route x = some (dv.best x))
    (hunvisited : ∀ t ∈ ts, mid.route t = dv.route t) :
    ∀ t ∈ ts, (recomputeTargets vs ts b mid).2.route t = some (dv.best t) := by
  induction ts generalizing b mid with
  | nil => simp
  | cons x ts ih =>
    rw [List.nodup_cons] at hnd
    have hx : mid.bestRoute vs x = dv.best x :=
      h.visit (hts x List.mem_cons_self) hcaches hroute (hunvisited x List.mem_cons_self) hvs
    have hne : ∀ t ∈ ts, t ≠ x := fun t ht heq => hnd.1 (heq ▸ ht)
    intro t ht
    rcases List.mem_cons.mp ht with rfl | ht
    · refine (recomputeTargets_route_notMem vs hnd.1 _ _).trans ?_
      rw [setRoute_route_same, hx]
    · refine ih hnd.2 (fun t ht => hts t (List.mem_cons_of_mem x ht)) _ ?_ ?_ ?_ t ht
      · exact hcaches
      · intro y
        by_cases hy : y = x
        · subst hy
          rw [setRoute_route_same, hx]
          exact .inr rfl
        · rw [setRoute_route_ne _ _ hy]
          exact hroute y
      · intro t ht
        rw [setRoute_route_ne _ _ (hne t ht)]
        exact hunvisited t (List.mem_cons_of_mem x ht)

theorem OrderFree.recompute_route (h : dv.OrderFree) (order : IterationOrder)
    (ht : t ∈ dv.targetNodes) :
    (dv.recomputeRoutesWithoutLock order).2.route t = some (dv.best t) :=
  h.recomputeTargets_route (order.mem_neighbours dv) (order.targets_nodup dv)
    (fun t ht => (order.mem_targets dv t).mp ht) false rfl (fun _ => .inl rfl) (fun _ _ => rfl) t
    ((order.mem_targets dv t).mpr ht)

theorem recompute_route_of_notMem (order : IterationOrder) (ht : t ∉ dv.targetNodes) :
    (dv.recomputeRoutesWithoutLock order).2.route t = dv.route t :=
  recomputeTargets_route_notMem _ (fun hmem => ht ((order.mem_targets dv t).mp hmem)) _ _

/-- The target visited first gets the best route before the loop. -/
theorem recompute_route_first {rest : List NodeId} (h : order.targets dv = t :: rest) :
    (dv.recomputeRoutesWithoutLock order).2.route t = some (dv.best t) := by
  have hnd := order.targets_nodup dv
  rw [h, List.nodup_cons] at hnd
  have hbest : dv.bestRoute (order.neighbours dv) t = dv.best t :=
    bestRoute_eq_of_isBest (order.mem_neighbours dv) (dv.best_isBest t)
  unfold recomputeRoutesWithoutLock
  rw [h]
  refine (recomputeTargets_route_notMem _ hnd.1 _ _).trans ?_
  rw [setRoute_route_same, hbest]

/-- The target visited second gets the best route with the entry of the first one revised. -/
theorem recompute_route_second {rest : List NodeId} (h : order.targets dv = u :: t :: rest) :
    (dv.recomputeRoutesWithoutLock order).2.route t =
      some ((dv.setRoute u (dv.best u)).best t) := by
  have hnd := order.targets_nodup dv
  rw [h, List.nodup_cons, List.nodup_cons] at hnd
  have hbest : dv.bestRoute (order.neighbours dv) u = dv.best u :=
    bestRoute_eq_of_isBest (order.mem_neighbours dv) (dv.best_isBest u)
  have hbest' : (dv.setRoute u (dv.best u)).bestRoute (order.neighbours dv) t =
      (dv.setRoute u (dv.best u)).best t :=
    bestRoute_eq_of_isBest (order.mem_neighbours dv) (best_isBest _ t)
  unfold recomputeRoutesWithoutLock
  rw [h]
  refine (recomputeTargets_route_notMem _ hnd.2.1 _ _).trans ?_
  rw [hbest, setRoute_route_same, hbest']

theorem mem_targetNodes_of_neighbour (hu : u ∈ dv.neighbours) : u ∈ dv.targetNodes :=
  mem_targetNodes.mpr (.inr (.inl hu))

/-- **Independence of the hash order.**  For every state the recomputation gives the same table and the
same flag in every two orders **if and only if** no revised offer overtakes a best route. -/
theorem orderIndependent_iff (dv : DistanceVector) :
    (∀ order order' : IterationOrder,
      (dv.recomputeRoutesWithoutLock order).1 = (dv.recomputeRoutesWithoutLock order').1 ∧
      ∀ t, (dv.recomputeRoutesWithoutLock order).2.route t =
        (dv.recomputeRoutesWithoutLock order').2.route t) ↔ dv.OrderFree := by
  constructor
  · intro h t ht u hu hut d hd hovertakes
    -- `t` first sees the old offer of `u`, `t` after `u` sees the revised one
    obtain ⟨rest, hfirst⟩ := IterationOrder.visitFirst_one ht
    obtain ⟨rest', hsecond⟩ := IterationOrder.visitFirst_two hut (mem_targetNodes_of_neighbour hu) ht
    have hsame := (h (.visitFirst [t]) (.visitFirst [u, t])).2 t
    rw [recompute_route_first hfirst, recompute_route_second hsecond, Option.some.injEq] at hsame
    have hu' : u ∈ (dv.setRoute u (dv.best u)).neighbours := hu
    have hnot := offer_not_overtakes hu' hd
    rw [← hsame] at hnot
    exact hnot hovertakes
  · intro h order order'
    have hroute : ∀ t, (dv.recomputeRoutesWithoutLock order).2.route t =
        (dv.recomputeRoutesWithoutLock order').2.route t := by
      intro t
      by_cases ht : t ∈ dv.targetNodes
      · rw [h.recompute_route order ht, h.recompute_route order' ht]
      · rw [recompute_route_of_notMem order ht, recompute_route_of_notMem order' ht]
    refine ⟨?_, hroute⟩
    rw [Bool.eq_iff_iff, recompute_fst, recompute_fst]
    simp only [hroute]

/-- `A` measures its neighbours `B`, `C` and `E`, hears from `B` about `D`, from `C` about `B` and from `E`
about `C`.  Only `E` was ever reached over its own link for less than the others ask. -/
def shortcuts : List (IterationOrder × Call) :=
  [(.stored, .updateNeighbourDistance "B" 100), (.stored, .updateNeighbourDistance "C" 50),
    (.stored, .updateNeighbourDistance "E" 1), (.stored, .updateDvInfos "B" [("D", 5)]),
    (.stored, .updateDvInfos "C" [("B", 1)]), (.visitFirst ["B"], .updateDvInfos "E" [("C", 1)])]

/-- **The order matters.**  In a reachable state the distance to `D` is recomputed as `56` when `D` is visited
before `B`, and as `8` when `B` comes first. -/
theorem hash_order_matters : ∃ dv, (nodeRuns "A" ["B", "C", "E"]).Reachable dv ∧
    (dv.recomputeRoutesWithoutLock (.visitFirst ["D"])).2.route "D" = some ⟨"B", 56⟩ ∧
    (dv.recomputeRoutesWithoutLock (.visitFirst ["B"])).2.route "D" = some ⟨"B", 8⟩ := by
  have hrun : ((nodeRuns "A" ["B", "C", "E"]).run (.new "A" ["B", "C", "E"]) shortcuts).map
      (fun dv => ((dv.recomputeRoutesWithoutLock (.visitFirst ["D"])).2.route "D",
        (dv.recomputeRoutesWithoutLock (.visitFirst ["B"])).2.route "D")) =
      some (some ⟨"B", 56⟩, some ⟨"B", 8⟩) := by
    decide
  obtain ⟨dv, hdv, hroutes⟩ := Option.map_eq_some_iff.mp hrun
  rw [Prod.mk.injEq] at hroutes
  exact ⟨dv, .of_run (.init rfl) hdv, hroutes⟩

/-! ### The flag of a call -/

/-- The flag of a call says whether the table changed, and an accepted call repeated at once changes
nothing and says so. -/
structure ChangeFlagExact (order : IterationOrder) (dv : DistanceVector) (c : Call) : Prop where
  flag : (dv.call order c).1 = true ↔ ∃ t, (dv.call order c).2.route t ≠ dv.route t
  again : dv.Accepts c → ((dv.call order c).2.call order c).1 = false
  again_table : dv.Accepts c →
    ∀ t, ((dv.call order c).2.call order c).2.route t = (dv.call order c).2.route t

/-- No revised offer at all overtakes the best route to a target, not even the one of the target itself. -/
def Settled (dv : DistanceVector) : Prop :=
  ∀ t ∈ dv.targetNodes, ∀ u ∈ dv.neighbours, ∀ d ∈ dv.revisedOffer t u,
    ¬ Overtakes (dv.best t).distance (dv.best t).nextHop d u

/-- A measured link is usable, and no other neighbour offers a better route to its end. -/
def LinkKept (dv : DistanceVector) : Call → Prop
  | .updateNeighbourDistance p d => d < c_unreachableDistance ∧ p ∈ dv.neighbours ∧
      ∀ u ∈ dv.neighbours, u ≠ p → ∀ e ∈ dv.offer p u, ¬ Overtakes d p e u
  | .updateDvInfos _ _ => True

theorem Settled.orderFree (h : dv.Settled) : dv.OrderFree :=
  fun t ht u hu _ => h t ht u hu

/-- In the state a call leaves, the same call is accepted again. -/
theorem accepts_again (order : IterationOrder) (hacc : dv.Accepts c) :
    ((dv.receive c).recomputeRoutesWithoutLock order).2.Accepts c := by
  have hself : ((dv.receive c).recomputeRoutesWithoutLock order).2.m_selfNodeId = dv.m_selfNodeId :=
    (recompute_self order _).trans receive_self
  have hkey : ∀ p, (dv.route p).isSome →
      (((dv.receive c).recomputeRoutesWithoutLock order).2.route p).isSome := fun p hp =>
    recompute_route_isSome order (mem_targetNodes.mpr (.inl ((receive_route_isSome hacc).trans hp)))
  cases c with
  | updateNeighbourDistance p d => exact ⟨hself ▸ hacc.1, hacc.2.1, hkey p hacc.2.2⟩
  | updateDvInfos p infos =>
    refine ⟨hself ▸ hacc.1, hacc.2.1, ?_, hkey p hacc.2.2.2⟩
    rw [recompute_neighbours_eq]
    exact (mem_receive_neighbours hacc.2.2.1).mpr hacc.2.2.1

/-- When the measured entry has been kept, the repeated call has nothing to write. -/
theorem receive_again (order : IterationOrder)
    (hkept : ((dv.receive c).recomputeRoutesWithoutLock order).2.isDirectChanged c = false) :
    ((dv.receive c).recomputeRoutesWithoutLock order).2.receive c =
      ((dv.receive c).recomputeRoutesWithoutLock order).2 := by
  cases c with
  | updateNeighbourDistance p d =>
    generalize ((dv.receive (.updateNeighbourDistance p d)).recomputeRoutesWithoutLock order).2 = after at *
    show (if after.isDirectChanged _ = true then after.setDirect p d else after) = after
    rw [hkept]
    rfl
  | updateDvInfos p infos =>
    have hself := (recompute_self order (dv.receive (.updateDvInfos p infos))).trans receive_self
    have hcaches :
        ((dv.receive (.updateDvInfos p infos)).recomputeRoutesWithoutLock order).2.m_neighboursDVInfo =
          (dv.receive (.updateDvInfos p infos)).m_neighboursDVInfo :=
      recompute_neighboursDVInfo order
    generalize ((dv.receive (.updateDvInfos p infos)).recomputeRoutesWithoutLock order).2 = after at *
    show after.setCache p (cacheOf after.m_selfNodeId infos) = after
    cases after
    simp only at hself hcaches
    simp only [setCache, hself, hcaches, receive, AList.insert_insert]

section Again

variable (order : IterationOrder)

theorem recompute_cached : (dv.recomputeRoutesWithoutLock order).2.cached u t = dv.cached u t := by
  unfold cached
  rw [recompute_neighboursDVInfo]

theorem mem_targetNodes_recompute :
    t ∈ (dv.recomputeRoutesWithoutLock order).2.targetNodes ↔ t ∈ dv.targetNodes := by
  by_cases ht : t ∈ dv.targetNodes
  · exact ⟨fun _ => ht, fun _ => mem_targetNodes.mpr (.inl (recompute_route_isSome order ht))⟩
  · rw [mem_targetNodes, recompute_route_of_notMem order ht, recompute_neighbours_eq]
    simp only [recompute_cached]
    exact mem_targetNodes.symm

/-- Once the loop is over, every neighbour makes its revised offer. -/
theorem OrderFree.recompute_offer (h : dv.OrderFree) (hu : u ∈ dv.neighbours) :
    (dv.recomputeRoutesWithoutLock order).2.offer t u = dv.revisedOffer t u := by
  refine offer_congr ?_ (recompute_cached order)
  rw [h.recompute_route order (mem_targetNodes_of_neighbour hu)]
  exact (setRoute_route_same _ _ _).symm

/-- From a settled state the loop leaves the best routes of the table it leaves. -/
theorem Settled.recompute_best (h : dv.Settled) (ht : t ∈ dv.targetNodes) :
    (dv.recomputeRoutesWithoutLock order).2.best t = dv.best t := by
  refine bestRoute_eq_of_isBest (fun v => Iff.rfl) ?_
  rw [recompute_neighbours_eq]
  refine (dv.best_isBest t).of_improves (fun u hu d hd => ?_) fun u hu d hd => ?_
  · rw [h.orderFree.recompute_offer order hu]
    exact dv.improves_setRoute_best u t u hu d hd
  · rw [h.orderFree.recompute_offer order hu] at hd
    exact h t ht u hu d hd

theorem Settled.recompute (h : dv.Settled) : (dv.recomputeRoutesWithoutLock order).2.Settled := by
  intro t ht u hu d hd
  rw [mem_targetNodes_recompute] at ht
  rw [recompute_neighbours_eq] at hu
  have hsame : (dv.recomputeRoutesWithoutLock order).2.revisedOffer t u = dv.revisedOffer t u := by
    refine offer_congr ?_ (recompute_cached order)
    rw [setRoute_route_same, setRoute_route_same,
      h.recompute_best order (mem_targetNodes_of_neighbour hu)]
  rw [hsame] at hd
  rw [h.recompute_best order ht]
  exact h t ht u hu d hd

/-- A second recomputation finds nothing to change. -/
theorem Settled.recompute_again (h : dv.Settled) (order' : IterationOrder) :
    ((dv.recomputeRoutesWithoutLock order).2.recomputeRoutesWithoutLock order').2.route t =
      (dv.recomputeRoutesWithoutLock order).2.route t := by
  by_cases ht : t ∈ dv.targetNodes
  · rw [(h.recompute order).orderFree.recompute_route order' ((mem_targetNodes_recompute order).mpr ht),
      h.recompute_best order ht, h.orderFree.recompute_route order ht]
  · exact recompute_route_of_notMem order' fun hmem => ht ((mem_targetNodes_recompute order).mp hmem)

end Again

theorem isDirectChanged_eq_false_iff {p : NodeId} (hsome : (dv.route p).isSome) :
    dv.isDirectChanged (.updateNeighbourDistance p d) = false ↔
      dv.route p = some { nextHop := p, distance := d } := by
  obtain ⟨info, hroute⟩ := Option.isSome_iff_exists.mp hsome
  cases info
  simp [isDirectChanged, hroute]

/-- The entry of a peer once a usable measurement is taken in. -/
theorem receive_route_measured {p : NodeId} (hacc : dv.Accepts (.updateNeighbourDistance p d))
    (hd : d < c_unreachableDistance) :
    (dv.receive (.updateNeighbourDistance p d)).route p = some { nextHop := p, distance := d } := by
  simp only [receive]
  split
  · rw [setDirect_route_same, if_neg (not_le.mpr hd)]
  · next hsame => exact (isDirectChanged_eq_false_iff hacc.2.2).mp (Bool.not_eq_true _ ▸ hsame)

/-- A kept link is the best route to its end. -/
theorem LinkKept.best {p : NodeId} (hacc : dv.Accepts (.updateNeighbourDistance p d))
    (h : (dv.receive (.updateNeighbourDistance p d)).LinkKept (.updateNeighbourDistance p d)) :
    (dv.receive (.updateNeighbourDistance p d)).best p = { nextHop := p, distance := d } := by
  obtain ⟨hd, hp, hothers⟩ := h
  have hroute := receive_route_measured hacc hd
  generalize dv.receive (.updateNeighbourDistance p d) = s at *
  have hown : s.offer p p = some d := offer_eq_some_iff.mpr ⟨_, hroute, hd, .inl ⟨rfl, rfl⟩⟩
  have hnot : ∀ u ∈ s.neighbours, ∀ e, s.offer p u = some e → ¬ Overtakes d p e u := by
    intro u hu e he
    by_cases hup : u = p
    · subst hup
      cases hown.symm.trans he
      rintro (hlt | ⟨_, hlt⟩)
      · exact lt_irrefl _ hlt
      · exact lt_irrefl _ hlt
    · exact hothers u hu hup e he
  refine bestRoute_eq_of_isBest (fun v => Iff.rfl) ?_
  exact {
    le_top := hd.le
    le_offer := fun u hu e he => not_lt.mp fun hlt => hnot u hu e he (.inl hlt)
    absent_of_top := fun heq => absurd heq hd.ne
    mem := fun _ => hp
    attained := fun _ => hown
    least := fun _ u hu he => not_lt.mp fun hlt => hnot u hu d he (.inr ⟨rfl, hlt⟩) }

/-- What exactness says about the node just after the call: the measured entry was kept, and a further
recomputation changes no entry. -/
theorem ChangeFlagExact.stable (h : ChangeFlagExact order dv c) (hacc : dv.Accepts c) :
    ((dv.receive c).recomputeRoutesWithoutLock order).2.isDirectChanged c = false ∧
      ∀ t, (((dv.receive c).recomputeRoutesWithoutLock order).2.recomputeRoutesWithoutLock order).2.route t =
        ((dv.receive c).recomputeRoutesWithoutLock order).2.route t := by
  have hagain := h.again hacc
  have htable := h.again_table hacc
  simp only [call_of_accepts hacc] at hagain htable
  rw [call_of_accepts (accepts_again order hacc)] at hagain
  have hkept := (Bool.or_eq_false_iff.mp hagain).1
  simp only [call_of_accepts (accepts_again order hacc), receive_again order hkept] at htable
  exact ⟨hkept, htable⟩

/-- If a second recomputation changes nothing, whatever the order, no revised offer overtakes. -/
theorem settled_of_stable (h : ∀ (order : IterationOrder) (t : NodeId),
    ((dv.recomputeRoutesWithoutLock order).2.recomputeRoutesWithoutLock order).2.route t =
      (dv.recomputeRoutesWithoutLock order).2.route t) : dv.Settled := by
  intro t ht u hu d hd hovertakes
  -- visit `t` first, then `u`: the entry of `t` is the best route of the old table
  have hvisit : ∃ order : IterationOrder, (∃ rest, order.targets dv = t :: rest) ∧
      (∃ rest, order.targets (dv.recomputeRoutesWithoutLock order).2 = t :: rest) ∧
      ∃ info, (dv.recomputeRoutesWithoutLock order).2.route u = some info ∧
        info.distance ≤ (dv.best u).distance := by
    by_cases hut : u = t
    · subst hut
      obtain ⟨rest, hfirst⟩ := IterationOrder.visitFirst_one ht
      exact ⟨.visitFirst [u], ⟨rest, hfirst⟩,
        IterationOrder.visitFirst_one ((mem_targetNodes_recompute _).mpr ht),
        _, recompute_route_first hfirst, le_rfl⟩
    · have hut' := mem_targetNodes_of_neighbour hu
      obtain ⟨rest, hfirst⟩ := IterationOrder.visitFirst_two (Ne.symm hut) ht hut'
      obtain ⟨rest', hnext⟩ := IterationOrder.visitFirst_two (Ne.symm hut)
        ((mem_targetNodes_recompute (.visitFirst [t, u])).mpr ht)
        ((mem_targetNodes_recompute (.visitFirst [t, u])).mpr hut')
      refine ⟨.visitFirst [t, u], ⟨_, hfirst⟩, ⟨_, hnext⟩, _, recompute_route_second hfirst, ?_⟩
      exact (dv.best_isBest u).cost_le_of_improves (best_isBest _ u) (dv.improves_setRoute_best t u)
  obtain ⟨order, ⟨rest, hfirst⟩, ⟨rest', hnext⟩, info, hinfo, hle⟩ := hvisit
  -- after the loop `u` offers `t` at least as cheaply as its revised offer did
  have hcached : (dv.setRoute u (dv.best u)).cached u t =
      (dv.recomputeRoutesWithoutLock order).2.cached u t := by
    rw [recompute_cached]
    rfl
  obtain ⟨e, hed, he⟩ := offer_le_of_slot_le hcached (setRoute_route_same dv u (dv.best u)) hinfo hle hd
  have hsame := h order t
  rw [recompute_route_first hfirst, recompute_route_first hnext, Option.some.injEq] at hsame
  have hu' : u ∈ (dv.recomputeRoutesWithoutLock order).2.neighbours := by
    rwa [recompute_neighbours_eq]
  have hnot := offer_not_overtakes hu' he
  rw [hsame] at hnot
  exact hnot (hovertakes.mono hed)

/-- A measured entry that survives every order is a kept link. -/
theorem linkKept_of_kept (hacc : dv.Accepts c) (h : ∀ order : IterationOrder,
    ((dv.receive c).recomputeRoutesWithoutLock order).2.isDirectChanged c = false) :
    (dv.receive c).LinkKept c := by
  cases c with
  | updateNeighbourDistance p d =>
    have hp : p ∈ (dv.receive (.updateNeighbourDistance p d)).targetNodes :=
      mem_targetNodes.mpr (.inl ((receive_route_isSome hacc).trans hacc.2.2))
    obtain ⟨rest, hfirst⟩ := IterationOrder.visitFirst_one hp
    have hkept := h (.visitFirst [p])
    rw [isDirectChanged_eq_false_iff (recompute_route_isSome _ hp), recompute_route_first hfirst,
      Option.some.injEq] at hkept
    have hbest := best_isBest (dv.receive (.updateNeighbourDistance p d)) p
    rw [hkept] at hbest
    have hlt : d < c_unreachableDistance :=
      lt_of_le_of_ne hbest.le_top fun heq => hacc.2.1 (hbest.absent_of_top heq)
    exact ⟨hlt, hbest.mem hlt, fun u hu _ e he => hbest.not_overtakes (not_lt_invalid u) hu he⟩
  | updateDvInfos p infos => trivial

/-- Under the condition the measured entry is kept. -/
theorem Settled.kept (h : (dv.receive c).Settled) (hlink : (dv.receive c).LinkKept c)
    (hacc : dv.Accepts c) (order : IterationOrder) :
    ((dv.receive c).recomputeRoutesWithoutLock order).2.isDirectChanged c = false := by
  cases c with
  | updateNeighbourDistance p d =>
    have hp : p ∈ (dv.receive (.updateNeighbourDistance p d)).targetNodes :=
      mem_targetNodes.mpr (.inl ((receive_route_isSome hacc).trans hacc.2.2))
    rw [isDirectChanged_eq_false_iff (recompute_route_isSome _ hp), h.orderFree.recompute_route order hp,
      hlink.best hacc]
  | updateDvInfos p infos => rfl

/-- Without a direct write the table a call recomputes is the one it found. -/
theorem receive_route_of_unchanged (h : dv.isDirectChanged c = false) :
    (dv.receive c).route t = dv.route t := by
  cases c with
  | updateNeighbourDistance p d =>
    simp only [receive]
    rw [if_neg (by rw [h]; decide)]
  | updateDvInfos p infos => rfl

/-- **The change flag.**  For every node and every call: in every order the flag is exact and the accepted
call repeated at once changes nothing, **if and only if** the call is refused, or the node is settled once
the arguments are taken in and a measured link is kept. -/
theorem changeFlagExact_iff (dv : DistanceVector) (c : Call) :
    (∀ order, ChangeFlagExact order dv c) ↔
      (dv.Accepts c → (dv.receive c).Settled ∧ (dv.receive c).LinkKept c) := by
  constructor
  · intro h hacc
    exact ⟨settled_of_stable fun order => ((h order).stable hacc).2,
      linkKept_of_kept hacc fun order => ((h order).stable hacc).1⟩
  · intro h order
    by_cases hacc : dv.Accepts c
    · obtain ⟨hsettled, hlink⟩ := h hacc
      have hkept := hsettled.kept hlink hacc order
      have hagain : ((dv.call order c).2.call order c) =
          ((((dv.receive c).recomputeRoutesWithoutLock order).2.recomputeRoutesWithoutLock order).1,
            (((dv.receive c).recomputeRoutesWithoutLock order).2.recomputeRoutesWithoutLock order).2) := by
        rw [call_of_accepts hacc, call_of_accepts (accepts_again order hacc), hkept,
          receive_again order hkept, Bool.false_or]
      have htable : ∀ t, ((dv.call order c).2.call order c).2.route t = (dv.call order c).2.route t := by
        intro t
        rw [hagain, call_of_accepts hacc]
        exact hsettled.recompute_again order order
      refine ⟨?_, fun _ => ?_, fun _ => htable⟩
      · rw [call_of_accepts hacc]
        cases hchanged : dv.isDirectChanged c with
        | false =>
          rw [Bool.false_or, recompute_fst]
          simp only [receive_route_of_unchanged hchanged]
        | true =>
          refine ⟨fun _ => ?_, fun _ => rfl⟩
          by_contra hsame
          cases c with
          | updateNeighbourDistance p d =>
            have hp : ((dv.receive (.updateNeighbourDistance p d)).recomputeRoutesWithoutLock order).2.route p =
                dv.route p := not_not.mp fun hne => hsame ⟨p, hne⟩
            rw [isDirectChanged_eq_false_iff (hp ▸ hacc.2.2), hp,
              ← isDirectChanged_eq_false_iff hacc.2.2, hchanged] at hkept
            cases hkept
          | updateDvInfos p infos => cases hchanged
      · rw [hagain, ← Bool.not_eq_true, recompute_fst]
        rintro ⟨t, hne⟩
        exact hne (hsettled.recompute_again order order)
    · have hcall : dv.call order c = (false, dv) := call_of_not_accepts hacc
      refine ⟨?_, fun h => absurd h hacc, fun h => absurd h hacc⟩
      rw [hcall]
      simp

/-- A node whose only link was measured as unreachable. -/
def lostLink : DistanceVector :=
  ((DistanceVector.new "A" ["B"]).call .stored (.updateNeighbourDistance "B" 750)).2

/-- **A spurious change.**  The same measurement once more: the entry `(750, no next hop)` differs from
`(750, B)`, so the call returns `true`, although the table stays as it is. -/
theorem spurious_change : (nodeRuns "A" ["B"]).Reachable lostLink ∧
    (lostLink.call .stored (.updateNeighbourDistance "B" 750)).1 = true ∧
    ∀ t, (lostLink.call .stored (.updateNeighbourDistance "B" 750)).2.route t = lostLink.route t := by
  refine ⟨.step (a := (.stored, .updateNeighbourDistance "B" 750)) (.init rfl) trivial rfl, by decide, ?_⟩
  have hperm : (lostLink.call .stored (.updateNeighbourDistance "B" 750)).2.m_dvInfos.entries.Perm
      lostLink.m_dvInfos.entries := by
    decide
  exact fun t => AList.perm_lookup hperm

end DistanceVector

end DistributedNetwork.Routing
