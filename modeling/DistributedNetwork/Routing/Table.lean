import DistributedNetwork.Routing.DistanceVector

/-!
# The table of a node that was only measured over its own links

`WellFormed selfNodeId nodeIds dv` collects what every accepted call keeps: the neighbours are those
of the constructor, each of them has a table slot, and an entry with a next hop is reachable.

`LinkUpdate dv p d direct` names the state between the direct write of a measurement and the
recomputation, so that later files never unfold `updateNeighbourDistance`.
-/

namespace DistributedNetwork.Routing

open DistributedNetwork.Library

namespace DistanceVector

/-- What every accepted call keeps of a node built as `new selfNodeId nodeIds`. -/
structure WellFormed (selfNodeId : NodeId) (nodeIds : List NodeId) (dv : DistanceVector) : Prop where
  self_eq : dv.m_selfNodeId = selfNodeId
  mem_neighbours : ∀ v, v ∈ dv.neighbours ↔ v ∈ nodeIds
  slot : ∀ v ∈ nodeIds, (dv.route v).isSome
  hop_reachable : ∀ t info, dv.route t = some info → info.nextHop ≠ c_invalidNodeId →
    info.distance < c_unreachableDistance

variable {selfNodeId : NodeId} {nodeIds : List NodeId} {dv dv' direct : DistanceVector}
variable (order : IterationOrder) {p t v : NodeId} (d : ℕ) {info : NodeInfo}
variable {infos : List (NodeId × ℕ)}

theorem new_wellFormed : (new selfNodeId nodeIds).WellFormed selfNodeId nodeIds where
  self_eq := new_self _ _
  mem_neighbours := fun v => mem_neighbours_new selfNodeId v nodeIds
  slot := by
    intro v hv
    rw [new_route]
    by_cases h : v = c_invalidNodeId
    · rw [if_pos h]
      rfl
    · rw [if_neg h, if_pos hv]
      rfl
  hop_reachable := by
    intro t info h hhop
    rw [new_route] at h
    by_cases ht : t = c_invalidNodeId
    · rw [if_pos ht] at h
      cases h
      exact absurd rfl hhop
    · rw [if_neg ht] at h
      by_cases hmem : t ∈ nodeIds
      · rw [if_pos hmem] at h
        cases h
        exact absurd rfl hhop
      · rw [if_neg hmem] at h
        cases h

theorem bestRoute_le (dv : DistanceVector) (vs : List NodeId) (t : NodeId) :
    (dv.bestRoute vs t).distance ≤ c_unreachableDistance :=
  (dv.bestRoute_isBest vs t).le_top

theorem bestRoute_hop_reachable (dv : DistanceVector) (vs : List NodeId) (t : NodeId)
    (h : (dv.bestRoute vs t).nextHop ≠ c_invalidNodeId) :
    (dv.bestRoute vs t).distance < c_unreachableDistance :=
  lt_of_le_of_ne (dv.bestRoute_le vs t) fun heq =>
    h ((dv.bestRoute_isBest vs t).absent_of_top heq)

/-- An offer is the slot of the neighbour, alone or with what the neighbour advertised. -/
theorem offer_eq_some_iff {c : ℕ} : dv.offer t v = some c ↔
    ∃ info, dv.route v = some info ∧ info.distance < c_unreachableDistance ∧
      (v = t ∧ c = info.distance ∨
        v ≠ t ∧ ∃ e, dv.cached v t = some e ∧ c = min c_unreachableDistance (info.distance + e)) := by
  unfold offer
  cases hroute : dv.route v with
  | none => simp only [reduceCtorEq, false_and, exists_false]
  | some info =>
    simp only [Option.some.injEq, exists_eq_left']
    by_cases hun : c_unreachableDistance ≤ info.distance
    · rw [if_pos hun]
      exact ⟨nofun, fun h => absurd hun (not_le.mpr h.1)⟩
    · have hlt : info.distance < c_unreachableDistance := not_le.mp hun
      rw [if_neg hun]
      by_cases hvt : v = t
      · rw [if_pos hvt]
        simp only [hlt, hvt, true_and, ne_eq, not_true_eq_false, false_and, or_false,
          Option.some.injEq]
        exact eq_comm
      · rw [if_neg hvt, Option.map_eq_some_iff]
        simp only [hlt, hvt, true_and, false_and, false_or, ne_eq, not_false_eq_true]
        refine exists_congr fun e => and_congr_right fun _ => ?_
        rw [addDistance_eq_min hlt]
        exact eq_comm

/-- An offer depends on the slot of the neighbour and on what the neighbour advertised. -/
theorem offer_congr (hroute : dv.route v = dv'.route v) (hcached : dv.cached v t = dv'.cached v t) :
    dv.offer t v = dv'.offer t v := by
  unfold offer
  rw [hroute, hcached]

/-! ### The operations keep the table well formed -/

theorem WellFormed.setRoute (h : dv.WellFormed selfNodeId nodeIds)
    (hinfo : info.nextHop ≠ c_invalidNodeId → info.distance < c_unreachableDistance) :
    (dv.setRoute t info).WellFormed selfNodeId nodeIds where
  self_eq := h.self_eq
  mem_neighbours := h.mem_neighbours
  slot := by
    intro v hv
    by_cases hvt : v = t
    · subst hvt
      rw [setRoute_route_same]
      rfl
    · rw [setRoute_route_ne _ _ hvt]
      exact h.slot v hv
  hop_reachable := by
    intro x i hx hhop
    by_cases hxt : x = t
    · subst hxt
      rw [setRoute_route_same] at hx
      cases hx
      exact hinfo hhop
    · rw [setRoute_route_ne _ _ hxt] at hx
      exact h.hop_reachable x i hx hhop

theorem WellFormed.recompute (h : dv.WellFormed selfNodeId nodeIds) :
    (dv.recomputeRoutesWithoutLock order).2.WellFormed selfNodeId nodeIds :=
  recomputeTargets_induction (P := fun dv => dv.WellFormed selfNodeId nodeIds)
    _ (fun dv t hdv => hdv.setRoute (dv.bestRoute_hop_reachable _ t)) false h

theorem WellFormed.setCache {cache : DvCache} (h : dv.WellFormed selfNodeId nodeIds)
    (hp : p ∈ nodeIds) : (dv.setCache p cache).WellFormed selfNodeId nodeIds where
  self_eq := h.self_eq
  mem_neighbours := by
    intro v
    rw [mem_setCache_neighbours, h.mem_neighbours]
    exact ⟨fun hv => hv.elim (fun heq => heq ▸ hp) id, .inr⟩
  slot := h.slot
  hop_reachable := h.hop_reachable

theorem setDirect_eq (dv : DistanceVector) (p : NodeId) (d : ℕ) : dv.setDirect p d =
    (if c_unreachableDistance ≤ d then dv.setCache p ∅ else dv).setRoute p
      { nextHop := if c_unreachableDistance ≤ d then c_invalidNodeId else p, distance := d } := by
  by_cases hd : c_unreachableDistance ≤ d
  · simp only [setDirect, DistanceVector.setRoute, DistanceVector.setCache, if_pos hd]
  · simp only [setDirect, DistanceVector.setRoute, if_neg hd]

theorem WellFormed.setDirect (h : dv.WellFormed selfNodeId nodeIds) (hp : p ∈ nodeIds) :
    (dv.setDirect p d).WellFormed selfNodeId nodeIds := by
  rw [setDirect_eq]
  by_cases hd : c_unreachableDistance ≤ d
  · rw [if_pos hd, if_pos hd]
    exact (h.setCache hp).setRoute fun hhop => absurd rfl hhop
  · rw [if_neg hd, if_neg hd]
    exact h.setRoute fun _ => not_le.mp hd

/-! ### Accepted calls -/

/-- `direct` is the state a measurement leaves just before the recomputation. -/
structure LinkUpdate (dv : DistanceVector) (p : NodeId) (d : ℕ) (direct : DistanceVector) :
    Prop where
  self_eq : direct.m_selfNodeId = dv.m_selfNodeId
  caches : direct.m_neighboursDVInfo = (dv.setDirect p d).m_neighboursDVInfo
  route : ∀ x, direct.route x = (dv.setDirect p d).route x

theorem WellFormed.updateNeighbourDistance_eq (h : dv.WellFormed selfNodeId nodeIds)
    (hp : p ∈ nodeIds) (hself : p ≠ selfNodeId) (hne : p ≠ c_invalidNodeId) :
    ∃ direct, LinkUpdate dv p d direct ∧ direct.WellFormed selfNodeId nodeIds ∧
      (dv.updateNeighbourDistance order p d).2 = (direct.recomputeRoutesWithoutLock order).2 := by
  obtain ⟨info, hinfo⟩ := Option.isSome_iff_exists.mp (h.slot p hp)
  obtain ⟨direct, hs, hc, hr, heq⟩ := updateNeighbourDistance_spec order d
    (h.self_eq.symm ▸ hself) hne hinfo (h.hop_reachable p info hinfo)
  have hdirect := h.setDirect d hp
  refine ⟨direct, ⟨hs, hc, hr⟩, ⟨hs.trans h.self_eq, ?_, ?_, ?_⟩, heq⟩
  · intro v
    rw [mem_neighbours_iff, hc]
    exact hdirect.mem_neighbours v
  · intro v hv
    rw [hr]
    exact hdirect.slot v hv
  · intro t i ht
    rw [hr] at ht
    exact hdirect.hop_reachable t i ht

theorem WellFormed.updateDvInfos_eq (h : dv.WellFormed selfNodeId nodeIds)
    (infos : List (NodeId × ℕ)) (hp : p ∈ nodeIds) (hself : p ≠ selfNodeId)
    (hne : p ≠ c_invalidNodeId) :
    dv.updateDvInfos order p infos =
      (dv.setCache p (cacheOf selfNodeId infos)).recomputeRoutesWithoutLock order := by
  rw [updateDvInfos_spec order (h.self_eq.symm ▸ hself) hne ((h.mem_neighbours p).mpr hp) (h.slot p hp),
    h.self_eq]

theorem WellFormed.updateNeighbourDistance (h : dv.WellFormed selfNodeId nodeIds)
    (hp : p ∈ nodeIds) :
    (dv.updateNeighbourDistance order p d).2.WellFormed selfNodeId nodeIds := by
  by_cases hguard : p = dv.m_selfNodeId ∨ p = c_invalidNodeId
  · rw [DistanceVector.updateNeighbourDistance, if_pos hguard]
    exact h
  · rw [not_or, h.self_eq] at hguard
    obtain ⟨direct, _, hdirect, heq⟩ :=
      h.updateNeighbourDistance_eq order d hp hguard.1 hguard.2
    rw [heq]
    exact hdirect.recompute order

theorem WellFormed.updateDvInfos (h : dv.WellFormed selfNodeId nodeIds) :
    (dv.updateDvInfos order p infos).2.WellFormed selfNodeId nodeIds := by
  unfold DistanceVector.updateDvInfos
  by_cases hguard : p = dv.m_selfNodeId ∨ p = c_invalidNodeId
  · rw [if_pos hguard]
    exact h
  rw [if_neg hguard]
  by_cases hn : p ∈ dv.m_neighboursDVInfo
  · rw [if_neg (not_not.mpr hn)]
    split
    · exact h
    · exact (h.setCache ((h.mem_neighbours p).mp hn)).recompute order
  · rw [if_pos hn]
    exact h

/-! ### Advertised vectors and the caches built from them -/

/-- What `dvInfo` tells a peer: every other entry of the table, poisoned where it leads back. -/
theorem mem_dvInfo {x : NodeId} : (x, d) ∈ dv.dvInfo p ↔
    p ≠ dv.m_selfNodeId ∧ x ≠ p ∧ ∃ info, dv.route x = some info ∧ d = advertised p info := by
  unfold dvInfo
  by_cases hself : p = dv.m_selfNodeId
  · rw [if_pos hself]
    simp [hself]
  · rw [if_neg hself, List.mem_filterMap]
    constructor
    · rintro ⟨entry, hentry, heq⟩
      by_cases hx : entry.1 = p
      · rw [if_pos hx] at heq
        cases heq
      · rw [if_neg hx] at heq
        cases heq
        exact ⟨hself, hx, entry.2, AList.mem_lookup_iff.mpr hentry, rfl⟩
    · rintro ⟨_, hx, info, hinfo, rfl⟩
      exact ⟨⟨x, info⟩, AList.mem_lookup_iff.mp hinfo, if_neg hx⟩

theorem dvInfo_keys_nodup (dv : DistanceVector) (p : NodeId) :
    ((dv.dvInfo p).map Prod.fst).Nodup := by
  unfold dvInfo
  by_cases hself : p = dv.m_selfNodeId
  · rw [if_pos hself]
    exact List.nodup_nil
  · rw [if_neg hself]
    have hkeys : ∀ l : List (Sigma fun _ : NodeId => NodeInfo),
        ((l.filterMap fun entry => if entry.1 = p then none
          else some (entry.1, advertised p entry.2)).map Prod.fst).Sublist l.keys := by
      intro l
      induction l with
      | nil => exact .slnil
      | cons entry l ih =>
        by_cases hx : entry.1 = p
        · simp only [List.filterMap_cons, if_pos hx]
          exact ih.cons entry.1
        · simp only [List.filterMap_cons, if_neg hx]
          exact ih.cons_cons entry.1
    exact dv.m_dvInfos.keys_nodup.sublist (hkeys _)

theorem cacheOf_concat (selfNodeId : NodeId) (infos : List (NodeId × ℕ)) (pair : NodeId × ℕ) :
    cacheOf selfNodeId (infos ++ [pair]) = cacheDvInfo selfNodeId (cacheOf selfNodeId infos) pair := by
  simp only [cacheOf, List.foldl_append, List.foldl_cons, List.foldl_nil]

/-- A cache holds nothing but advertised pairs, and never the own node. -/
theorem cacheOf_sound {x : NodeId} (h : (cacheOf selfNodeId infos).lookup x = some d) :
    (x, d) ∈ infos ∧ x ≠ selfNodeId := by
  induction infos using List.reverseRecOn with
  | nil => cases h
  | append_singleton infos pair ih =>
    have hold : (cacheOf selfNodeId infos).lookup x = some d →
        (x, d) ∈ infos ++ [pair] ∧ x ≠ selfNodeId := fun h' =>
      ⟨List.mem_append_left _ (ih h').1, (ih h').2⟩
    have hnew : ((cacheOf selfNodeId infos).insert pair.1 pair.2).lookup x = some d →
        selfNodeId ≠ pair.1 → (x, d) ∈ infos ++ [pair] ∧ x ≠ selfNodeId := by
      intro h' hself
      by_cases hx : x = pair.1
      · subst hx
        rw [AList.lookup_insert] at h'
        cases h'
        exact ⟨List.mem_append_right _ (List.mem_singleton_self _), hself.symm⟩
      · rw [AList.lookup_insert_ne hx] at h'
        exact hold h'
    rw [cacheOf_concat, cacheDvInfo] at h
    by_cases hself : selfNodeId = pair.1
    · rw [if_pos hself] at h
      exact hold h
    · rw [if_neg hself] at h
      cases hlook : (cacheOf selfNodeId infos).lookup pair.1 with
      | none =>
        rw [hlook] at h
        exact hnew h hself
      | some old =>
        rw [hlook] at h
        by_cases hlt : pair.2 < old
        · exact hnew (by simpa only [if_pos hlt] using h) hself
        · exact hold (by simpa only [if_neg hlt] using h)

/-- Without duplicates and without the own node a cache is the advertised vector itself. -/
theorem cacheOf_lookup_iff {x : NodeId} (hnd : (infos.map Prod.fst).Nodup)
    (hself : selfNodeId ∉ infos.map Prod.fst) :
    (cacheOf selfNodeId infos).lookup x = some d ↔ (x, d) ∈ infos := by
  refine ⟨fun h => (cacheOf_sound d h).1, ?_⟩
  induction infos using List.reverseRecOn with
  | nil =>
    intro h
    cases h
  | append_singleton infos pair ih =>
    rw [List.map_append, List.nodup_append] at hnd
    rw [List.map_append, List.mem_append, not_or] at hself
    have hne : ¬ selfNodeId = pair.1 := fun h => hself.2 (by simp [h])
    have hfresh : (cacheOf selfNodeId infos).lookup pair.1 = none := by
      rw [Option.eq_none_iff_forall_ne_some]
      intro e he
      have hmem := List.mem_map_of_mem (f := Prod.fst) (cacheOf_sound e he).1
      exact hnd.2.2 _ hmem pair.1 (by simp) rfl
    intro h
    rw [cacheOf_concat, cacheDvInfo, if_neg hne, hfresh]
    rcases List.mem_append.mp h with h | h
    · have hx : x ≠ pair.1 := by
        rintro rfl
        exact hnd.2.2 _ (List.mem_map_of_mem (f := Prod.fst) h) pair.1 (by simp) rfl
      exact (AList.lookup_insert_ne hx).trans (ih hnd.1 hself.1 h)
    · cases List.mem_singleton.mp h
      exact AList.lookup_insert _

end DistanceVector

end DistributedNetwork.Routing
