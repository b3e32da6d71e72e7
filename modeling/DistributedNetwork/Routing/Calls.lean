import Mathlib.Algebra.Group.Nat.Defs
import Mathlib.Order.Lattice
import DistributedNetwork.Library.TransitionSystem
import DistributedNetwork.Routing.BellmanFord

/-!
# One node under arbitrary calls

`nodeRuns selfNodeId nodeIds` drives a node with any calls at all: peers that are no neighbours, the own
node, the empty id, distances and vectors of any size.  Every call splits in three: its guards (`Accepts`),
its own write (`receive`) and the recomputation (`call_of_accepts`, `call_of_not_accepts`).

* `tableOk_after_update` — once a call was accepted, **every entry is consistent**: capped distance, no next
  hop exactly at the cap, and otherwise a neighbour;
* `onlyNeighboursChange` — calls about strangers change nothing, **except a measurement of a destination
  that was learned**: `updateNeighbourDistance` looks the peer up in the table, not among the neighbours;
* `ownEntryNever` — the constructor keys its first entry by the moved-from parameter, so in **every** state
  the empty id is a target, and the own id has no entry or an unreachable one.
-/

namespace DistributedNetwork.Routing

open DistributedNetwork.Library

/-- The node a call is about. -/
def Call.peerNodeId : Call → NodeId
  | .updateNeighbourDistance peerNodeId _ => peerNodeId
  | .updateDvInfos peerNodeId _ => peerNodeId

namespace DistanceVector

/-- A call: what it returns, and the node after it. -/
def call (order : IterationOrder) (dv : DistanceVector) : Call → Bool × DistanceVector
  | .updateNeighbourDistance peerNodeId distance =>
    dv.updateNeighbourDistance order peerNodeId distance
  | .updateDvInfos peerNodeId peerDvInfos => dv.updateDvInfos order peerNodeId peerDvInfos

/-- The guards of a call.  A measurement is looked up in the table, a vector among the neighbours. -/
def Accepts (dv : DistanceVector) : Call → Prop
  | .updateNeighbourDistance p _ =>
    p ≠ dv.m_selfNodeId ∧ p ≠ c_invalidNodeId ∧ (dv.route p).isSome
  | .updateDvInfos p _ =>
    p ≠ dv.m_selfNodeId ∧ p ≠ c_invalidNodeId ∧ p ∈ dv.neighbours ∧ (dv.route p).isSome

instance (dv : DistanceVector) : DecidablePred dv.Accepts
  | .updateNeighbourDistance _ _ => inferInstanceAs (Decidable (_ ∧ _ ∧ _))
  | .updateDvInfos _ _ => inferInstanceAs (Decidable (_ ∧ _ ∧ _ ∧ _))

/-- A measurement that differs from the table slot of its peer. -/
def isDirectChanged (dv : DistanceVector) : Call → Bool
  | .updateNeighbourDistance p d =>
    (dv.route p).any fun info => info.nextHop != p || info.distance != d
  | .updateDvInfos _ _ => false

/-- The node after the write of an accepted call itself, before any route is recomputed. -/
def receive (dv : DistanceVector) : Call → DistanceVector
  | .updateNeighbourDistance p d =>
    if dv.isDirectChanged (.updateNeighbourDistance p d) then dv.setDirect p d else dv
  | .updateDvInfos p infos => dv.setCache p (cacheOf dv.m_selfNodeId infos)

variable {order : IterationOrder} {dv dv' : DistanceVector} {c : Call} {p t v : NodeId} {d : ℕ}

/-! ### A call is its guards, its write and a recomputation -/

theorem call_of_not_accepts (h : ¬ dv.Accepts c) : dv.call order c = (false, dv) := by
  cases c with
  | updateNeighbourDistance p d =>
    show dv.updateNeighbourDistance order p d = _
    unfold updateNeighbourDistance
    by_cases hguard : p = dv.m_selfNodeId ∨ p = c_invalidNodeId
    · rw [if_pos hguard]
    · rw [if_neg hguard]
      cases hroute : dv.route p with
      | none => rfl
      | some info =>
        rw [not_or] at hguard
        exact absurd ⟨hguard.1, hguard.2, Option.isSome_of_mem hroute⟩ h
  | updateDvInfos p infos =>
    show dv.updateDvInfos order p infos = _
    unfold updateDvInfos
    by_cases hguard : p = dv.m_selfNodeId ∨ p = c_invalidNodeId
    · rw [if_pos hguard]
    · rw [if_neg hguard]
      split
      · rfl
      · next hn =>
        split
        · rfl
        · next hr =>
          rw [not_or] at hguard
          exact absurd ⟨hguard.1, hguard.2, not_not.mp hn, AList.lookup_isSome.mpr (not_not.mp hr)⟩ h

theorem call_of_accepts (h : dv.Accepts c) : dv.call order c =
    (dv.isDirectChanged c || ((dv.receive c).recomputeRoutesWithoutLock order).1,
      ((dv.receive c).recomputeRoutesWithoutLock order).2) := by
  cases c with
  | updateNeighbourDistance p d =>
    obtain ⟨hself, hne, hsome⟩ := h
    obtain ⟨info, hroute⟩ := Option.isSome_iff_exists.mp hsome
    have hguard : ¬ (p = dv.m_selfNodeId ∨ p = c_invalidNodeId) := not_or.mpr ⟨hself, hne⟩
    show dv.updateNeighbourDistance order p d = _
    simp only [updateNeighbourDistance, if_neg hguard, hroute, receive, isDirectChanged, Option.any_some]
  | updateDvInfos p infos =>
    obtain ⟨hself, hne, hn, hsome⟩ := h
    exact updateDvInfos_spec order hself hne hn hsome

/-! ### What the write of a call touches -/

@[simp] theorem receive_self : (dv.receive c).m_selfNodeId = dv.m_selfNodeId := by
  cases c with
  | updateNeighbourDistance p d =>
    simp only [receive]
    split
    · rfl
    · rfl
  | updateDvInfos p infos => rfl

theorem receive_route_ne (ht : t ≠ c.peerNodeId) : (dv.receive c).route t = dv.route t := by
  cases c with
  | updateNeighbourDistance p d =>
    simp only [receive]
    split
    · exact setDirect_route_ne _ _ ht
    · rfl
  | updateDvInfos p infos => rfl

/-- A call creates no table entry: its guards ask for the one of its peer. -/
theorem receive_route_isSome (h : dv.Accepts c) :
    ((dv.receive c).route t).isSome = (dv.route t).isSome := by
  by_cases ht : t = c.peerNodeId
  · subst ht
    cases c with
    | updateNeighbourDistance p d =>
      simp only [receive]
      split
      · exact (Option.isSome_of_mem (setDirect_route_same dv p d)).trans h.2.2.symm
      · rfl
    | updateDvInfos p infos => rfl
  · rw [receive_route_ne ht]

theorem mem_setDirect_neighbours : v ∈ (dv.setDirect p d).neighbours ↔
    v ∈ dv.neighbours ∨ v = p ∧ c_unreachableDistance ≤ d := by
  rw [setDirect_eq]
  by_cases hd : c_unreachableDistance ≤ d
  · rw [if_pos hd, if_pos hd]
    show v ∈ (dv.setCache p ∅).neighbours ↔ _
    rw [mem_setCache_neighbours, or_comm]
    simp only [hd, and_true]
  · rw [if_neg hd, if_neg hd]
    show v ∈ dv.neighbours ↔ _
    simp only [hd, and_false, or_false]

/-- An accepted call about a neighbour leaves the neighbours as they are. -/
theorem mem_receive_neighbours (hp : c.peerNodeId ∈ dv.neighbours) :
    v ∈ (dv.receive c).neighbours ↔ v ∈ dv.neighbours := by
  cases c with
  | updateNeighbourDistance p d =>
    simp only [receive]
    split
    · rw [mem_setDirect_neighbours]
      constructor
      · rintro (hv | ⟨rfl, _⟩)
        · exact hv
        · exact hp
      · exact .inl
    · exact Iff.rfl
  | updateDvInfos p infos =>
    show v ∈ (dv.setCache p _).neighbours ↔ _
    rw [mem_setCache_neighbours]
    constructor
    · rintro (rfl | hv)
      · exact hp
      · exact hv
    · exact .inr

/-- Whoever is a neighbour after the write was one before, or is the valid peer of the call. -/
theorem mem_neighbours_of_receive (h : dv.Accepts c) (hv : v ∈ (dv.receive c).neighbours) :
    v ∈ dv.neighbours ∨ v = c.peerNodeId := by
  cases c with
  | updateNeighbourDistance p d =>
    simp only [receive] at hv
    split at hv
    · exact (mem_setDirect_neighbours.mp hv).imp_right And.left
    · exact .inl hv
  | updateDvInfos p infos => exact .inl ((mem_receive_neighbours h.2.2.1).mp hv)

theorem Accepts.peer_ne_self (h : dv.Accepts c) : c.peerNodeId ≠ dv.m_selfNodeId := by
  cases c with
  | updateNeighbourDistance p d => exact h.1
  | updateDvInfos p infos => exact h.1

theorem Accepts.peer_valid (h : dv.Accepts c) : c.peerNodeId ≠ c_invalidNodeId := by
  cases c with
  | updateNeighbourDistance p d => exact h.2.1
  | updateDvInfos p infos => exact h.2.1

/-! ### What a recomputation guarantees, whatever it starts from -/

/-- **Consistent entries**: capped distance, no next hop exactly at the cap, otherwise a neighbour. -/
def TableOk (dv : DistanceVector) : Prop :=
  ∀ t info, dv.route t = some info →
    info.distance ≤ c_unreachableDistance ∧
      (info.nextHop = c_invalidNodeId ↔ info.distance = c_unreachableDistance) ∧
      (info.distance ≠ c_unreachableDistance → info.nextHop ∈ dv.neighbours)

theorem recompute_neighbours_eq (order : IterationOrder) (dv : DistanceVector) :
    (dv.recomputeRoutesWithoutLock order).2.neighbours = dv.neighbours :=
  congrArg AList.keys (recompute_neighboursDVInfo order)

theorem recompute_self (order : IterationOrder) (dv : DistanceVector) :
    (dv.recomputeRoutesWithoutLock order).2.m_selfNodeId = dv.m_selfNodeId :=
  recomputeTargets_induction (P := fun dv' => dv'.m_selfNodeId = dv.m_selfNodeId) _
    (fun _ _ h => h) false rfl

/-- After a recomputation a next hop is a neighbour, or there is none. -/
theorem recompute_hop {info : NodeInfo}
    (h : (dv.recomputeRoutesWithoutLock order).2.route t = some info) :
    info.nextHop = c_invalidNodeId ∧ info.distance = c_unreachableDistance ∨
      info.nextHop ∈ dv.neighbours ∧ info.distance < c_unreachableDistance := by
  obtain ⟨mid, _, _, _, rfl⟩ := recompute_route order h
  have hbest := mid.bestRoute_isBest (order.neighbours dv) t
  rcases hbest.le_top.lt_or_eq with hlt | heq
  · exact .inr ⟨(order.mem_neighbours dv _).mp (hbest.mem hlt), hlt⟩
  · exact .inl ⟨hbest.absent_of_top heq, heq⟩

theorem recompute_tableOk (order : IterationOrder) (h : c_invalidNodeId ∉ dv.neighbours) :
    (dv.recomputeRoutesWithoutLock order).2.TableOk := by
  intro t info hinfo
  rw [recompute_neighbours_eq]
  rcases recompute_hop hinfo with ⟨hhop, hdist⟩ | ⟨hhop, hdist⟩
  · exact ⟨hdist.le, ⟨fun _ => hdist, fun _ => hhop⟩, fun hne => absurd hdist hne⟩
  · refine ⟨hdist.le, ⟨fun hnone => ?_, fun heq => absurd heq hdist.ne⟩, fun _ => hhop⟩
    exact absurd (hnone ▸ hhop) h

theorem addDistance_eq (a b : ℕ) : addDistance a b = min c_unreachableDistance (a + b) := by
  by_cases ha : a < c_unreachableDistance
  · exact addDistance_eq_min ha
  · unfold addDistance
    rw [if_pos (.inl (not_lt.mp ha))]
    omega

/-! ### Runs of arbitrary calls -/

/-- A node built as `new selfNodeId nodeIds` and driven by any calls, each with an order of its own. -/
def nodeRuns (selfNodeId : NodeId) (nodeIds : List NodeId) :
    TransitionSystem DistanceVector (IterationOrder × Call) where
  init dv := dv = .new selfNodeId nodeIds
  step dv a := some (dv.call a.1 a.2).2

variable {selfNodeId : NodeId} {nodeIds : List NodeId} {guard : DistanceVector → IterationOrder × Call → Prop}

/-- **Run rule.**  What holds of a new node and is kept by the write and by the recomputation of every
accepted call holds in every state of a run. -/
theorem nodeRuns_invariant {I : DistanceVector → Prop} (hnew : I (.new selfNodeId nodeIds))
    (hcall : ∀ dv order c, I dv → guard dv (order, c) → dv.Accepts c →
      I ((dv.receive c).recomputeRoutesWithoutLock order).2)
    (h : (nodeRuns selfNodeId nodeIds).Reaches guard dv) : I dv := by
  refine h.invariant ?_ ?_
  · rintro _ rfl
    exact hnew
  · intro dv a _ hI hg hs
    cases hs
    by_cases hacc : dv.Accepts a.2
    · rw [call_of_accepts hacc]
      exact hcall dv a.1 a.2 hI hg hacc
    · rw [call_of_not_accepts hacc]
      exact hI

/-- No call ever makes the empty id a neighbour. -/
theorem invalid_notMem_neighbours (hids : c_invalidNodeId ∉ nodeIds)
    (h : (nodeRuns selfNodeId nodeIds).Reaches guard dv) : c_invalidNodeId ∉ dv.neighbours := by
  refine nodeRuns_invariant (I := fun dv => c_invalidNodeId ∉ dv.neighbours) ?_ ?_ h
  · rwa [mem_neighbours_new]
  · intro dv order c hdv _ hacc hmem
    rw [recompute_neighbours_eq] at hmem
    rcases mem_neighbours_of_receive hacc hmem with hold | hpeer
    · exact hdv hold
    · exact hacc.peer_valid hpeer.symm

/-- An accepted call makes the table consistent. -/
theorem call_tableOk (order : IterationOrder) (hdv : c_invalidNodeId ∉ dv.neighbours)
    (hacc : dv.Accepts c) :
    (dv.call order c).2.TableOk ∧ c_invalidNodeId ∉ (dv.call order c).2.neighbours := by
  have hreceived : c_invalidNodeId ∉ (dv.receive c).neighbours := by
    intro hmem
    rcases mem_neighbours_of_receive hacc hmem with hold | hpeer
    · exact hdv hold
    · exact hacc.peer_valid hpeer.symm
  rw [call_of_accepts hacc]
  exact ⟨recompute_tableOk order hreceived, by rwa [recompute_neighbours_eq]⟩

/-- Later calls, accepted or not, keep it consistent. -/
theorem run_tableOk {later : List (IterationOrder × Call)}
    (hdv : dv.TableOk ∧ c_invalidNodeId ∉ dv.neighbours)
    (hrun : (nodeRuns selfNodeId nodeIds).run dv later = some dv') : dv'.TableOk := by
  induction later generalizing dv with
  | nil =>
    cases hrun
    exact hdv.1
  | cons a later ih =>
    have hrest : (nodeRuns selfNodeId nodeIds).run (dv.call a.1 a.2).2 later = some dv' := hrun
    refine ih ?_ hrest
    by_cases hacc : dv.Accepts a.2
    · exact call_tableOk a.1 hdv.2 hacc
    · rwa [call_of_not_accepts hacc]

/-- **Table well-formedness.**  After an accepted call, and after any calls that follow it, every entry is
consistent; the sum of two distances never wraps. -/
theorem tableOk_after_update (selfNodeId : NodeId) (nodeIds : List NodeId)
    (hids : c_invalidNodeId ∉ nodeIds) (dv : DistanceVector)
    (hdv : (nodeRuns selfNodeId nodeIds).Reachable dv) (order : IterationOrder) (c : Call)
    (hc : dv.Accepts c) (later : List (IterationOrder × Call)) (dv' : DistanceVector)
    (hrun : (nodeRuns selfNodeId nodeIds).run (dv.call order c).2 later = some dv') :
    dv'.TableOk ∧ ∀ a b, addDistance a b = min c_unreachableDistance (a + b) ∧
      (a < c_unreachableDistance → b < c_unreachableDistance → (a + b) % 2 ^ 32 = a + b) := by
  refine ⟨?_, fun a b => ⟨addDistance_eq a b, fun ha hb => Nat.mod_eq_of_lt ?_⟩⟩
  · exact run_tableOk (call_tableOk order (invalid_notMem_neighbours hids hdv) hc) hrun
  · simp only [c_unreachableDistance] at ha hb
    omega

/-- Distances far above the cap are cut down by the call that brings them in. -/
theorem tableOk_after_update_capped :
    ((DistanceVector.new "A" ["E"]).call .stored (.updateNeighbourDistance "E" 9999)).2.TableOk ∧
      ∀ a b, addDistance a b = min c_unreachableDistance (a + b) ∧
        (a < c_unreachableDistance → b < c_unreachableDistance → (a + b) % 2 ^ 32 = a + b) :=
  tableOk_after_update "A" ["E"] (by decide) _ (.init rfl) .stored
    (.updateNeighbourDistance "E" 9999) (by decide) [] _ rfl

/-! ### Who can change the state -/

/-- Calls that must not do anything: the peer is not one of the constructor's neighbours, is the node
itself, or is the invalid id. -/
def Foreign (selfNodeId : NodeId) (nodeIds : List NodeId) (c : Call) : Prop :=
  c.peerNodeId ∉ nodeIds ∨ c.peerNodeId = selfNodeId ∨ c.peerNodeId = c_invalidNodeId

/-- A measurement of a node that is no neighbour but has a table entry, learned from some vector. -/
def MeasuresLearned (nodeIds : List NodeId) (dv : DistanceVector) : Call → Prop
  | .updateNeighbourDistance p _ =>
    p ∉ nodeIds ∧ p ≠ dv.m_selfNodeId ∧ p ≠ c_invalidNodeId ∧ (dv.route p).isSome
  | .updateDvInfos _ _ => False

instance (nodeIds : List NodeId) (dv : DistanceVector) : DecidablePred (dv.MeasuresLearned nodeIds)
  | .updateNeighbourDistance _ _ => inferInstanceAs (Decidable (_ ∧ _ ∧ _ ∧ _))
  | .updateDvInfos _ _ => inferInstanceAs (Decidable False)

/-- What runs keep as long as no learned destination is measured. -/
structure NeighboursKept (selfNodeId : NodeId) (nodeIds : List NodeId) (dv : DistanceVector) :
    Prop where
  self_eq : dv.m_selfNodeId = selfNodeId
  mem_neighbours : ∀ v, v ∈ dv.neighbours ↔ v ∈ nodeIds
  hop : ∀ t info, dv.route t = some info →
    info.nextHop = c_invalidNodeId ∨ info.nextHop ∈ nodeIds

theorem new_neighboursKept : (new selfNodeId nodeIds).NeighboursKept selfNodeId nodeIds where
  self_eq := new_self _ _
  mem_neighbours := fun v => mem_neighbours_new selfNodeId v nodeIds
  hop := by
    intro t info h
    rw [new_route] at h
    split at h
    · cases h
      exact .inl rfl
    · split at h
      · cases h
        exact .inl rfl
      · cases h

/-- An accepted call that measures no learned destination is about a neighbour. -/
theorem NeighboursKept.peer_mem (h : dv.NeighboursKept selfNodeId nodeIds) (hacc : dv.Accepts c)
    (hc : ¬ dv.MeasuresLearned nodeIds c) : c.peerNodeId ∈ nodeIds := by
  cases c with
  | updateNeighbourDistance p d =>
    by_contra hp
    exact hc ⟨hp, hacc⟩
  | updateDvInfos p infos => exact (h.mem_neighbours p).mp hacc.2.2.1

theorem NeighboursKept.call (h : dv.NeighboursKept selfNodeId nodeIds) (hacc : dv.Accepts c)
    (hc : ¬ dv.MeasuresLearned nodeIds c) :
    ((dv.receive c).recomputeRoutesWithoutLock order).2.NeighboursKept selfNodeId nodeIds := by
  have hpeer := (h.mem_neighbours _).mpr (h.peer_mem hacc hc)
  have hmem : ∀ v, v ∈ (dv.receive c).neighbours ↔ v ∈ nodeIds := fun v =>
    (mem_receive_neighbours hpeer).trans (h.mem_neighbours v)
  refine ⟨(recompute_self order _).trans (receive_self.trans h.self_eq), fun v => ?_, ?_⟩
  · rw [recompute_neighbours_eq]
    exact hmem v
  · intro t info hinfo
    rcases recompute_hop hinfo with ⟨hhop, _⟩ | ⟨hhop, _⟩
    · exact .inl hhop
    · exact .inr ((hmem _).mp hhop)

/-- A learned destination has a next hop other than itself, so measuring it always counts as a change. -/
theorem NeighboursKept.measuresLearned_fst (h : dv.NeighboursKept selfNodeId nodeIds)
    (order : IterationOrder) (hc : dv.MeasuresLearned nodeIds c) : (dv.call order c).1 = true := by
  cases c with
  | updateNeighbourDistance p d =>
    obtain ⟨hp, hself, hne, hsome⟩ := hc
    obtain ⟨info, hroute⟩ := Option.isSome_iff_exists.mp hsome
    have hhop : info.nextHop ≠ p := by
      intro heq
      rcases h.hop p info hroute with hnone | hmem
      · exact hne (heq.symm.trans hnone)
      · exact hp (heq ▸ hmem)
    have hacc : dv.Accepts (.updateNeighbourDistance p d) := ⟨hself, hne, hsome⟩
    rw [call_of_accepts hacc]
    simp [isDirectChanged, hroute, hhop]
  | updateDvInfos p infos => exact hc.elim

/-- **Only neighbours change the state**, in every run that measures no learned destination: the
neighbours are those of the constructor, and the next foreign call returns `false` and changes nothing
**if and only if** it is not such a measurement either. -/
theorem onlyNeighboursChange (selfNodeId : NodeId) (nodeIds : List NodeId) (dv : DistanceVector)
    (h : (nodeRuns selfNodeId nodeIds).Reaches (fun dv a => ¬ dv.MeasuresLearned nodeIds a.2) dv) :
    (∀ v, v ∈ dv.neighbours ↔ v ∈ nodeIds) ∧
      ∀ order c, Foreign selfNodeId nodeIds c →
        (dv.call order c = (false, dv) ↔ ¬ dv.MeasuresLearned nodeIds c) := by
  have hkept : dv.NeighboursKept selfNodeId nodeIds :=
    nodeRuns_invariant new_neighboursKept (fun dv order c hdv hg hacc => hdv.call hacc hg) h
  refine ⟨hkept.mem_neighbours, fun order c hforeign => ⟨fun hcall hc => ?_, fun hc => ?_⟩⟩
  · have hflag := hkept.measuresLearned_fst order hc
    rw [hcall] at hflag
    cases hflag
  · apply call_of_not_accepts
    intro hacc
    rcases hforeign with hp | hself | hne
    · exact hp (hkept.peer_mem hacc hc)
    · exact hacc.peer_ne_self (hself.trans hkept.self_eq.symm)
    · exact hacc.peer_valid hne

/-- `A` learns about `C` from its only neighbour `B`. -/
def learnedC : DistanceVector :=
  [Call.updateNeighbourDistance "B" 1, .updateDvInfos "B" [("C", 2)]].foldl
    (fun dv c => (dv.call .stored c).2) (.new "A" ["B"])

theorem learnedC_reaches : (nodeRuns "A" ["B"]).Reaches
    (fun dv a => ¬ dv.MeasuresLearned ["B"] a.2) learnedC := by
  refine .step (a := (.stored, .updateDvInfos "B" [("C", 2)])) ?_ id rfl
  exact .step (a := (.stored, .updateNeighbourDistance "B" 1)) (.init rfl) (by decide) rfl

theorem onlyNeighboursChange_learned :
    (∀ v, v ∈ learnedC.neighbours ↔ v ∈ ["B"]) ∧
      ∀ order c, Foreign "A" ["B"] c →
        (learnedC.call order c = (false, learnedC) ↔ ¬ learnedC.MeasuresLearned ["B"] c) :=
  onlyNeighboursChange "A" ["B"] learnedC learnedC_reaches

/-- **A stranger becomes a neighbour.**  `C` is measured as unreachable: the call returns `true`, and the
subscript into the cache has made `C` a neighbour. -/
theorem stranger_becomes_neighbour : (nodeRuns "A" ["B"]).Reachable learnedC ∧
    Foreign "A" ["B"] (.updateNeighbourDistance "C" 750) ∧
    (learnedC.call .stored (.updateNeighbourDistance "C" 750)).1 = true ∧
    (learnedC.call .stored (.updateNeighbourDistance "C" 750)).2.neighbours = ["C", "B"] :=
  ⟨learnedC_reaches.reachable, .inl (by decide), by decide, by decide⟩

/-! ### The empty id and the own id -/

/-- What the entry written by the constructor is for: no empty id in the table or in an advertised vector,
and an own entry that is the node itself at distance `0`. -/
structure OwnEntryRight (selfNodeId : NodeId) (dv : DistanceVector) : Prop where
  key_valid : ∀ t, (dv.route t).isSome → t ≠ c_invalidNodeId
  advertised_valid : ∀ peer t d, (t, d) ∈ dv.dvInfo peer → t ≠ c_invalidNodeId
  own : ∀ info, dv.route selfNodeId = some info → info = { nextHop := selfNodeId, distance := 0 }

/-- What every run keeps: the empty id is a target; the own id is one exactly when it was listed among the
neighbours, and then it is offered by nobody and never measured. -/
structure OwnEntryLost (selfNodeId : NodeId) (nodeIds : List NodeId) (dv : DistanceVector) : Prop where
  self_eq : dv.m_selfNodeId = selfNodeId
  self_mem : selfNodeId ∈ dv.neighbours ↔ selfNodeId ∈ nodeIds
  invalid_key : (dv.route c_invalidNodeId).isSome
  self_cached : ∀ v, dv.cached v selfNodeId = none
  self_key : (dv.route selfNodeId).isSome ↔ selfNodeId ∈ nodeIds
  self_unknown : ∀ info, dv.route selfNodeId = some info → info = {}

theorem new_ownEntryLost (hself : selfNodeId ≠ c_invalidNodeId) :
    (new selfNodeId nodeIds).OwnEntryLost selfNodeId nodeIds where
  self_eq := new_self _ _
  self_mem := mem_neighbours_new selfNodeId selfNodeId nodeIds
  invalid_key := by
    rw [new_route, if_pos rfl]
    rfl
  self_cached := fun v => new_cached selfNodeId v selfNodeId nodeIds
  self_key := by
    rw [new_route, if_neg hself]
    split
    · next hmem => exact ⟨fun _ => hmem, fun _ => rfl⟩
    · next hmem => exact ⟨nofun, fun h => absurd h hmem⟩
  self_unknown := by
    intro info h
    rw [new_route, if_neg hself] at h
    split at h
    · cases h
      rfl
    · cases h

/-- Nobody offers a target that no cache lists and whose own slot, if it has one, is unreachable. -/
theorem bestRoute_eq_default {vs : List NodeId} (hcached : ∀ v, dv.cached v t = none)
    (hslot : ∀ info, dv.route t = some info → c_unreachableDistance ≤ info.distance) :
    dv.bestRoute vs t = {} := by
  have hnone : ∀ v, dv.offer t v = none := by
    intro v
    rw [Option.eq_none_iff_forall_ne_some]
    intro c hc
    obtain ⟨info, hroute, hlt, ⟨rfl, _⟩ | ⟨_, e, he, _⟩⟩ := offer_eq_some_iff.mp hc
    · exact absurd (hslot info hroute) (not_le.mpr hlt)
    · rw [hcached] at he
      cases he
  induction vs using List.reverseRecOn with
  | nil => rfl
  | append_singleton vs v ih =>
    unfold bestRoute at ih ⊢
    rw [List.foldl_append, ih]
    simp only [List.foldl_cons, List.foldl_nil, hnone]

/-- A new cache that does not list a target leaves it unlisted. -/
theorem setCache_cached_eq_none {p : NodeId} {cache : AList fun _ : NodeId => ℕ}
    (hcache : cache.lookup t = none) (h : dv.cached v t = none) :
    (dv.setCache p cache).cached v t = none := by
  by_cases hv : v = p
  · rw [hv, setCache_cached_same, hcache]
  · rw [setCache_cached_ne _ _ _ hv, h]

/-- The write of a call brings nothing about the own node. -/
theorem OwnEntryLost.receive (h : dv.OwnEntryLost selfNodeId nodeIds) (hacc : dv.Accepts c) :
    (dv.receive c).OwnEntryLost selfNodeId nodeIds := by
  have hpeer : selfNodeId ≠ c.peerNodeId := fun heq => hacc.peer_ne_self (heq.symm.trans h.self_eq.symm)
  have hroute : (dv.receive c).route selfNodeId = dv.route selfNodeId := receive_route_ne hpeer
  refine ⟨receive_self.trans h.self_eq, ?_, ?_, fun v => ?_, ?_, ?_⟩
  · rw [← h.self_mem]
    refine ⟨fun hmem => ?_, fun hmem => ?_⟩
    · exact (mem_neighbours_of_receive hacc hmem).resolve_right hpeer
    · cases c with
      | updateNeighbourDistance p d =>
        simp only [DistanceVector.receive]
        split
        · exact mem_setDirect_neighbours.mpr (.inl hmem)
        · exact hmem
      | updateDvInfos p infos => exact (dv.mem_setCache_neighbours selfNodeId p _).mpr (.inr hmem)
  · rw [receive_route_isSome hacc]
    exact h.invalid_key
  · cases c with
    | updateNeighbourDistance p d =>
      simp only [DistanceVector.receive]
      split
      · rw [setDirect_eq]
        show (if c_unreachableDistance ≤ d then dv.setCache p ∅ else dv).cached v selfNodeId = none
        split
        · exact setCache_cached_eq_none rfl (h.self_cached v)
        · exact h.self_cached v
      · exact h.self_cached v
    | updateDvInfos p infos =>
      refine setCache_cached_eq_none ?_ (h.self_cached v)
      rw [h.self_eq, Option.eq_none_iff_forall_ne_some]
      exact fun d hd => (cacheOf_sound d hd).2 rfl
  · rw [hroute]
    exact h.self_key
  · rw [hroute]
    exact h.self_unknown

theorem OwnEntryLost.recompute (order : IterationOrder) (h : dv.OwnEntryLost selfNodeId nodeIds) :
    (dv.recomputeRoutesWithoutLock order).2.OwnEntryLost selfNodeId nodeIds := by
  have hcached : ∀ v, (dv.recomputeRoutesWithoutLock order).2.cached v selfNodeId = none := by
    intro v
    unfold cached
    rw [recompute_neighboursDVInfo]
    exact h.self_cached v
  have hunknown : ∀ info, (dv.recomputeRoutesWithoutLock order).2.route selfNodeId = some info →
      info = {} := by
    intro info hinfo
    obtain ⟨mid, hcache, hmid, _, rfl⟩ := recompute_route order hinfo
    apply bestRoute_eq_default
    · intro v
      unfold cached
      rw [hcache]
      exact h.self_cached v
    · intro i hi
      rw [hmid] at hi
      exact (congrArg NodeInfo.distance (h.self_unknown i hi)).ge
  refine ⟨(recompute_self order dv).trans h.self_eq, ?_, ?_, hcached, ?_, hunknown⟩
  · rw [recompute_neighbours_eq]
    exact h.self_mem
  · exact recompute_route_isSome order (mem_targetNodes.mpr (.inl h.invalid_key))
  · constructor
    · intro hsome
      by_contra hself
      have ht : selfNodeId ∉ dv.targetNodes := by
        rw [mem_targetNodes]
        rintro (hroute | hmem | ⟨v, hv⟩)
        · exact hself (h.self_key.mp hroute)
        · exact hself (h.self_mem.mp hmem)
        · rw [h.self_cached] at hv
          cases hv
      have hsame : (dv.recomputeRoutesWithoutLock order).2.route selfNodeId = dv.route selfNodeId :=
        recomputeTargets_route_notMem _ (fun hmem => ht ((order.mem_targets dv _).mp hmem)) _ _
      rw [hsame] at hsome
      exact hself (h.self_key.mp hsome)
    · intro hself
      exact recompute_route_isSome order (mem_targetNodes.mpr (.inl (h.self_key.mpr hself)))

theorem ownEntryLost_of_reachable (hself : selfNodeId ≠ c_invalidNodeId)
    (h : (nodeRuns selfNodeId nodeIds).Reaches guard dv) : dv.OwnEntryLost selfNodeId nodeIds :=
  nodeRuns_invariant (new_ownEntryLost hself) (fun _ order _ hdv _ hacc => (hdv.receive hacc).recompute order) h

/-- **The own entry is never right.**  In every state of every run the empty id is a target and is
advertised to every other node; the own id, if it was listed among the neighbours, is a target at the
unreachable distance without next hop, and is advertised so. -/
theorem ownEntryNever (selfNodeId : NodeId) (nodeIds : List NodeId)
    (hself : selfNodeId ≠ c_invalidNodeId) (dv : DistanceVector)
    (h : (nodeRuns selfNodeId nodeIds).Reachable dv) :
    ¬ dv.OwnEntryRight selfNodeId ∧ (dv.route c_invalidNodeId).isSome ∧
      (∀ peer, peer ≠ selfNodeId → peer ≠ c_invalidNodeId →
        ∃ d, (c_invalidNodeId, d) ∈ dv.dvInfo peer) ∧
      (selfNodeId ∈ nodeIds → dv.route selfNodeId = some {} ∧
        ∀ peer, peer ≠ selfNodeId → (selfNodeId, c_unreachableDistance) ∈ dv.dvInfo peer) ∧
      (selfNodeId ∉ nodeIds → dv.route selfNodeId = none) := by
  have hlost := ownEntryLost_of_reachable hself h
  refine ⟨fun hright => hright.key_valid _ hlost.invalid_key rfl, hlost.invalid_key, ?_, ?_, ?_⟩
  · intro peer hpeer hne
    obtain ⟨info, hinfo⟩ := Option.isSome_iff_exists.mp hlost.invalid_key
    exact ⟨_, (mem_dvInfo _).mpr ⟨hlost.self_eq ▸ hpeer, hne.symm, info, hinfo, rfl⟩⟩
  · intro hmem
    obtain ⟨info, hinfo⟩ := Option.isSome_iff_exists.mp (hlost.self_key.mpr hmem)
    rw [hlost.self_unknown info hinfo] at hinfo
    refine ⟨hinfo, fun peer hpeer => ?_⟩
    refine (mem_dvInfo _).mpr ⟨hlost.self_eq ▸ hpeer, hpeer.symm, {}, hinfo, ?_⟩
    unfold advertised
    split
    · rfl
    · rfl
  · intro hmem
    rw [Option.eq_none_iff_forall_ne_some]
    exact fun info hinfo => hmem (hlost.self_key.mp (Option.isSome_of_mem hinfo))

/-- The generated configuration lists the own id among the cluster's servers. -/
theorem ownEntryNever_new :
    ¬ (new "A" ["A", "B"]).OwnEntryRight "A" ∧ ((new "A" ["A", "B"]).route c_invalidNodeId).isSome ∧
      (∀ peer, peer ≠ "A" → peer ≠ c_invalidNodeId →
        ∃ d, (c_invalidNodeId, d) ∈ (new "A" ["A", "B"]).dvInfo peer) ∧
      ("A" ∈ ["A", "B"] → (new "A" ["A", "B"]).route "A" = some {} ∧
        ∀ peer, peer ≠ "A" → ("A", c_unreachableDistance) ∈ (new "A" ["A", "B"]).dvInfo peer) ∧
      ("A" ∉ ["A", "B"] → (new "A" ["A", "B"]).route "A" = none) :=
  ownEntryNever "A" ["A", "B"] (by decide) _ (.init rfl)

/-- **An empty destination at distance `0`**, and the own node as unreachable, in the first vector sent. -/
theorem own_entry_wrong : (nodeRuns "A" ["A", "B"]).Reachable (new "A" ["A", "B"]) ∧
    (new "A" ["A", "B"]).dvInfo "B" = [("A", 750), ("", 0)] ∧
    (new "A" ["A", "B"]).route "A" = some ⟨"", 750⟩ ∧ ¬ (new "A" ["A", "B"]).OwnEntryRight "A" := by
  have hentry : (new "A" ["A", "B"]).route "" = some ⟨"", 0⟩ := by decide
  refine ⟨.init rfl, by decide, by decide, fun hright => ?_⟩
  exact hright.key_valid "" (Option.isSome_of_mem hentry) rfl

end DistanceVector

end DistributedNetwork.Routing
