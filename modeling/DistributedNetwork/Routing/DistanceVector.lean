import Mathlib.Data.List.AList
import Mathlib.Data.List.Dedup
import Mathlib.Data.List.Induction
import Mathlib.Data.String.Basic
import Mathlib.Tactic.Common
import DistributedNetwork.Library.BestChoice

/-!
# The distance-vector table of one node

The routing table `m_dvInfos` keeps for every target a next hop and a distance; the cache
`m_neighboursDVInfo` keeps for every neighbour the vector it advertised last.  Both are hash maps:
the model stores them as association lists without duplicate keys, and every loop over a hash map
takes its visiting order from an `IterationOrder`, which may answer with **any** permutation of the
keys.

* `updateNeighbourDistance` — a measured link cost is written **into the table slot of the neighbour**
  and the routes are recomputed;
* `updateDvInfos` — the cached vector of a neighbour is replaced and the routes are recomputed;
* `recomputeRoutesWithoutLock` — for every target the best offer over all neighbours, where the cost
  of a link is read back from the table slot that the same loop overwrites;
* `dvInfo` — the vector advertised to one neighbour, with poisoned reverse.

`recomputeTargets_spec` says what the loop leaves for each target: the best route of the state in
which that target was visited.
-/

namespace DistributedNetwork.Routing

open DistributedNetwork.Library

abbrev NodeId := String

def c_invalidNodeId : NodeId := ""

/-- Distances are 32-bit in the source and naturals here; the one addition is explicit about it. -/
def c_unreachableDistance : ℕ := 750

/-- A table entry; the defaults are those of an unknown target. -/
structure NodeInfo where
  nextHop : NodeId := c_invalidNodeId
  distance : ℕ := c_unreachableDistance
  deriving DecidableEq, Repr

abbrev DvInfos := AList fun _ : NodeId => NodeInfo

abbrev DvCache := AList fun _ : NodeId => ℕ

structure DistanceVector where
  m_selfNodeId : NodeId
  m_dvInfos : DvInfos
  m_neighboursDVInfo : AList fun _ : NodeId => DvCache

/-- The sum saturates at the unreachable distance; the machine addition is modulo `2 ^ 32`. -/
def addDistance (a b : ℕ) : ℕ :=
  if c_unreachableDistance ≤ a ∨ c_unreachableDistance ≤ b then c_unreachableDistance
  else
    let result := (a + b) % 2 ^ 32
    if c_unreachableDistance < result then c_unreachableDistance else result

namespace DistanceVector

/-- The table entry of a target. -/
def route (dv : DistanceVector) (target : NodeId) : Option NodeInfo :=
  dv.m_dvInfos.lookup target

/-- The distance a neighbour last advertised for a target. -/
def cached (dv : DistanceVector) (neighbour target : NodeId) : Option ℕ :=
  (dv.m_neighboursDVInfo.lookup neighbour).bind fun cache => cache.lookup target

def neighbours (dv : DistanceVector) : List NodeId :=
  dv.m_neighboursDVInfo.keys

def distance (dv : DistanceVector) (target : NodeId) : Option (ℕ × NodeId) :=
  (dv.route target).map fun info => (info.distance, info.nextHop)

/-! ### Construction -/

def addNeighbour (dv : DistanceVector) (nodeId : NodeId) : DistanceVector :=
  { dv with
    m_dvInfos := if nodeId ∈ dv.m_dvInfos then dv.m_dvInfos else dv.m_dvInfos.insert nodeId {}
    m_neighboursDVInfo := dv.m_neighboursDVInfo.insert nodeId ∅ }

/-- The constructor.  Its parameter has been moved into `m_selfNodeId` when the body writes the first
table entry, so that entry is keyed by the empty string the move leaves behind. -/
def new (selfNodeId : NodeId) (nodeIds : List NodeId) : DistanceVector :=
  let nodeId := c_invalidNodeId
  nodeIds.foldl addNeighbour
    { m_selfNodeId := selfNodeId
      m_dvInfos := (∅ : DvInfos).insert nodeId { nextHop := nodeId, distance := 0 }
      m_neighboursDVInfo := ∅ }

/-! ### Recomputing the routes -/

/-- What `neighbour` offers for `target`: nothing when the table slot of the neighbour is missing or
unreachable, or when the neighbour never advertised the target. -/
def offer (dv : DistanceVector) (target neighbour : NodeId) : Option ℕ :=
  match dv.route neighbour with
  | none => none
  | some info =>
    if c_unreachableDistance ≤ info.distance then none
    else if neighbour = target then some info.distance
    else (dv.cached neighbour target).map (addDistance info.distance)

/-- One comparison of the inner loop. -/
def relax (best : NodeInfo) (neighbour : NodeId) (distance : ℕ) : NodeInfo :=
  if best.distance > distance ∨ (best.distance = distance ∧ neighbour < best.nextHop) then
    { distance := distance
      nextHop := if c_unreachableDistance ≤ distance then c_invalidNodeId else neighbour }
  else best

/-- The inner loop: the best offer of the neighbours, in the order given. -/
def bestRoute (dv : DistanceVector) (neighbours : List NodeId) (target : NodeId) : NodeInfo :=
  neighbours.foldl (fun best neighbour =>
    match dv.offer target neighbour with
    | none => best
    | some distance => relax best neighbour distance) {}

def setRoute (dv : DistanceVector) (target : NodeId) (info : NodeInfo) : DistanceVector :=
  { dv with m_dvInfos := dv.m_dvInfos.insert target info }

/-- The outer loop: each target's entry is replaced at once, so later targets read it. -/
def recomputeTargets (neighbours : List NodeId) :
    List NodeId → Bool → DistanceVector → Bool × DistanceVector
  | [], isUpdated, dv => (isUpdated, dv)
  | target :: targets, isUpdated, dv =>
    let best := dv.bestRoute neighbours target
    recomputeTargets neighbours targets (isUpdated || dv.route target != some best)
      (dv.setRoute target best)

/-- The nodes visited by a recomputation: table keys, neighbours, and everything in a cache. -/
def targetNodes (dv : DistanceVector) : List NodeId :=
  (dv.m_dvInfos.keys ++ dv.m_neighboursDVInfo.keys ++
    dv.m_neighboursDVInfo.entries.flatMap fun entry => entry.2.keys).dedup

end DistanceVector

/-- The orders in which a hash set of targets and a hash map of neighbours are traversed: any
permutations of their keys. -/
structure IterationOrder where
  targets : DistanceVector → List NodeId
  neighbours : DistanceVector → List NodeId
  targets_perm : ∀ dv, (targets dv).Perm dv.targetNodes
  neighbours_perm : ∀ dv, (neighbours dv).Perm dv.neighbours

namespace IterationOrder

/-- Traversal in the order in which the model stores the keys. -/
def stored : IterationOrder where
  targets := DistanceVector.targetNodes
  neighbours := DistanceVector.neighbours
  targets_perm := fun _ => .refl _
  neighbours_perm := fun _ => .refl _

theorem targets_nodup (order : IterationOrder) (dv : DistanceVector) : (order.targets dv).Nodup :=
  (order.targets_perm dv).nodup_iff.mpr (List.nodup_dedup _)

theorem neighbours_nodup (order : IterationOrder) (dv : DistanceVector) :
    (order.neighbours dv).Nodup :=
  (order.neighbours_perm dv).nodup_iff.mpr (AList.keys_nodup _)

theorem mem_targets (order : IterationOrder) (dv : DistanceVector) (t : NodeId) :
    t ∈ order.targets dv ↔ t ∈ dv.targetNodes :=
  (order.targets_perm dv).mem_iff

theorem mem_neighbours (order : IterationOrder) (dv : DistanceVector) (v : NodeId) :
    v ∈ order.neighbours dv ↔ v ∈ dv.neighbours :=
  (order.neighbours_perm dv).mem_iff

end IterationOrder

namespace DistanceVector

def recomputeRoutesWithoutLock (order : IterationOrder) (dv : DistanceVector) :
    Bool × DistanceVector :=
  recomputeTargets (order.neighbours dv) (order.targets dv) false dv

/-! ### The two updates -/

/-- The direct write of `updateNeighbourDistance`.  An unreachable neighbour also loses its cached
vector; the subscript creates the cache entry when there is none. -/
def setDirect (dv : DistanceVector) (peerNodeId : NodeId) (distance : ℕ) : DistanceVector :=
  { dv with
    m_dvInfos := dv.m_dvInfos.insert peerNodeId
      { nextHop := if c_unreachableDistance ≤ distance then c_invalidNodeId else peerNodeId
        distance := distance }
    m_neighboursDVInfo :=
      if c_unreachableDistance ≤ distance then dv.m_neighboursDVInfo.insert peerNodeId ∅
      else dv.m_neighboursDVInfo }

def updateNeighbourDistance (order : IterationOrder) (dv : DistanceVector) (peerNodeId : NodeId)
    (distance : ℕ) : Bool × DistanceVector :=
  if peerNodeId = dv.m_selfNodeId ∨ peerNodeId = c_invalidNodeId then (false, dv)
  else
    match dv.route peerNodeId with
    | none => (false, dv)
    | some info =>
      let isDirectChanged := info.nextHop != peerNodeId || info.distance != distance
      let direct := if isDirectChanged then dv.setDirect peerNodeId distance else dv
      let recomputed := direct.recomputeRoutesWithoutLock order
      (isDirectChanged || recomputed.1, recomputed.2)

/-- One advertised pair enters the cache: the own node is skipped, a duplicate keeps the smaller
distance. -/
def cacheDvInfo (selfNodeId : NodeId) (cache : DvCache) (peerDvInfo : NodeId × ℕ) : DvCache :=
  if selfNodeId = peerDvInfo.1 then cache
  else
    match cache.lookup peerDvInfo.1 with
    | some old => if peerDvInfo.2 < old then cache.insert peerDvInfo.1 peerDvInfo.2 else cache
    | none => cache.insert peerDvInfo.1 peerDvInfo.2

/-- The cache built from an advertised vector. -/
def cacheOf (selfNodeId : NodeId) (peerDvInfos : List (NodeId × ℕ)) : DvCache :=
  peerDvInfos.foldl (cacheDvInfo selfNodeId) ∅

def setCache (dv : DistanceVector) (peerNodeId : NodeId) (cache : DvCache) : DistanceVector :=
  { dv with m_neighboursDVInfo := dv.m_neighboursDVInfo.insert peerNodeId cache }

def updateDvInfos (order : IterationOrder) (dv : DistanceVector) (peerNodeId : NodeId)
    (peerDvInfos : List (NodeId × ℕ)) : Bool × DistanceVector :=
  if peerNodeId = dv.m_selfNodeId ∨ peerNodeId = c_invalidNodeId then (false, dv)
  else if peerNodeId ∉ dv.m_neighboursDVInfo then (false, dv)
  else if peerNodeId ∉ dv.m_dvInfos then (false, dv)
  else (dv.setCache peerNodeId (cacheOf dv.m_selfNodeId peerDvInfos)).recomputeRoutesWithoutLock order

/-! ### Advertising -/

/-- Poisoned reverse: a route learned from the peer is advertised to it as unreachable. -/
def advertised (peerNodeId : NodeId) (info : NodeInfo) : ℕ :=
  if info.nextHop = peerNodeId then c_unreachableDistance else info.distance

def dvInfo (dv : DistanceVector) (peerNodeId : NodeId) : List (NodeId × ℕ) :=
  if peerNodeId = dv.m_selfNodeId then []
  else dv.m_dvInfos.entries.filterMap fun entry =>
    if entry.1 = peerNodeId then none else some (entry.1, advertised peerNodeId entry.2)

/-! ### Reading back single writes -/

section Writes

variable (dv : DistanceVector) (t x v p : NodeId) (info : NodeInfo) (d : ℕ) (cache : DvCache)

@[simp] theorem setRoute_route_same : (dv.setRoute t info).route t = some info :=
  AList.lookup_insert _

theorem setRoute_route_ne {x t : NodeId} (h : x ≠ t) :
    (dv.setRoute t info).route x = dv.route x :=
  AList.lookup_insert_ne h

@[simp] theorem setDirect_route_same : (dv.setDirect p d).route p = some
    { nextHop := if c_unreachableDistance ≤ d then c_invalidNodeId else p, distance := d } :=
  AList.lookup_insert _

theorem setDirect_route_ne {x p : NodeId} (h : x ≠ p) :
    (dv.setDirect p d).route x = dv.route x :=
  AList.lookup_insert_ne h

@[simp] theorem setCache_cached_same : (dv.setCache p cache).cached p x = cache.lookup x := by
  simp only [cached, setCache, AList.lookup_insert, Option.bind_some]

theorem setCache_cached_ne {v p : NodeId} (h : v ≠ p) :
    (dv.setCache p cache).cached v x = dv.cached v x := by
  simp only [cached, setCache, AList.lookup_insert_ne h]

theorem mem_neighbours_iff : v ∈ dv.neighbours ↔ v ∈ dv.m_neighboursDVInfo :=
  Iff.rfl

theorem mem_setCache_neighbours : v ∈ (dv.setCache p cache).neighbours ↔ v = p ∨ v ∈ dv.neighbours :=
  AList.mem_insert _

end Writes

/-! ### The state the constructor leaves -/

section Constructor

variable (self v t : NodeId) (ids : List NodeId)

theorem new_concat (i : NodeId) : new self (ids ++ [i]) = (new self ids).addNeighbour i := by
  simp only [new, List.foldl_append, List.foldl_cons, List.foldl_nil]

@[simp] theorem new_self : (new self ids).m_selfNodeId = self := by
  induction ids using List.reverseRecOn with
  | nil => rfl
  | append_singleton ids i ih =>
    rw [new_concat]
    exact ih

theorem mem_neighbours_new : v ∈ (new self ids).neighbours ↔ v ∈ ids := by
  induction ids using List.reverseRecOn with
  | nil => exact Iff.rfl
  | append_singleton ids i ih =>
    rw [new_concat, mem_neighbours_iff, List.mem_append, List.mem_singleton, ← ih, or_comm]
    exact AList.mem_insert _

@[simp] theorem new_cached : (new self ids).cached v t = none := by
  induction ids using List.reverseRecOn with
  | nil => rfl
  | append_singleton ids i ih =>
    rw [new_concat]
    by_cases hv : v = i
    · subst hv
      exact setCache_cached_same (new self ids) t v ∅
    · exact (setCache_cached_ne (new self ids) t ∅ hv).trans ih

/-- The empty string is a target from the start, at distance `0`; every neighbour is unknown. -/
theorem new_route : (new self ids).route t =
    if t = c_invalidNodeId then some { nextHop := c_invalidNodeId, distance := 0 }
    else if t ∈ ids then some {} else none := by
  induction ids using List.reverseRecOn with
  | nil =>
    by_cases ht : t = c_invalidNodeId
    · subst ht
      rw [if_pos rfl]
      rfl
    · rw [if_neg ht]
      exact AList.lookup_insert_ne ht
  | append_singleton ids i ih =>
    rw [new_concat]
    by_cases hi : i ∈ (new self ids).m_dvInfos
    · have hsame : ((new self ids).addNeighbour i).route t = (new self ids).route t := by
        simp only [route, addNeighbour, if_pos hi]
      have hisSome : ((new self ids).route i).isSome := AList.lookup_isSome.mpr hi
      rw [hsame, ih]
      by_cases ht : t = i
      · subst ht
        rw [ih] at hisSome
        by_cases htn : t = c_invalidNodeId
        · rw [if_pos htn, if_pos htn]
        · rw [if_neg htn] at hisSome
          have hmem : t ∈ ids := by
            by_contra hnot
            rw [if_neg hnot] at hisSome
            cases hisSome
          rw [if_pos hmem, if_pos (List.mem_append_left _ hmem)]
      · simp only [List.mem_append, List.mem_singleton, ht, or_false]
    · have hnone : (new self ids).route i = none := AList.lookup_eq_none.mpr hi
      by_cases ht : t = i
      · subst ht
        have hsame : ((new self ids).addNeighbour t).route t = some {} := by
          simp only [route, addNeighbour, if_neg hi, AList.lookup_insert]
        rw [hsame, if_neg, if_pos (List.mem_append_right _ (List.mem_singleton_self t))]
        intro htn
        rw [ih, if_pos htn] at hnone
        cases hnone
      · have hsame : ((new self ids).addNeighbour i).route t = (new self ids).route t := by
          simp only [route, addNeighbour, if_neg hi, AList.lookup_insert_ne ht]
        rw [hsame, ih]
        simp only [List.mem_append, List.mem_singleton, ht, or_false]

end Constructor

/-! ### The inner loop picks the best offer -/

theorem addDistance_eq_min {a b : ℕ} (ha : a < c_unreachableDistance) :
    addDistance a b = min c_unreachableDistance (a + b) := by
  unfold addDistance
  by_cases hb : c_unreachableDistance ≤ b
  · rw [if_pos (.inr hb)]
    omega
  · have hmod : (a + b) % 2 ^ 32 = a + b := Nat.mod_eq_of_lt (by
      simp only [c_unreachableDistance] at ha hb
      omega)
    rw [if_neg (not_or.mpr ⟨not_le.mpr ha, hb⟩), hmod]
    by_cases hsum : c_unreachableDistance < a + b
    · rw [if_pos hsum]
      omega
    · rw [if_neg hsum]
      omega

/-- **The inner loop is a best choice** over the offers of the neighbours it was given. -/
theorem bestRoute_isBest (dv : DistanceVector) (neighbours : List NodeId) (t : NodeId) :
    IsBest c_unreachableDistance c_invalidNodeId (dv.offer t) neighbours
      (dv.bestRoute neighbours t).distance (dv.bestRoute neighbours t).nextHop := by
  induction neighbours using List.reverseRecOn with
  | nil => exact IsBest.nil
  | append_singleton vs v ih =>
    have hstep : dv.bestRoute (vs ++ [v]) t = match dv.offer t v with
        | none => dv.bestRoute vs t
        | some d => relax (dv.bestRoute vs t) v d := by
      simp only [bestRoute, List.foldl_append, List.foldl_cons, List.foldl_nil]
    rw [hstep]
    cases hoffer : dv.offer t v with
    | none => exact ih.skip hoffer
    | some d =>
      simp only [relax]
      split
      · rename_i hbetter
        exact ih.take hoffer hbetter
      · rename_i hworse
        exact ih.keep hoffer hworse

/-! ### The outer loop -/

section Recompute

variable (vs : List NodeId)

theorem recomputeTargets_neighboursDVInfo (ts : List NodeId) (b : Bool) (dv : DistanceVector) :
    (recomputeTargets vs ts b dv).2.m_neighboursDVInfo = dv.m_neighboursDVInfo := by
  induction ts generalizing b dv with
  | nil => rfl
  | cons t ts ih => exact ih _ _

theorem recomputeTargets_route_notMem {ts : List NodeId} {x : NodeId} (hx : x ∉ ts) (b : Bool)
    (dv : DistanceVector) : (recomputeTargets vs ts b dv).2.route x = dv.route x := by
  induction ts generalizing b dv with
  | nil => rfl
  | cons t ts ih =>
    rw [List.mem_cons, not_or] at hx
    exact (ih hx.2 _ _).trans (setRoute_route_ne _ _ hx.1)

/-- **Loop rule.**  What every single visit preserves, the whole loop preserves. -/
theorem recomputeTargets_induction {P : DistanceVector → Prop} {ts : List NodeId}
    (hstep : ∀ dv t, P dv → P (dv.setRoute t (dv.bestRoute vs t))) (b : Bool)
    {dv : DistanceVector} (h : P dv) : P (recomputeTargets vs ts b dv).2 := by
  induction ts generalizing b dv with
  | nil => exact h
  | cons t ts ih => exact ih _ (hstep dv t h)

/-- **What the loop leaves for a target**: the best route of the state in which it was visited.  In
that state every other entry is either the one before the loop or already the one after it. -/
theorem recomputeTargets_spec {ts : List NodeId} (hnd : ts.Nodup) {t : NodeId} (ht : t ∈ ts)
    (b : Bool) (dv : DistanceVector) :
    ∃ mid : DistanceVector, mid.m_neighboursDVInfo = dv.m_neighboursDVInfo ∧
      mid.route t = dv.route t ∧
      (∀ x, mid.route x = dv.route x ∨ mid.route x = (recomputeTargets vs ts b dv).2.route x) ∧
      (recomputeTargets vs ts b dv).2.route t = some (mid.bestRoute vs t) := by
  induction ts generalizing b dv with
  | nil => cases ht
  | cons t₀ ts ih =>
    rw [List.nodup_cons] at hnd
    rcases List.mem_cons.mp ht with rfl | ht
    · refine ⟨dv, rfl, rfl, fun x => .inl rfl, ?_⟩
      exact (recomputeTargets_route_notMem vs hnd.1 _ _).trans (setRoute_route_same _ _ _)
    · have hne : t ≠ t₀ := fun h => hnd.1 (h ▸ ht)
      obtain ⟨mid, hcache, hsame, hother, hroute⟩ := ih hnd.2 ht
        (b || dv.route t₀ != some (dv.bestRoute vs t₀)) (dv.setRoute t₀ (dv.bestRoute vs t₀))
      refine ⟨mid, hcache, hsame.trans (setRoute_route_ne _ _ hne), fun x => ?_, hroute⟩
      rcases hother x with hx | hx
      · by_cases hxt : x = t₀
        · subst hxt
          rw [hx, setRoute_route_same]
          exact .inr ((recomputeTargets_route_notMem vs hnd.1 _ _).trans
            (setRoute_route_same _ _ _)).symm
        · exact .inl (hx.trans (setRoute_route_ne _ _ hxt))
      · exact .inr hx

end Recompute

/-! ### The public updates, one specification each -/

section Updates

variable (order : IterationOrder) {dv : DistanceVector} {p t v : NodeId} (d : ℕ)

theorem mem_targetNodes : t ∈ dv.targetNodes ↔
    (dv.route t).isSome ∨ t ∈ dv.neighbours ∨ ∃ v, (dv.cached v t).isSome := by
  have hcache : (t ∈ dv.m_neighboursDVInfo.entries.flatMap fun entry => entry.2.keys) ↔
      ∃ v, (dv.cached v t).isSome := by
    simp only [List.mem_flatMap, cached]
    constructor
    · rintro ⟨entry, hentry, hkey⟩
      refine ⟨entry.1, ?_⟩
      rw [show dv.m_neighboursDVInfo.lookup entry.1 = some entry.2 from
        AList.mem_lookup_iff.mpr hentry, Option.bind_some]
      exact AList.lookup_isSome.mpr hkey
    · rintro ⟨v, hv⟩
      cases hlook : dv.m_neighboursDVInfo.lookup v with
      | none =>
        rw [hlook] at hv
        cases hv
      | some cache =>
        rw [hlook, Option.bind_some] at hv
        exact ⟨⟨v, cache⟩, AList.mem_lookup_iff.mp hlook, AList.lookup_isSome.mp hv⟩
  simp only [targetNodes, List.mem_dedup, List.mem_append, or_assoc, hcache]
  exact or_congr_left AList.lookup_isSome.symm

theorem recompute_neighboursDVInfo :
    (dv.recomputeRoutesWithoutLock order).2.m_neighboursDVInfo = dv.m_neighboursDVInfo :=
  recomputeTargets_neighboursDVInfo _ _ _ _

/-- Every entry after a recomputation is the best route of the state in which its target was
visited. -/
theorem recompute_route {info : NodeInfo}
    (h : (dv.recomputeRoutesWithoutLock order).2.route t = some info) :
    ∃ mid : DistanceVector, mid.m_neighboursDVInfo = dv.m_neighboursDVInfo ∧
      mid.route t = dv.route t ∧
      (∀ x, mid.route x = dv.route x ∨
        mid.route x = (dv.recomputeRoutesWithoutLock order).2.route x) ∧
      info = mid.bestRoute (order.neighbours dv) t := by
  have ht : t ∈ order.targets dv := by
    by_contra hnot
    have hsame : (dv.recomputeRoutesWithoutLock order).2.route t = dv.route t :=
      recomputeTargets_route_notMem _ hnot _ _
    rw [h] at hsame
    rw [order.mem_targets, mem_targetNodes, ← hsame] at hnot
    exact hnot (.inl rfl)
  obtain ⟨mid, hcache, hsame, hother, hroute⟩ :=
    recomputeTargets_spec (order.neighbours dv) (order.targets_nodup dv) ht false dv
  refine ⟨mid, hcache, hsame, hother, ?_⟩
  exact Option.some.inj (h.symm.trans hroute)

/-- Every visited target has an entry afterwards. -/
theorem recompute_route_isSome (ht : t ∈ dv.targetNodes) :
    ((dv.recomputeRoutesWithoutLock order).2.route t).isSome := by
  obtain ⟨mid, _, _, _, hroute⟩ := recomputeTargets_spec (order.neighbours dv)
    (order.targets_nodup dv) ((order.mem_targets dv t).mpr ht) false dv
  exact Option.isSome_of_mem hroute

/-- An accepted measurement writes the neighbour's slot and recomputes.  When the write is skipped
the slot already holds the measured value, because an unreachable entry never has a next hop. -/
theorem updateNeighbourDistance_spec {info : NodeInfo} (hself : p ≠ dv.m_selfNodeId)
    (hp : p ≠ c_invalidNodeId) (hroute : dv.route p = some info)
    (hwf : info.nextHop ≠ c_invalidNodeId → info.distance < c_unreachableDistance) :
    ∃ direct : DistanceVector, direct.m_selfNodeId = dv.m_selfNodeId ∧
      direct.m_neighboursDVInfo = (dv.setDirect p d).m_neighboursDVInfo ∧
      (∀ x, direct.route x = (dv.setDirect p d).route x) ∧
      (dv.updateNeighbourDistance order p d).2 = (direct.recomputeRoutesWithoutLock order).2 := by
  have hguard : ¬ (p = dv.m_selfNodeId ∨ p = c_invalidNodeId) := not_or.mpr ⟨hself, hp⟩
  cases hchanged : info.nextHop != p || info.distance != d with
  | true =>
    refine ⟨dv.setDirect p d, rfl, rfl, fun _ => rfl, ?_⟩
    simp only [updateNeighbourDistance, if_neg hguard, hroute, hchanged, if_true]
  | false =>
    have heq : info.nextHop = p ∧ info.distance = d := by simpa using hchanged
    have hd : ¬ c_unreachableDistance ≤ d := by
      rw [← heq.2]
      exact not_le.mpr (hwf (heq.1 ▸ hp))
    refine ⟨dv, rfl, ?_, fun x => ?_, ?_⟩
    · simp only [setDirect, if_neg hd]
    · by_cases hx : x = p
      · subst hx
        rw [hroute, setDirect_route_same, if_neg hd, ← heq.1, ← heq.2]
      · exact (setDirect_route_ne _ _ hx).symm
    · simp only [updateNeighbourDistance, if_neg hguard, hroute, hchanged]
      rfl

/-- An accepted vector replaces the cache of its sender and recomputes. -/
theorem updateDvInfos_spec {infos : List (NodeId × ℕ)} (hself : p ≠ dv.m_selfNodeId)
    (hp : p ≠ c_invalidNodeId) (hn : p ∈ dv.neighbours) (hroute : (dv.route p).isSome) :
    dv.updateDvInfos order p infos =
      (dv.setCache p (cacheOf dv.m_selfNodeId infos)).recomputeRoutesWithoutLock order := by
  have hguard : ¬ (p = dv.m_selfNodeId ∨ p = c_invalidNodeId) := not_or.mpr ⟨hself, hp⟩
  have hmem : p ∈ dv.m_dvInfos := AList.lookup_isSome.mp hroute
  have hn' : p ∈ dv.m_neighboursDVInfo := hn
  simp only [updateDvInfos, if_neg hguard, hn', hmem, not_true_eq_false, if_false]

/-- A measured neighbour stays one, and nobody becomes one. -/
theorem mem_neighbours_updateNeighbourDistance {v : NodeId} (hp : p ∈ dv.neighbours) :
    v ∈ (dv.updateNeighbourDistance order p d).2.neighbours ↔ v ∈ dv.neighbours := by
  have hdirect : v ∈ (dv.setDirect p d).neighbours ↔ v ∈ dv.neighbours := by
    unfold setDirect neighbours
    split
    · show v ∈ dv.m_neighboursDVInfo.insert p ∅ ↔ v ∈ dv.m_neighboursDVInfo
      rw [AList.mem_insert]
      constructor
      · rintro (rfl | hv)
        · exact hp
        · exact hv
      · exact .inr
    · exact Iff.rfl
  have hrecompute : ∀ dv' : DistanceVector,
      v ∈ (dv'.recomputeRoutesWithoutLock order).2.neighbours ↔ v ∈ dv'.neighbours := by
    intro dv'
    rw [neighbours, recompute_neighboursDVInfo]
    exact Iff.rfl
  unfold updateNeighbourDistance
  split
  · exact Iff.rfl
  · split
    · exact Iff.rfl
    · rw [hrecompute]
      split
      · exact hdirect
      · exact Iff.rfl

theorem mem_neighbours_updateDvInfos {v : NodeId} {infos : List (NodeId × ℕ)} :
    v ∈ (dv.updateDvInfos order p infos).2.neighbours ↔ v ∈ dv.neighbours := by
  unfold updateDvInfos
  split
  · exact Iff.rfl
  · split
    · exact Iff.rfl
    · next hp =>
      split
      · exact Iff.rfl
      · rw [neighbours, recompute_neighboursDVInfo]
        show v ∈ dv.m_neighboursDVInfo.insert p _ ↔ v ∈ dv.m_neighboursDVInfo
        rw [AList.mem_insert]
        constructor
        · rintro (rfl | hv)
          · exact not_not.mp hp
          · exact hv
        · exact .inr

end Updates

end DistanceVector

end DistributedNetwork.Routing
