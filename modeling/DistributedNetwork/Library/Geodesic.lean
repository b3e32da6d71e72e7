import Mathlib.Data.Finset.Card
import DistributedNetwork.Library.WeightedGraph

/-!
# Cheapest walks and how many edges they have

`WalkIn G k u x d` — a walk from `u` to `x` with **at most `k` edges** costs `d`; `Geodesic G k u x d` —
such a walk is as cheap as any walk.  Costs are positive where it is said.

* `Geodesic.first` — after its first edge a geodesic is a geodesic with one edge less;
* `exists_geodesic` — where there is a walk there is a geodesic;
* `Geodesic.card` — with positive costs a geodesic within a finite set of vertices has fewer edges than
  there are vertices, because every step comes strictly closer to the target.
-/

namespace DistributedNetwork.Library

namespace WeightedGraph

variable {V : Type*} {G : WeightedGraph V} {u v x : V} {c d k m : ℕ}

/-- A walk ends where it starts, or behind an edge. -/
theorem Walk.target {P : V → Prop} (h : G.Walk u x d) (hP : ∀ u v, G.adj u v → P v) : u = x ∨ P x := by
  induction h with
  | nil u => exact .inl rfl
  | @cons u v x d hadj _ ih =>
    rcases ih with rfl | hx
    · exact .inr (hP u v hadj)
    · exact .inr hx

/-- `WalkIn G k u x d`: some walk from `u` to `x` with at most `k` edges costs `d`. -/
inductive WalkIn (G : WeightedGraph V) : ℕ → V → V → ℕ → Prop
  | nil (k : ℕ) (u : V) : WalkIn G k u u 0
  | cons {k : ℕ} {u v x : V} {d : ℕ} :
      G.adj u v → WalkIn G k v x d → WalkIn G (k + 1) u x (G.cost u v + d)

theorem WalkIn.walk (h : G.WalkIn k u x d) : G.Walk u x d := by
  induction h with
  | nil k u => exact .nil u
  | cons hadj _ ih => exact .cons hadj ih

theorem Walk.exists_walkIn (h : G.Walk u x d) : ∃ k, G.WalkIn k u x d := by
  induction h with
  | nil u => exact ⟨0, .nil 0 u⟩
  | cons hadj _ ih =>
    obtain ⟨k, hk⟩ := ih
    exact ⟨k + 1, .cons hadj hk⟩

theorem WalkIn.mono (h : G.WalkIn k u x d) (hle : k ≤ m) : G.WalkIn m u x d := by
  induction h generalizing m with
  | nil k u => exact .nil m u
  | @cons k u v x d hadj _ ih =>
    obtain ⟨m, rfl⟩ : ∃ m', m = m' + 1 := ⟨m - 1, by omega⟩
    exact .cons hadj (ih (by omega))

/-- A cheapest walk, with at most `k` edges. -/
structure Geodesic (G : WeightedGraph V) (k : ℕ) (u x : V) (d : ℕ) : Prop where
  walkIn : G.WalkIn k u x d
  le : ∀ c, G.Walk u x c → d ≤ c

namespace Geodesic

theorem walk (h : G.Geodesic k u x d) : G.Walk u x d :=
  h.walkIn.walk

theorem mono (h : G.Geodesic k u x d) (hle : k ≤ m) : G.Geodesic m u x d :=
  ⟨h.walkIn.mono hle, h.le⟩

theorem nil (k : ℕ) (u : V) : G.Geodesic k u u 0 :=
  ⟨.nil k u, fun c _ => Nat.zero_le c⟩

/-- What follows an edge on a cheapest walk is a cheapest walk. -/
theorem tail (hadj : G.adj u v) (hw : G.WalkIn k v x c)
    (hle : ∀ c', G.Walk u x c' → G.cost u v + c ≤ c') : G.Geodesic k v x c := by
  refine ⟨hw, fun c' hc' => ?_⟩
  have := hle _ (.cons hadj hc')
  omega

/-- **The first edge** of a geodesic, and the geodesic that follows it. -/
theorem first (h : G.Geodesic (k + 1) u x d) (hne : u ≠ x) :
    ∃ v c, G.adj u v ∧ G.Geodesic k v x c ∧ d = G.cost u v + c := by
  obtain ⟨hw, hle⟩ := h
  cases hw with
  | nil => exact absurd rfl hne
  | @cons _ _ v _ c hadj hw => exact ⟨v, c, hadj, tail hadj hw hle, rfl⟩

end Geodesic

/-- Where there is a walk, one of them is cheapest. -/
theorem exists_geodesic (h : G.Walk u x d) : ∃ k c, G.Geodesic k u x c ∧ c ≤ d := by
  have hmem : G.Walk u x (G.shortest u x) := Nat.sInf_mem (s := {c | G.Walk u x c}) ⟨d, h⟩
  obtain ⟨k, hk⟩ := hmem.exists_walkIn
  exact ⟨k, G.shortest u x, ⟨hk, fun c hc => shortest_le hc⟩, shortest_le h⟩

/-! ### A geodesic visits no vertex twice -/

section Finite

variable {S : Finset V}

open Classical in
/-- The vertices of `S` from which the target is reached for less than `d`. -/
noncomputable def closer (G : WeightedGraph V) (S : Finset V) (x : V) (d : ℕ) : Finset V :=
  S.filter fun v => ∃ c, G.Walk v x c ∧ c < d

theorem mem_closer : v ∈ G.closer S x d ↔ v ∈ S ∧ ∃ c, G.Walk v x c ∧ c < d := by
  simp only [closer, Finset.mem_filter]

/-- The vertex behind the first edge is closer to the target, but not closer than itself. -/
theorem closer_ssubset (hpos : ∀ u v, G.adj u v → 0 < G.cost u v) (hv : v ∈ S) (hadj : G.adj u v)
    (h : G.Geodesic k v x c) : G.closer S x c ⊂ G.closer S x (G.cost u v + c) := by
  have hcost := hpos u v hadj
  refine (Finset.ssubset_iff_of_subset ?_).mpr ⟨v, ?_, ?_⟩
  · intro w hw
    obtain ⟨hw, c', hwalk, hlt⟩ := mem_closer.mp hw
    exact mem_closer.mpr ⟨hw, c', hwalk, by omega⟩
  · exact mem_closer.mpr ⟨hv, c, h.walk, by omega⟩
  · intro hv
    obtain ⟨_, c', hwalk, hlt⟩ := mem_closer.mp hv
    exact absurd (h.le c' hwalk) (by omega)

/-- By induction on the walk: it needs no more edges than there are closer vertices. -/
theorem WalkIn.geodesic_closer (hpos : ∀ u v, G.adj u v → 0 < G.cost u v)
    (hS : ∀ u v, G.adj u v → v ∈ S) (hw : G.WalkIn k u x d) (hle : ∀ c, G.Walk u x c → d ≤ c) :
    G.Geodesic (G.closer S x d).card u x d := by
  induction hw with
  | nil k u => exact .nil _ u
  | @cons k u v x c hadj hw ih =>
    have htail : G.Geodesic k v x c := .tail hadj hw hle
    have hcard := Finset.card_lt_card (closer_ssubset hpos (hS u v hadj) hadj htail)
    obtain ⟨hw', -⟩ := ih htail.le
    exact ⟨(WalkIn.cons hadj hw').mono hcard, hle⟩

/-- **A geodesic from a vertex of a finite graph has fewer edges than the graph has vertices.** -/
theorem Geodesic.card (hpos : ∀ u v, G.adj u v → 0 < G.cost u v) (hS : ∀ u v, G.adj u v → v ∈ S)
    (hu : u ∈ S) (h : G.Geodesic k u x d) : G.Geodesic (S.card - 1) u x d := by
  have hgeodesic := h.walkIn.geodesic_closer hpos hS h.le
  have hnot : u ∉ G.closer S x d := by
    intro hmem
    obtain ⟨_, c, hwalk, hlt⟩ := mem_closer.mp hmem
    exact absurd (h.le c hwalk) (by omega)
  have hsub : G.closer S x d ⊂ S :=
    (Finset.ssubset_iff_of_subset fun w hw => (mem_closer.mp hw).1).mpr ⟨u, hu, hnot⟩
  have hcard := Finset.card_lt_card hsub
  exact hgeodesic.mono (by omega)

end Finite

end WeightedGraph

end DistributedNetwork.Library
