import Mathlib.Order.Lattice.Nat
import Mathlib.Tactic.Common

/-!
# Walks and shortest distances in a directed graph with natural costs

`Walk G u x d` — some walk from `u` to `x` costs `d`.  `G.shortest u x` is the least such cost.
Nothing is assumed about the vertex set, loops or the symmetry of the costs.
-/

namespace DistributedNetwork.Library

/-- A directed graph with a cost for every pair; only the costs of edges are used. -/
structure WeightedGraph (V : Type*) where
  adj : V → V → Prop
  cost : V → V → ℕ

namespace WeightedGraph

variable {V : Type*} {G : WeightedGraph V} {u v x : V} {c d : ℕ}

/-- `Walk G u x d`: some walk from `u` to `x` has total cost `d`. -/
inductive Walk (G : WeightedGraph V) : V → V → ℕ → Prop
  | nil (u : V) : Walk G u u 0
  | cons {u v x : V} {d : ℕ} : G.adj u v → Walk G v x d → Walk G u x (G.cost u v + d)

theorem Walk.edge (h : G.adj u v) : G.Walk u v (G.cost u v) :=
  Walk.cons h (Walk.nil v)

/-- Walks compose and their costs add up. -/
theorem Walk.append (h : G.Walk u v c) (h' : G.Walk v x d) : G.Walk u x (c + d) := by
  induction h with
  | nil u => rwa [Nat.zero_add]
  | cons hadj _ ih =>
    rw [Nat.add_assoc]
    exact Walk.cons hadj (ih h')

/-- With positive edge costs a walk between different vertices costs something. -/
theorem Walk.pos (hpos : ∀ u v, G.adj u v → 0 < G.cost u v) (h : G.Walk u x d) (hne : u ≠ x) :
    0 < d := by
  cases h with
  | nil => exact absurd rfl hne
  | cons hadj _ => exact Nat.add_pos_left (hpos _ _ hadj) _

/-- The least cost of a walk from `u` to `x` (`0` when there is none). -/
noncomputable def shortest (G : WeightedGraph V) (u x : V) : ℕ :=
  sInf {d | G.Walk u x d}

/-- **No walk is cheaper than the shortest one.** -/
theorem shortest_le (h : G.Walk u x d) : G.shortest u x ≤ d :=
  Nat.sInf_le h

end WeightedGraph

end DistributedNetwork.Library
