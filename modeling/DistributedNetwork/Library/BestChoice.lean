import Mathlib.Order.Lattice
import Mathlib.Tactic.Common

/-!
# The best offer, ties broken by identifier

Every identifier of a list makes at most one offer.  `IsBest top absent offer ids cost id` says that
`cost` is the least offer capped by `top` and that `id` is the **smallest identifier attaining it**,
or `absent` when nothing is below the cap.

* `IsBest.take` / `IsBest.keep` / `IsBest.skip` — the three ways a scan of the list moves on;
* `IsBest.unique` — the choice is determined by the offers, so the order of the scan is irrelevant;
* `IsBest.of_improves` — offers may get cheaper without changing the choice, as long as none of them is one
  that a further comparison would take (`Overtakes`);
* `IsBest.cost_eq_foldr_min` — the cost is the minimum of all offers and the cap.
-/

namespace DistributedNetwork.Library

variable {Id Cost : Type*} [LinearOrder Id] [LinearOrder Cost]

/-- `cost` is the least offer capped by `top`, made by `id` before every other identifier. -/
structure IsBest (top : Cost) (absent : Id) (offer : Id → Option Cost) (ids : List Id)
    (cost : Cost) (id : Id) : Prop where
  le_top : cost ≤ top
  le_offer : ∀ i ∈ ids, ∀ c, offer i = some c → cost ≤ c
  absent_of_top : cost = top → id = absent
  mem : cost < top → id ∈ ids
  attained : cost < top → offer id = some cost
  least : cost < top → ∀ i ∈ ids, offer i = some cost → id ≤ i

/-- A scan whose best offer is `cost`, made by `id`, would take the offer `c` of `i` instead. -/
def Overtakes (cost : Cost) (id : Id) (c : Cost) (i : Id) : Prop :=
  c < cost ∨ (cost = c ∧ i < id)

/-- No identifier offers less cheaply in `offer'` than in `offer`. -/
def Improves (ids : List Id) (offer offer' : Id → Option Cost) : Prop :=
  ∀ i ∈ ids, ∀ c, offer i = some c → ∃ c', c' ≤ c ∧ offer' i = some c'

theorem Overtakes.mono {cost c c' : Cost} {id i : Id} (h : Overtakes cost id c i) (hle : c' ≤ c) :
    Overtakes cost id c' i := by
  rcases h with hlt | ⟨rfl, hid⟩
  · exact .inl (hle.trans_lt hlt)
  · rcases hle.lt_or_eq with hlt | rfl
    · exact .inl hlt
    · exact .inr ⟨rfl, hid⟩

namespace IsBest

variable {top cost cost' c : Cost} {absent id id' i : Id} {offer offer' : Id → Option Cost}
variable {ids ids' : List Id}

/-- Nothing offered: the cap, taken by nobody. -/
theorem nil : IsBest top absent offer [] top absent where
  le_top := le_rfl
  le_offer := by simp
  absent_of_top := fun _ => rfl
  mem := fun h => absurd h (lt_irrefl _)
  attained := fun h => absurd h (lt_irrefl _)
  least := fun h => absurd h (lt_irrefl _)

/-- An identifier without an offer changes nothing. -/
theorem skip (h : IsBest top absent offer ids cost id) (hi : offer i = none) :
    IsBest top absent offer (ids ++ [i]) cost id where
  le_top := h.le_top
  le_offer := by
    intro j hj c hc
    rcases List.mem_append.mp hj with hj | hj
    · exact h.le_offer j hj c hc
    · rw [List.mem_singleton.mp hj, hi] at hc
      cases hc
  absent_of_top := h.absent_of_top
  mem := fun ht => List.mem_append_left _ (h.mem ht)
  attained := h.attained
  least := by
    intro ht j hj hc
    rcases List.mem_append.mp hj with hj | hj
    · exact h.least ht j hj hc
    · rw [List.mem_singleton.mp hj, hi] at hc
      cases hc

/-- An offer that is neither cheaper nor an earlier tie is passed over. -/
theorem keep (h : IsBest top absent offer ids cost id) (hi : offer i = some c)
    (hworse : ¬ (c < cost ∨ (cost = c ∧ i < id))) :
    IsBest top absent offer (ids ++ [i]) cost id where
  le_top := h.le_top
  le_offer := by
    intro j hj d hd
    rcases List.mem_append.mp hj with hj | hj
    · exact h.le_offer j hj d hd
    · rw [List.mem_singleton.mp hj, hi] at hd
      cases hd
      exact not_lt.mp fun hlt => hworse (.inl hlt)
  absent_of_top := h.absent_of_top
  mem := fun ht => List.mem_append_left _ (h.mem ht)
  attained := h.attained
  least := by
    intro ht j hj hd
    rcases List.mem_append.mp hj with hj | hj
    · exact h.least ht j hj hd
    · rw [List.mem_singleton.mp hj] at hd ⊢
      rw [hi] at hd
      cases hd
      exact not_lt.mp fun hlt => hworse (.inr ⟨rfl, hlt⟩)

/-- A cheaper offer, or an earlier tie, is taken; an offer at the cap is taken by nobody. -/
theorem take (h : IsBest top absent offer ids cost id) (hi : offer i = some c)
    (hbetter : c < cost ∨ (cost = c ∧ i < id)) :
    IsBest top absent offer (ids ++ [i]) c (if top ≤ c then absent else i) := by
  have hle : c ≤ cost := by
    rcases hbetter with hlt | ⟨rfl, _⟩
    · exact hlt.le
    · exact le_rfl
  refine ⟨hle.trans h.le_top, ?_, ?_, ?_, ?_, ?_⟩
  · intro j hj d hd
    rcases List.mem_append.mp hj with hj | hj
    · exact hle.trans (h.le_offer j hj d hd)
    · rw [List.mem_singleton.mp hj, hi] at hd
      cases hd
      exact le_rfl
  · rintro rfl
    rw [if_pos le_rfl]
  · intro ht
    rw [if_neg (not_le.mpr ht)]
    exact List.mem_append_right _ (List.mem_singleton_self i)
  · intro ht
    rw [if_neg (not_le.mpr ht)]
    exact hi
  · intro ht j hj hd
    rw [if_neg (not_le.mpr ht)]
    rcases List.mem_append.mp hj with hj | hj
    · -- an earlier offer of the same cost: only the tie case is left, and the old choice was least
      rcases hbetter with hlt | ⟨rfl, hid⟩
      · exact absurd (h.le_offer j hj c hd) (not_le.mpr hlt)
      · exact hid.le.trans (h.least ht j hj hd)
    · rw [List.mem_singleton.mp hj]

/-- **The choice is unique**: it depends on which offers are made, not on the order of the scan. -/
theorem unique (h : IsBest top absent offer ids cost id)
    (h' : IsBest top absent offer ids cost' id') : cost = cost' ∧ id = id' := by
  have hcost : cost = cost' := by
    apply le_antisymm
    · rcases h'.le_top.lt_or_eq with ht | ht
      · exact h.le_offer id' (h'.mem ht) _ (h'.attained ht)
      · exact ht ▸ h.le_top
    · rcases h.le_top.lt_or_eq with ht | ht
      · exact h'.le_offer id (h.mem ht) _ (h.attained ht)
      · exact ht ▸ h'.le_top
  subst hcost
  refine ⟨rfl, ?_⟩
  rcases h.le_top.lt_or_eq with ht | ht
  · exact le_antisymm (h.least ht id' (h'.mem ht) (h'.attained ht))
      (h'.least ht id (h.mem ht) (h.attained ht))
  · rw [h.absent_of_top ht, h'.absent_of_top ht]

/-- Only which identifiers are scanned matters. -/
theorem congr_ids (h : IsBest top absent offer ids cost id) (hids : ∀ i, i ∈ ids ↔ i ∈ ids') :
    IsBest top absent offer ids' cost id where
  le_top := h.le_top
  le_offer := fun i hi => h.le_offer i ((hids i).mpr hi)
  absent_of_top := h.absent_of_top
  mem := fun ht => (hids id).mp (h.mem ht)
  attained := h.attained
  least := fun ht i hi => h.least ht i ((hids i).mpr hi)

/-- Offers that agree below the cap have the same best choice. -/
theorem congr_offer (h : IsBest top absent offer ids cost id)
    (hlow : ∀ i ∈ ids, ∀ c < top, offer i = some c ↔ offer' i = some c) :
    IsBest top absent offer' ids cost id where
  le_top := h.le_top
  le_offer := by
    intro i hi c hc
    rcases lt_or_ge c top with hlt | hge
    · exact h.le_offer i hi c ((hlow i hi c hlt).mpr hc)
    · exact h.le_top.trans hge
  absent_of_top := h.absent_of_top
  mem := h.mem
  attained := fun ht => (hlow id (h.mem ht) cost ht).mp (h.attained ht)
  least := fun ht i hi hc => h.least ht i hi ((hlow i hi cost ht).mpr hc)

/-- No offer overtakes the best one, provided no identifier comes before the absent one. -/
theorem not_overtakes (h : IsBest top absent offer ids cost id) (habsent : ¬ i < absent)
    (hi : i ∈ ids) (hc : offer i = some c) : ¬ Overtakes cost id c i := by
  rintro (hlt | ⟨rfl, hid⟩)
  · exact not_lt.mpr (h.le_offer i hi c hc) hlt
  · rcases h.le_top.lt_or_eq with ht | ht
    · exact not_lt.mpr (h.least ht i hi hc) hid
    · exact habsent (h.absent_of_top ht ▸ hid)

/-- **The choice survives cheaper offers** none of which overtakes it. -/
theorem of_improves (h : IsBest top absent offer ids cost id) (himproves : Improves ids offer offer')
    (hnot : ∀ i ∈ ids, ∀ c, offer' i = some c → ¬ Overtakes cost id c i) :
    IsBest top absent offer' ids cost id where
  le_top := h.le_top
  le_offer := fun i hi c hc => not_lt.mp fun hlt => hnot i hi c hc (.inl hlt)
  absent_of_top := h.absent_of_top
  mem := h.mem
  attained := by
    intro ht
    obtain ⟨c', hle, hc'⟩ := himproves id (h.mem ht) cost (h.attained ht)
    rcases hle.lt_or_eq with hlt | rfl
    · exact absurd (.inl hlt) (hnot id (h.mem ht) c' hc')
    · exact hc'
  least := fun _ i hi hc => not_lt.mp fun hlt => hnot i hi cost hc (.inr ⟨rfl, hlt⟩)

/-- Cheaper offers have a cheaper best one. -/
theorem cost_le_of_improves (h : IsBest top absent offer ids cost id)
    (h' : IsBest top absent offer' ids cost' id') (himproves : Improves ids offer offer') :
    cost' ≤ cost := by
  rcases h.le_top.lt_or_eq with ht | ht
  · obtain ⟨c', hle, hc'⟩ := himproves id (h.mem ht) cost (h.attained ht)
    exact (h'.le_offer id (h.mem ht) c' hc').trans hle
  · exact ht ▸ h'.le_top

/-- The best cost is the minimum of the offers and the cap. -/
theorem cost_eq_foldr_min (h : IsBest top absent offer ids cost id) :
    cost = (ids.filterMap offer).foldr min top := by
  have hlower : ∀ l : List Cost, (∀ c ∈ l, cost ≤ c) → cost ≤ l.foldr min top := by
    intro l hl
    induction l with
    | nil => exact h.le_top
    | cons c l ih =>
      rw [List.foldr_cons]
      exact le_min (hl c List.mem_cons_self) (ih fun d hd => hl d (List.mem_cons_of_mem c hd))
  have hupper : ∀ (l : List Cost) (c : Cost), c ∈ l → l.foldr min top ≤ c := by
    intro l c hc
    induction l with
    | nil => cases hc
    | cons d l ih =>
      rw [List.foldr_cons]
      rcases List.mem_cons.mp hc with rfl | hc
      · exact min_le_left _ _
      · exact (min_le_right _ _).trans (ih hc)
  have htop : ∀ l : List Cost, l.foldr min top ≤ top := by
    intro l
    induction l with
    | nil => exact le_rfl
    | cons d l ih => exact (min_le_right _ _).trans ih
  apply le_antisymm
  · refine hlower _ fun c hc => ?_
    obtain ⟨i, hi, hoffer⟩ := List.mem_filterMap.mp hc
    exact h.le_offer i hi c hoffer
  · rcases h.le_top.lt_or_eq with ht | ht
    · exact hupper _ _ (List.mem_filterMap.mpr ⟨id, h.mem ht, h.attained ht⟩)
    · exact ht ▸ htop _

end IsBest

end DistributedNetwork.Library
