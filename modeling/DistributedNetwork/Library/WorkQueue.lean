import Mathlib.Algebra.BigOperators.Group.Finset.Piecewise
import Mathlib.Algebra.Order.Group.Multiset
import Mathlib.Data.Fintype.BigOperators

/-!
# Work with several producers and several workers

A concurrent queue is first in, first out **for each producer**; between two producers it decides as it likes.
A worker takes an item out of the queue and is done with it some time later.

* `WorkQueue.push`, `take`, `finish` — the steps;
* `contents` — the items that wait, are taken or are finished; `contents_push`, `contents_take` and
  `contents_finish` say that no item is lost and none is done twice;
* `line` — with **one** worker, the items of one producer in the order of their pushes; `line_push`,
  `line_take` and `line_finish`.
-/

namespace DistributedNetwork.Library

universe u v

/-- Items with their producers, and what each of `k` workers has taken. -/
structure WorkQueue (P : Type u) (α : Type v) (k : ℕ) where
  waiting : List (P × α)
  taken : Fin k → Option (P × α)
  finished : List (P × α)

namespace WorkQueue

/-- The one worker, or the one producer. -/
def only : Fin 1 := 0

variable {P : Type u} {α : Type v} {k : ℕ}

def empty : WorkQueue P α k where
  waiting := []
  taken _ := none
  finished := []

/-- Items are pushed, one after the other. -/
def push (q : WorkQueue P α k) (xs : List (P × α)) : WorkQueue P α k :=
  { q with waiting := q.waiting ++ xs }

variable [DecidableEq P]

/-- The first item of a producer, and the other items. -/
def firstOf (producer : P) : List (P × α) → Option (α × List (P × α))
  | [] => none
  | x :: rest =>
    if x.1 = producer then some (x.2, rest)
    else (firstOf producer rest).map fun first => (first.1, x :: first.2)

/-- An idle worker takes the first item of some producer. -/
def take (q : WorkQueue P α k) (worker : Fin k) (producer : P) : Option (WorkQueue P α k) :=
  match q.taken worker with
  | some _ => none
  | none => (firstOf producer q.waiting).map fun first =>
    { q with waiting := first.2, taken := Function.update q.taken worker (some (producer, first.1)) }

omit [DecidableEq P] in
/-- A worker is done with its item. -/
def finish (q : WorkQueue P α k) (worker : Fin k) : Option (WorkQueue P α k) :=
  (q.taken worker).map fun x =>
    { q with taken := Function.update q.taken worker none, finished := q.finished ++ [x] }

/-- The items of one producer. -/
def itemsOf (producer : P) (xs : List (P × α)) : List α :=
  (xs.filter fun x => x.1 = producer).map Prod.snd

/-! ### Items -/

section Items

variable {producer other : P} {item : α} {xs rest : List (P × α)}

@[simp] theorem itemsOf_nil : itemsOf producer ([] : List (P × α)) = [] := rfl

@[simp] theorem itemsOf_append (xs ys : List (P × α)) :
    itemsOf producer (xs ++ ys) = itemsOf producer xs ++ itemsOf producer ys := by
  simp [itemsOf]

theorem itemsOf_cons_self : itemsOf producer ((producer, item) :: xs) = item :: itemsOf producer xs := by
  simp [itemsOf]

theorem itemsOf_cons_of_ne {x : P × α} (h : x.1 ≠ producer) :
    itemsOf producer (x :: xs) = itemsOf producer xs := by
  simp [itemsOf, h]

theorem firstOf_perm (h : firstOf producer xs = some (item, rest)) :
    xs.Perm ((producer, item) :: rest) := by
  induction xs generalizing rest with
  | nil => cases h
  | cons x xs ih =>
    rw [firstOf] at h
    split at h
    · next heq =>
      cases h
      subst heq
      exact .refl _
    · obtain ⟨⟨first, others⟩, hfirst, heq⟩ := Option.map_eq_some_iff.mp h
      cases heq
      exact ((ih hfirst).cons x).trans (.swap ..)

theorem itemsOf_firstOf (h : firstOf producer xs = some (item, rest)) :
    itemsOf producer xs = item :: itemsOf producer rest := by
  induction xs generalizing rest with
  | nil => cases h
  | cons x xs ih =>
    rw [firstOf] at h
    split at h
    · next heq =>
      cases h
      subst heq
      exact itemsOf_cons_self
    · next hne =>
      obtain ⟨⟨first, others⟩, hfirst, heq⟩ := Option.map_eq_some_iff.mp h
      cases heq
      rw [itemsOf_cons_of_ne hne, itemsOf_cons_of_ne hne, ih hfirst]

/-- The items of the other producers keep their places. -/
theorem itemsOf_firstOf_of_ne (h : firstOf producer xs = some (item, rest)) (hne : other ≠ producer) :
    itemsOf other xs = itemsOf other rest := by
  induction xs generalizing rest with
  | nil => cases h
  | cons x xs ih =>
    rw [firstOf] at h
    split at h
    · next heq =>
      cases h
      refine itemsOf_cons_of_ne fun heq' => hne ?_
      rw [← heq', heq]
    · obtain ⟨⟨first, others⟩, hfirst, heq⟩ := Option.map_eq_some_iff.mp h
      cases heq
      have hrest := ih hfirst
      unfold itemsOf at hrest ⊢
      rw [List.filter_cons, List.filter_cons]
      split
      · rw [List.map_cons, List.map_cons, hrest]
      · exact hrest

end Items

/-! ### Nothing is lost and nothing is done twice -/

section Contents

omit [DecidableEq P]

/-- What the workers have taken. -/
def held (taken : Fin k → Option (P × α)) : Multiset (P × α) :=
  ∑ worker, (taken worker).elim 0 ({·})

theorem held_update (taken : Fin k → Option (P × α)) (worker : Fin k) (x : Option (P × α)) :
    held (Function.update taken worker x) =
      x.elim 0 ({·}) + ∑ w ∈ Finset.univ.erase worker, (taken w).elim 0 ({·}) := by
  unfold held
  rw [← Finset.add_sum_erase _ _ (Finset.mem_univ worker), Function.update_self]
  congr 1
  refine Finset.sum_congr rfl fun w hw => ?_
  rw [Function.update_of_ne (Finset.ne_of_mem_erase hw)]

theorem held_eq (taken : Fin k → Option (P × α)) (worker : Fin k) :
    held taken = (taken worker).elim 0 ({·}) +
      ∑ w ∈ Finset.univ.erase worker, (taken w).elim 0 ({·}) := by
  rw [← held_update, Function.update_eq_self]

def contents (q : WorkQueue P α k) : Multiset (P × α) :=
  q.finished + held q.taken + q.waiting

theorem contents_empty : (empty : WorkQueue P α k).contents = 0 := by
  simp [contents, empty, held]

theorem finished_le_contents (q : WorkQueue P α k) : (q.finished : Multiset (P × α)) ≤ q.contents := by
  unfold contents
  rw [add_assoc]
  exact Multiset.le_add_right _ _

/-- Nothing waits and all workers are idle. -/
def Idle (q : WorkQueue P α k) : Prop :=
  q.waiting = [] ∧ ∀ worker, q.taken worker = none

theorem Idle.contents {q : WorkQueue P α k} (h : q.Idle) : q.contents = q.finished := by
  have hheld : held q.taken = 0 := by
    unfold held
    refine Finset.sum_eq_zero fun worker _ => ?_
    rw [h.2 worker]
    rfl
  unfold WorkQueue.contents
  rw [hheld, h.1, Multiset.coe_nil, add_zero, add_zero]

theorem contents_push (q : WorkQueue P α k) (xs : List (P × α)) :
    (q.push xs).contents = q.contents + xs := by
  unfold contents push
  rw [← Multiset.coe_add, ← add_assoc]

theorem contents_finish {q q' : WorkQueue P α k} {worker : Fin k} (h : q.finish worker = some q') :
    q'.contents = q.contents := by
  obtain ⟨x, hx, rfl⟩ := Option.map_eq_some_iff.mp h
  show ((q.finished ++ [x] : List (P × α)) : Multiset (P × α)) +
    held (Function.update q.taken worker none) + q.waiting = _
  rw [contents, held_update, held_eq q.taken worker, hx, ← Multiset.coe_add]
  simp only [Option.elim_none, Option.elim_some, Multiset.coe_singleton, zero_add, add_assoc]

theorem contents_take [DecidableEq P] {q q' : WorkQueue P α k} {worker : Fin k} {producer : P}
    (h : q.take worker producer = some q') : q'.contents = q.contents := by
  unfold take at h
  split at h
  · cases h
  · next hidle =>
    obtain ⟨⟨item, rest⟩, hfirst, rfl⟩ := Option.map_eq_some_iff.mp h
    have hperm : (q.waiting : Multiset (P × α)) = {(producer, item)} + (rest : Multiset (P × α)) :=
      Multiset.coe_eq_coe.mpr (firstOf_perm hfirst)
    show (q.finished : Multiset (P × α)) +
      held (Function.update q.taken worker (some (producer, item))) + rest = _
    rw [contents, held_update, held_eq q.taken worker, hidle, hperm]
    simp only [Option.elim_none, Option.elim_some, zero_add]
    rw [add_comm ({(producer, item)} : Multiset (P × α)), add_assoc, add_assoc, add_assoc]

end Contents

/-! ### One worker -/

section Line

/-- The items of a producer, the finished ones first. -/
def line (q : WorkQueue P α 1) (producer : P) : List α :=
  itemsOf producer (q.finished ++ (q.taken only).toList ++ q.waiting)

theorem itemsOf_finished_begins (q : WorkQueue P α 1) (producer : P) :
    itemsOf producer q.finished <+: q.line producer := by
  unfold line
  rw [itemsOf_append, itemsOf_append, List.append_assoc]
  exact List.prefix_append ..

theorem Idle.line {q : WorkQueue P α 1} (h : q.Idle) (producer : P) :
    q.line producer = itemsOf producer q.finished := by
  unfold WorkQueue.line
  rw [h.1, h.2 only]
  simp

theorem line_push (q : WorkQueue P α 1) (xs : List (P × α)) (producer : P) :
    (q.push xs).line producer = q.line producer ++ itemsOf producer xs := by
  unfold line push
  simp only [itemsOf_append, List.append_assoc]

theorem line_finish {q q' : WorkQueue P α 1} {worker : Fin 1} (h : q.finish worker = some q')
    (producer : P) : q'.line producer = q.line producer := by
  obtain rfl : worker = only := Subsingleton.elim ..
  obtain ⟨x, hx, rfl⟩ := Option.map_eq_some_iff.mp h
  show itemsOf producer (q.finished ++ [x] ++ (Function.update q.taken only none only).toList ++ q.waiting) = _
  rw [line, hx, Function.update_self]
  simp

theorem line_take {q q' : WorkQueue P α 1} {worker : Fin 1} {producer : P}
    (h : q.take worker producer = some q') (other : P) : q'.line other = q.line other := by
  obtain rfl : worker = only := Subsingleton.elim ..
  unfold take at h
  split at h
  · cases h
  · next hidle =>
    obtain ⟨⟨item, rest⟩, hfirst, rfl⟩ := Option.map_eq_some_iff.mp h
    show itemsOf other
      (q.finished ++ (Function.update q.taken only (some (producer, item)) only).toList ++ rest) = _
    rw [line, hidle, Function.update_self]
    simp only [itemsOf_append, Option.toList_some, Option.toList_none, List.append_nil,
      List.append_assoc]
    by_cases hother : other = producer
    · subst hother
      rw [itemsOf_cons_self, itemsOf_nil, itemsOf_firstOf hfirst]
      rfl
    · rw [itemsOf_cons_of_ne (Ne.symm hother), itemsOf_nil, itemsOf_firstOf_of_ne hfirst hother]
      rfl

end Line

end WorkQueue

end DistributedNetwork.Library
