import Mathlib.Tactic.Common

/-!
# Queues stored circularly in a block of memory

A block of memory is a list.  `slice mem at n` reads `n` consecutive cells and `overwrite mem at src`
stores `src` there.  `Holds mem start q` says that the cells from `start` on, going round the end of
the block, hold the queue `q`.

* `Holds.append` / `Holds.append_wrap` — storing behind the queue, in one piece or in two;
* `Holds.extend` — taking in the cells behind the queue as they are;
* `Holds.drop` — forgetting the front of the queue;
* `Holds.slice` / `Holds.slice_wrap` — reading a part of the queue, in one piece or in two.
-/

namespace DistributedNetwork.Library

variable {α : Type*} {mem q src : List α} {start dst n i j k : ℕ}

/-- Read `n` consecutive cells. -/
def slice (mem : List α) (start n : ℕ) : List α :=
  (mem.drop start).take n

/-- Store `src` from `dst` on. -/
def overwrite (mem : List α) (dst : ℕ) (src : List α) : List α :=
  mem.take dst ++ src ++ mem.drop (dst + src.length)

/-- The cells from `start` on hold `q`, going round the end of the block. -/
def Holds (mem : List α) (start : ℕ) (q : List α) : Prop :=
  ∀ i < q.length, mem[(start + i) % mem.length]? = q[i]?

/-! ### Reading and storing in one piece -/

theorem length_slice (h : start + n ≤ mem.length) : (slice mem start n).length = n := by
  rw [slice, List.length_take, List.length_drop]
  omega

theorem getElem?_slice (hi : i < n) : (slice mem start n)[i]? = mem[start + i]? := by
  rw [slice, List.getElem?_take_of_lt hi, List.getElem?_drop]

/-- A store inside the block keeps its length; one that leaves the block changes it. -/
theorem length_overwrite_eq_iff (h : dst ≤ mem.length) :
    (overwrite mem dst src).length = mem.length ↔ dst + src.length ≤ mem.length := by
  rw [overwrite, List.length_append, List.length_append, List.length_take, List.length_drop]
  omega

theorem length_overwrite (h : dst + src.length ≤ mem.length) :
    (overwrite mem dst src).length = mem.length :=
  (length_overwrite_eq_iff (by omega)).mpr h

theorem getElem?_overwrite_inside (h : dst + src.length ≤ mem.length) (hj : dst ≤ j)
    (hj' : j < dst + src.length) : (overwrite mem dst src)[j]? = src[j - dst]? := by
  have htake : (mem.take dst).length = dst := by
    rw [List.length_take]
    omega
  rw [overwrite, List.getElem?_append_left (by rw [List.length_append]; omega),
    List.getElem?_append_right (by omega), htake]

theorem getElem?_overwrite_outside (h : dst + src.length ≤ mem.length)
    (hj : j < dst ∨ dst + src.length ≤ j) : (overwrite mem dst src)[j]? = mem[j]? := by
  have htake : (mem.take dst).length = dst := by
    rw [List.length_take]
    omega
  rcases hj with hj | hj
  · rw [overwrite, List.append_assoc, List.getElem?_append_left (by omega),
      List.getElem?_take_of_lt hj]
  · have hpre : (mem.take dst ++ src).length = dst + src.length := by
      rw [List.length_append, htake]
    rw [overwrite, List.getElem?_append_right (by omega), hpre, List.getElem?_drop]
    congr 1
    omega

/-- A store of the length of the block replaces it. -/
theorem overwrite_all (h : src.length = mem.length) : overwrite mem 0 src = src := by
  rw [overwrite, List.take_zero, List.nil_append, List.drop_eq_nil_of_le (by omega), List.append_nil]

/-- Two stores one behind the other that together cover the block. -/
theorem overwrite_overwrite (mem q src : List α) (h : q.length + src.length = mem.length) :
    overwrite (overwrite mem 0 q) q.length src = q ++ src := by
  have hfirst : overwrite mem 0 q = q ++ mem.drop q.length := by
    rw [overwrite, List.take_zero, List.nil_append, Nat.zero_add]
  rw [hfirst, overwrite, List.take_left, List.drop_eq_nil_of_le, List.append_nil]
  rw [List.length_append, List.length_drop]
  omega

/-- A store behind a part of the block that is known. -/
theorem overwrite_append (mem q src : List α) (hdst : q.length = dst) :
    overwrite (q ++ mem) dst src = (q ++ src) ++ mem.drop src.length := by
  subst hdst
  rw [overwrite, List.take_left, List.drop_append, List.drop_eq_nil_of_le (Nat.le_add_right _ _),
    List.nil_append, Nat.add_sub_cancel_left]

/-- Two reads one behind the other are one. -/
theorem slice_append_slice (mem : List α) (start n k : ℕ) :
    slice mem start n ++ slice mem (start + n) k = slice mem start (n + k) := by
  rw [slice, slice, slice, List.take_add, List.drop_drop]

/-! ### Positions in the block -/

theorem wrap_eq (hi : start + i < n) : (start + i) % n = start + i :=
  Nat.mod_eq_of_lt hi

theorem wrap_eq_sub (hi : n ≤ start + i) (hi' : start + i < 2 * n) :
    (start + i) % n = start + i - n := by
  rw [Nat.mod_eq_sub_mod hi, Nat.mod_eq_of_lt (by omega)]

/-! ### Storing behind the queue -/

theorem Holds.nil : Holds mem start [] := fun i hi => absurd hi (Nat.not_lt_zero i)

theorem Holds.left (h : Holds mem start (q ++ src)) : Holds mem start q := by
  intro i hi
  rw [h i (by rw [List.length_append]; omega), List.getElem?_append_left hi]

/-- The cell behind the queue. -/
theorem Holds.concat {a : α} (h : Holds mem start q)
    (hcell : mem[(start + q.length) % mem.length]? = some a) : Holds mem start (q ++ [a]) := by
  intro i hi
  rw [List.length_append, List.length_singleton] at hi
  rcases Nat.lt_or_ge i q.length with hlt | hge
  · rw [List.getElem?_append_left hlt]
    exact h i hlt
  · obtain rfl : i = q.length := by omega
    rw [hcell, List.getElem?_concat_length]

/-- Any number of cells behind the queue extend it, whatever they hold. -/
theorem Holds.extend (h : Holds mem start q) (hmem : 0 < mem.length) (k : ℕ) :
    ∃ behind, behind.length = k ∧ Holds mem start (q ++ behind) := by
  induction k with
  | zero => exact ⟨[], rfl, by rwa [List.append_nil]⟩
  | succ k ih =>
    obtain ⟨behind, hlength, hholds⟩ := ih
    have hin : (start + (q ++ behind).length) % mem.length < mem.length := Nat.mod_lt _ hmem
    refine ⟨behind ++ [mem[(start + (q ++ behind).length) % mem.length]], ?_, ?_⟩
    · rw [List.length_append, List.length_singleton, hlength]
    · rw [← List.append_assoc]
      exact hholds.concat (List.getElem?_eq_getElem hin)

/-- A store that misses every cell of the queue leaves the queue alone. -/
theorem Holds.overwrite (h : Holds mem start q) (hin : dst + src.length ≤ mem.length)
    (hmiss : ∀ i < q.length, (start + i) % mem.length < dst ∨
      dst + src.length ≤ (start + i) % mem.length) : Holds (overwrite mem dst src) start q := by
  intro i hi
  rw [length_overwrite hin, getElem?_overwrite_outside hin (hmiss i hi)]
  exact h i hi

/-- **Storing behind the queue in one piece** appends to it. -/
theorem Holds.append (h : Holds mem start q) (hfit : q.length + src.length ≤ mem.length)
    (hdst : dst = (start + q.length) % mem.length) (hin : dst + src.length ≤ mem.length)
    (hstart : start < mem.length) : Holds (Library.overwrite mem dst src) start (q ++ src) := by
  intro i hi
  rw [List.length_append] at hi
  rw [length_overwrite hin]
  rcases Nat.lt_or_ge (start + q.length) mem.length with hq | hq
  · rw [wrap_eq hq] at hdst
    rcases Nat.lt_or_ge i q.length with hiq | hiq
    · rw [wrap_eq (by omega), getElem?_overwrite_outside hin (by omega),
        List.getElem?_append_left hiq, ← h i hiq, wrap_eq (by omega)]
    · rw [wrap_eq (by omega), getElem?_overwrite_inside hin (by omega) (by omega),
        List.getElem?_append_right hiq]
      congr 1
      omega
  · rw [wrap_eq_sub hq (by omega)] at hdst
    rcases Nat.lt_or_ge i q.length with hiq | hiq
    · have hpos : (start + i) % mem.length < dst ∨
          dst + src.length ≤ (start + i) % mem.length := by
        rcases Nat.lt_or_ge (start + i) mem.length with hi' | hi'
        · rw [wrap_eq hi']
          omega
        · rw [wrap_eq_sub hi' (by omega)]
          omega
      rw [getElem?_overwrite_outside hin hpos, List.getElem?_append_left hiq, h i hiq]
    · rw [wrap_eq_sub (by omega) (by omega), getElem?_overwrite_inside hin (by omega) (by omega),
        List.getElem?_append_right hiq]
      congr 1
      omega

/-- **Storing behind the queue in two pieces**: up to the end of the block, and the rest from its
beginning. -/
theorem Holds.append_wrap (h : Holds mem start q) (src : List α)
    (hfit : q.length + src.length ≤ mem.length) (hdst : dst = (start + q.length) % mem.length)
    (hover : mem.length ≤ dst + src.length)
    (hstart : start < mem.length) (hmem : dst < mem.length) :
    Holds (Library.overwrite (Library.overwrite mem dst (src.take (mem.length - dst))) 0
      (src.drop (mem.length - dst))) start (q ++ src) := by
  have hlen₁ : (src.take (mem.length - dst)).length = mem.length - dst := by
    rw [List.length_take]
    omega
  have hlen₂ : (src.drop (mem.length - dst)).length = src.length - (mem.length - dst) := by
    rw [List.length_drop]
  have hfirst : Holds (Library.overwrite mem dst (src.take (mem.length - dst))) start
      (q ++ src.take (mem.length - dst)) :=
    h.append (by omega) hdst (by omega) hstart
  have hmemlen : (Library.overwrite mem dst (src.take (mem.length - dst))).length = mem.length :=
    length_overwrite (by omega)
  have hzero : 0 = (start + (q ++ src.take (mem.length - dst)).length) % mem.length := by
    have hround : start + (q.length + (mem.length - dst)) = mem.length ∨
        start + (q.length + (mem.length - dst)) = 2 * mem.length := by
      rcases Nat.lt_or_ge (start + q.length) mem.length with hq | hq
      · rw [wrap_eq hq] at hdst
        omega
      · rw [wrap_eq_sub hq (by omega)] at hdst
        omega
    rw [List.length_append, hlen₁]
    rcases hround with hr | hr
    · rw [hr, Nat.mod_self]
    · rw [hr, Nat.mul_mod_left]
  have hsecond : Holds (Library.overwrite (Library.overwrite mem dst
      (src.take (mem.length - dst))) 0 (src.drop (mem.length - dst))) start
      (q ++ src.take (mem.length - dst) ++ src.drop (mem.length - dst)) :=
    hfirst.append (by rw [List.length_append, hmemlen]; omega) (by rw [hmemlen]; exact hzero)
      (by rw [hmemlen]; omega) (by rw [hmemlen]; exact hstart)
  rwa [List.append_assoc, List.take_append_drop] at hsecond

/-! ### Reading the queue -/

/-- **Forgetting the front** of the queue. -/
theorem Holds.drop (h : Holds mem start q) (k : ℕ) :
    Holds mem ((start + k) % mem.length) (q.drop k) := by
  intro i hi
  rw [List.length_drop] at hi
  rw [Nat.mod_add_mod, List.getElem?_drop, Nat.add_assoc]
  exact h (k + i) (by omega)

/-- **Reading a part in one piece.** -/
theorem Holds.slice (h : Holds mem start q) (hk : k + n ≤ q.length)
    (hin : start + k + n ≤ mem.length) :
    Library.slice mem (start + k) n = (q.drop k).take n := by
  apply List.ext_getElem?
  intro i
  rcases Nat.lt_or_ge i n with hi | hi
  · rw [getElem?_slice hi, List.getElem?_take_of_lt hi, List.getElem?_drop, ← h (k + i) (by omega),
      wrap_eq (by omega), Nat.add_assoc]
  · rw [List.getElem?_eq_none (by rw [length_slice hin]; exact hi),
      List.getElem?_eq_none (by rw [List.length_take]; omega)]

/-- Reading a part that lies entirely beyond the end of the block. -/
theorem Holds.slice_beyond (h : Holds mem start q) (hk : k + n ≤ q.length)
    (hover : mem.length ≤ start + k) (hin : start + k + n ≤ 2 * mem.length) :
    Library.slice mem (start + k - mem.length) n = (q.drop k).take n := by
  apply List.ext_getElem?
  intro i
  rcases Nat.lt_or_ge i n with hi | hi
  · rw [getElem?_slice hi, List.getElem?_take_of_lt hi, List.getElem?_drop, ← h (k + i) (by omega),
      wrap_eq_sub (by omega) (by omega)]
    congr 1
    omega
  · rw [List.getElem?_eq_none (by rw [length_slice (by omega)]; exact hi),
      List.getElem?_eq_none (by rw [List.length_take]; omega)]

/-- **Reading a part in two pieces**: up to the end of the block, and the rest from its beginning. -/
theorem Holds.slice_wrap (h : Holds mem start q) (hk : k + n ≤ q.length)
    (hin : start + k ≤ mem.length) (hover : mem.length ≤ start + k + n)
    (hstart : start + k + n ≤ 2 * mem.length) :
    Library.slice mem (start + k) (mem.length - (start + k)) ++
      Library.slice mem 0 (n - (mem.length - (start + k))) = (q.drop k).take n := by
  have hfirst := h.slice (k := k) (n := mem.length - (start + k)) (by omega) (by omega)
  have hsecond := h.slice_beyond (k := k + (mem.length - (start + k)))
    (n := n - (mem.length - (start + k))) (by omega) (by omega) (by omega)
  have hzero : start + (k + (mem.length - (start + k))) - mem.length = 0 := by omega
  have hsplit : n = (mem.length - (start + k)) + (n - (mem.length - (start + k))) := by omega
  rw [hzero] at hsecond
  rw [hfirst, hsecond]
  conv_rhs => rw [hsplit]
  rw [List.take_add, List.drop_drop]

end DistributedNetwork.Library
