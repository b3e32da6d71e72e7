import DistributedNetwork.Buffer.RingBuffer

/-!
# What the ring buffer holds

`rb.Represents n q` is the invariant: the two offsets delimit `q` inside a block of `n` bytes, at least
two bytes are unused, and an empty buffer starts at offset `0`.  One specification for each operation
follows; none of the later files unfolds an operation again.

* `writeData_accept` / `writeData_reject`, `increaseUsedSpace_spec` — writing;
* `getBufferAndLengthForWrite_spec` — the write window and the live bytes are disjoint;
* `decreaseUsedSpace_spec` — dropping the front;
* `getBufferForRead_eq`, `readData_spec`, `getContinuousData_eq` — reading.
-/

namespace DistributedNetwork.Buffer

open DistributedNetwork.Library

namespace RingBuffer

/-- The live bytes, from the start offset on and round the end of the block. -/
def contents (rb : RingBuffer) : List Byte :=
  (List.range rb.dataLength).map fun i =>
    (rb.m_buffer[(rb.m_startOffset + i) % rb.m_size]?).getD 0

/-- `rb` is a buffer of `n` bytes whose used part is `q`. -/
structure Represents (n : ℕ) (rb : RingBuffer) (q : List Byte) : Prop where
  size_eq : rb.m_size = n
  length_eq : rb.m_buffer.length = n
  start_lt : rb.m_startOffset < n
  end_eq : rb.m_endOffset = (rb.m_startOffset + q.length) % n
  fits : q.length + c_reservedSpace ≤ n
  reset : q = [] → rb.m_startOffset = 0
  holds : Holds rb.m_buffer rb.m_startOffset q

theorem increaseUsedSpace_startOffset (rb : RingBuffer) (size : ℕ) :
    (rb.increaseUsedSpace size).2.m_startOffset = rb.m_startOffset := by
  unfold increaseUsedSpace
  split <;> rfl

namespace Represents

variable {n k : ℕ} {rb : RingBuffer} {q d : List Byte}

theorem new (hn : 2 ≤ n) : Represents n (new n) [] where
  size_eq := rfl
  length_eq := List.length_replicate
  start_lt := by
    show 0 < n
    omega
  end_eq := (Nat.zero_mod n).symm
  fits := by
    rw [List.length_nil, c_reservedSpace]
    omega
  reset := fun _ => rfl
  holds := .nil

/-- Either the used part is in one piece, or it goes round the end of the block and leaves at least
the two reserved bytes before its start. -/
theorem end_cases (h : rb.Represents n q) :
    (rb.m_startOffset + q.length < n ∧ rb.m_endOffset = rb.m_startOffset + q.length) ∨
      (n ≤ rb.m_startOffset + q.length ∧ rb.m_endOffset + n = rb.m_startOffset + q.length ∧
        rb.m_endOffset + 2 ≤ rb.m_startOffset) := by
  have hstart := h.start_lt
  have hend := h.end_eq
  have hfits : q.length + 2 ≤ n := h.fits
  rcases Nat.lt_or_ge (rb.m_startOffset + q.length) n with hlt | hge
  · rw [wrap_eq hlt] at hend
    exact .inl ⟨hlt, hend⟩
  · rw [wrap_eq_sub hge (by omega)] at hend
    exact .inr ⟨hge, by omega, by omega⟩

theorem start_eq_of_empty (h : rb.Represents n q) (hq : q.length = 0) : rb.m_startOffset = 0 :=
  h.reset (List.length_eq_zero_iff.mp hq)

section Bounded

variable (h : rb.Represents n q) (hn : n < 2 ^ 31)

include h hn

/-! ### Lengths -/

theorem dataLength_eq : rb.dataLength = q.length := by
  have hstart := h.start_lt
  have hfits := h.fits
  unfold dataLength
  rcases h.end_cases with ⟨hlt, hend⟩ | ⟨hge, hend, htwo⟩
  · rw [if_pos (by omega), sizeSub_eq (by omega) (by omega)]
    omega
  · rw [if_neg (by omega), h.size_eq, sizeSub_eq (by omega) (by omega), sizeAdd_eq (by omega)]
    omega

/-- **No underflow**: the free space is what the used part and the reserve leave. -/
theorem space_eq : rb.space = n - 2 - q.length := by
  have hstart := h.start_lt
  have hfits : q.length + 2 ≤ n := h.fits
  unfold space c_reservedSpace
  rw [h.size_eq]
  rcases h.end_cases with ⟨hlt, hend⟩ | ⟨hge, hend, htwo⟩
  · by_cases hq : q.length = 0
    · rw [if_pos (by omega), sizeSub_eq (by omega) (by omega)]
      omega
    · rw [if_neg (by omega), if_pos (by omega), sizeAdd_eq (by omega)]
      by_cases hfull : (rb.m_endOffset + 2) % n = rb.m_startOffset
      · rw [if_pos hfull]
        rcases Nat.lt_or_ge (rb.m_endOffset + 2) n with hlt' | hge'
        · rw [Nat.mod_eq_of_lt hlt'] at hfull
          omega
        · rw [Nat.mod_eq_sub_mod hge', Nat.mod_eq_of_lt (by omega)] at hfull
          omega
      · have hend' : sizeSub n rb.m_endOffset = n - rb.m_endOffset :=
          sizeSub_eq (by omega) (by omega)
        rw [if_neg hfull, hend', sizeAdd_eq (by omega), sizeSub_eq (by omega) (by omega)]
        omega
  · rw [if_neg (by omega), if_neg (by omega), sizeSub_eq (a := rb.m_startOffset) (by omega) (by omega),
      sizeSub_eq (by omega) (by omega)]
    omega

/-! ### Writing -/

theorem writeData_reject (hd : n - 2 - q.length < d.length) : rb.writeData d = (-1, rb) := by
  unfold writeData
  rw [h.space_eq hn]
  exact if_pos hd

/-- **Accepted data** is stored behind the used part, in one piece or round the end. -/
theorem writeData_accept (hd : q.length + d.length ≤ n - 2) :
    ∃ mem, rb.writeData d = (0, { rb with m_buffer := mem }) ∧ mem.length = n ∧
      Holds mem rb.m_startOffset (q ++ d) := by
  have hstart := h.start_lt
  have hfits : q.length + 2 ≤ n := h.fits
  have hlen := h.length_eq
  have hdst : rb.m_endOffset = (rb.m_startOffset + q.length) % rb.m_buffer.length := by
    rw [hlen]
    exact h.end_eq
  have hone (hin : rb.m_endOffset + d.length ≤ n) :
      (overwrite rb.m_buffer rb.m_endOffset d).length = n ∧
        Holds (overwrite rb.m_buffer rb.m_endOffset d) rb.m_startOffset (q ++ d) :=
    ⟨(length_overwrite (by omega)).trans hlen,
      h.holds.append (by omega) hdst (by omega) (by omega)⟩
  unfold writeData
  rw [h.space_eq hn, if_neg (by omega)]
  rcases h.end_cases with ⟨hlt, hend⟩ | ⟨hge, hend, htwo⟩
  · have hafter : throughInt (sizeSub rb.m_size rb.m_endOffset) = n - rb.m_endOffset := by
      rw [h.size_eq, sizeSub_eq (by omega) (by omega), throughInt_eq (by omega)]
    rw [if_neg (by omega)]
    simp only [hafter]
    by_cases hin : n - rb.m_endOffset > d.length
    · rw [if_pos hin]
      exact ⟨_, rfl, hone (by omega)⟩
    · rw [if_neg hin]
      have hwrap := h.holds.append_wrap d (by omega) hdst (by omega) (by omega) (by omega)
      rw [hlen] at hwrap
      refine ⟨_, rfl, ?_, hwrap⟩
      have hfirst : (overwrite rb.m_buffer rb.m_endOffset
          (d.take (n - rb.m_endOffset))).length = n := by
        rw [length_overwrite (by rw [List.length_take]; omega), hlen]
      rw [length_overwrite (by rw [hfirst, List.length_drop]; omega), hfirst]
  · rw [if_pos (by omega)]
    exact ⟨_, rfl, hone (by omega)⟩

/-- Once the bytes are there, raising the used space appends them. -/
theorem increaseUsedSpace_spec {mem : List Byte} (hmem : mem.length = n)
    (hd : q.length + d.length ≤ n - 2) (hholds : Holds mem rb.m_startOffset (q ++ d)) :
    ∃ rb', { rb with m_buffer := mem }.increaseUsedSpace d.length = (0, rb') ∧
      rb'.Represents n (q ++ d) := by
  have hstart := h.start_lt
  have hfits : q.length + 2 ≤ n := h.fits
  have hmid : Represents n { rb with m_buffer := mem } q :=
    ⟨h.size_eq, hmem, h.start_lt, h.end_eq, h.fits, h.reset, hholds.left⟩
  have hspace := hmid.space_eq hn
  have hlt : rb.m_endOffset < n := by
    rw [h.end_eq]
    exact Nat.mod_lt _ (by omega)
  refine ⟨{ rb with m_buffer := mem, m_endOffset := (rb.m_endOffset + d.length) % n }, ?_, ?_⟩
  · unfold increaseUsedSpace
    rw [if_neg (by omega)]
    simp only [h.size_eq]
    rw [sizeAdd_eq (by omega)]
  · refine ⟨h.size_eq, hmem, h.start_lt, ?_, ?_, ?_, hholds⟩
    · show (rb.m_endOffset + d.length) % n = _
      rw [h.end_eq, Nat.mod_add_mod, List.length_append, Nat.add_assoc]
    · rw [List.length_append, c_reservedSpace]
      omega
    · exact fun hnil => h.reset (List.append_eq_nil_iff.mp hnil).1

theorem getBufferAndLengthForWrite_full (hq : q.length = n - 2) :
    rb.getBufferAndLengthForWrite = (-1, none) := by
  unfold getBufferAndLengthForWrite
  rw [h.space_eq hn]
  exact if_pos (by omega)

/-- **The write window** starts behind the used part, stays inside the block and the free space, and
meets no live byte. -/
theorem getBufferAndLengthForWrite_spec (hq : q.length < n - 2) :
    ∃ len, rb.getBufferAndLengthForWrite = (0, some (rb.m_endOffset, len)) ∧ 0 < len ∧
      rb.m_endOffset + len ≤ n ∧ q.length + len ≤ n - 2 ∧
      ∀ i < q.length, (rb.m_startOffset + i) % n < rb.m_endOffset ∨
        rb.m_endOffset + len ≤ (rb.m_startOffset + i) % n := by
  have hstart := h.start_lt
  have hfits : q.length + 2 ≤ n := h.fits
  unfold getBufferAndLengthForWrite c_reservedSpace
  rw [h.space_eq hn, if_neg (by omega), h.size_eq]
  rcases h.end_cases with ⟨hlt, hend⟩ | ⟨hge, hend, htwo⟩
  · have hlive : ∀ i < q.length, (rb.m_startOffset + i) % n < rb.m_endOffset := fun i hi => by
      rw [wrap_eq (by omega)]
      omega
    simp only [if_pos (show rb.m_startOffset ≤ rb.m_endOffset by omega)]
    by_cases htwo : 2 ≤ rb.m_startOffset
    · rw [if_pos htwo, sizeSub_eq (by omega) (by omega)]
      exact ⟨_, rfl, by omega, by omega, by omega, fun i hi => .inl (hlive i hi)⟩
    · rw [if_neg htwo, sizeSub_eq (a := 2) (by omega) (by omega),
        sizeSub_eq (a := n) (by omega) (by omega), sizeSub_eq (by omega) (by omega)]
      exact ⟨_, rfl, by omega, by omega, by omega, fun i hi => .inl (hlive i hi)⟩
  · simp only [if_neg (show ¬ rb.m_startOffset ≤ rb.m_endOffset by omega)]
    rw [sizeSub_eq (a := rb.m_startOffset) (by omega) (by omega), sizeSub_eq (by omega) (by omega)]
    refine ⟨_, rfl, by omega, by omega, by omega, fun i hi => ?_⟩
    rcases Nat.lt_or_ge (rb.m_startOffset + i) n with hi' | hi'
    · rw [wrap_eq hi']
      omega
    · rw [wrap_eq_sub hi' (by omega)]
      omega

/-! ### Dropping -/

theorem decreaseUsedSpace_reject (hk : q.length < k) : rb.decreaseUsedSpace k = (-1, rb) := by
  unfold decreaseUsedSpace
  rw [h.dataLength_eq hn]
  exact if_pos hk

omit hn in
/-- Dropping a part of the used bytes does not reach the end offset. -/
theorem start_add_ne_end (hk : k < q.length) : (rb.m_startOffset + k) % n ≠ rb.m_endOffset := by
  have hstart := h.start_lt
  have hfits : q.length + 2 ≤ n := h.fits
  rw [h.end_eq]
  rcases Nat.lt_or_ge (rb.m_startOffset + k) n with h₁ | h₁ <;>
    rcases Nat.lt_or_ge (rb.m_startOffset + q.length) n with h₂ | h₂
  · rw [wrap_eq h₁, wrap_eq h₂]
    omega
  · rw [wrap_eq h₁, wrap_eq_sub h₂ (by omega)]
    omega
  · omega
  · rw [wrap_eq_sub h₁ (by omega), wrap_eq_sub h₂ (by omega)]
    omega

/-- **Dropping the front**; dropping everything moves both offsets back to `0`. -/
theorem decreaseUsedSpace_spec (hk : k ≤ q.length) :
    ∃ rb', rb.decreaseUsedSpace k = (0, rb') ∧ rb'.Represents n (q.drop k) := by
  have hstart := h.start_lt
  have hfits : q.length + 2 ≤ n := h.fits
  unfold decreaseUsedSpace
  rw [h.dataLength_eq hn, if_neg (by omega)]
  by_cases hall : q.length = k
  · rw [if_pos hall, List.drop_eq_nil_of_le (by omega)]
    refine ⟨_, rfl, h.size_eq, h.length_eq, ?_, (Nat.zero_mod n).symm, ?_, fun _ => rfl, .nil⟩
    · show 0 < n
      omega
    · rw [List.length_nil, c_reservedSpace]
      omega
  · have hne := h.start_add_ne_end (show k < q.length by omega)
    simp only [h.size_eq, sizeAdd_eq (show rb.m_startOffset + k < 2 ^ 64 by omega)]
    rw [if_neg hall, if_neg hne]
    refine ⟨_, rfl, rfl, h.length_eq, Nat.mod_lt _ (by omega), ?_, ?_, ?_, ?_⟩
    · show rb.m_endOffset = _
      rw [List.length_drop, Nat.mod_add_mod, h.end_eq]
      congr 1
      omega
    · rw [List.length_drop, c_reservedSpace]
      omega
    · intro hnil
      rw [List.drop_eq_nil_iff] at hnil
      omega
    · have hdrop := h.holds.drop k
      rw [h.length_eq] at hdrop
      exact hdrop

/-- Where the used part begins after its front was dropped. -/
theorem decreaseUsedSpace_startOffset (hk : k ≤ q.length) : (rb.decreaseUsedSpace k).2.m_startOffset =
    if q.length = k then 0 else (rb.m_startOffset + k) % n := by
  have hstart := h.start_lt
  have hfits : q.length + 2 ≤ n := h.fits
  unfold decreaseUsedSpace
  rw [h.dataLength_eq hn, if_neg (by omega)]
  by_cases hall : q.length = k
  · rw [if_pos hall, if_pos hall]
  · have hne := h.start_add_ne_end (show k < q.length by omega)
    simp only [h.size_eq, sizeAdd_eq (show rb.m_startOffset + k < 2 ^ 64 by omega)]
    rw [if_neg hall, if_neg hne, if_neg hall]

/-! ### Reading -/

theorem getBufferForRead_eq : rb.getBufferForRead k =
    if q.length < k then (-1, none)
    else if rb.m_startOffset + k ≤ n then (0, some rb.m_startOffset) else (-2, none) := by
  have hstart := h.start_lt
  have hfits : q.length + 2 ≤ n := h.fits
  unfold getBufferForRead
  rw [h.dataLength_eq hn, h.size_eq]
  by_cases hk : q.length < k
  · rw [if_pos hk, if_pos hk]
  · rw [if_neg hk, if_neg hk]
    rcases h.end_cases with ⟨hlt, hend⟩ | ⟨hge, hend, htwo⟩
    · by_cases hq : q.length = 0
      · have hzero := h.start_eq_of_empty hq
        rw [if_neg (by omega), sizeSub_eq (by omega) (by omega), if_neg (by omega),
          if_pos (by omega)]
      · rw [if_pos (by omega), if_pos (by omega)]
    · rw [if_neg (by omega), sizeSub_eq (by omega) (by omega)]
      by_cases hin : rb.m_startOffset + k ≤ n
      · rw [if_pos hin, if_neg (by omega)]
      · rw [if_neg hin, if_pos (by omega)]

omit hn in
/-- Contiguous bytes inside the used part are the queue's. -/
theorem slice_eq {p : ℕ} (hp : p + k ≤ q.length) (hin : rb.m_startOffset + p + k ≤ n) :
    slice rb.m_buffer (rb.m_startOffset + p) k = (q.drop p).take k :=
  h.holds.slice hp (by rw [h.length_eq]; exact hin)

/-- **Copying out**: also where the part to be read lies beyond the end of the block, and the length
of the first piece underflows. -/
theorem readData_spec (offset : ℕ) (data : List Byte) (hk : offset + k ≤ q.length)
    (hdata : data.length = k) : rb.readData k offset data = (0, (q.drop offset).take k) := by
  have hstart := h.start_lt
  have hfits : q.length + 2 ≤ n := h.fits
  have hlen := h.length_eq
  have hpart : ((q.drop offset).take k).length = data.length := by
    rw [List.length_take, List.length_drop]
    omega
  unfold readData
  simp only [h.dataLength_eq hn, throughInt_eq (show q.length < 2 ^ 31 by omega), h.size_eq,
    sizeAdd_eq (show rb.m_startOffset + offset < 2 ^ 64 by omega)]
  rw [if_neg (by omega)]
  rcases h.end_cases with ⟨hlt, hend⟩ | ⟨hge, hend, htwo⟩
  · by_cases hq : q.length = 0
    · have hzero := h.start_eq_of_empty hq
      rw [if_neg (by omega), sizeSub_eq (by omega) (by omega), if_neg (by omega),
        Nat.mod_eq_of_lt (by omega), h.slice_eq (by omega) (by omega), overwrite_all hpart]
    · rw [if_pos (by omega), h.slice_eq (by omega) (by omega), overwrite_all hpart]
  · rw [if_neg (by omega)]
    rcases Nat.lt_or_ge n (rb.m_startOffset + offset) with hover | hin
    · rw [sizeSub_borrow (by omega) hover, if_neg (by omega), wrap_eq_sub (by omega) (by omega)]
      have hbeyond := h.holds.slice_beyond (k := offset) (n := k) hk (by omega) (by omega)
      rw [hlen] at hbeyond
      rw [hbeyond, overwrite_all hpart]
    · rw [sizeSub_eq hin (by omega)]
      by_cases hsplit : k > n - (rb.m_startOffset + offset)
      · rw [if_pos hsplit, sizeSub_eq (by omega) (by omega)]
        have hwrap := h.holds.slice_wrap (k := offset) (n := k) hk (by omega) (by omega) (by omega)
        rw [hlen] at hwrap
        have hfirst : (slice rb.m_buffer (rb.m_startOffset + offset)
            (n - (rb.m_startOffset + offset))).length = n - (rb.m_startOffset + offset) :=
          length_slice (by omega)
        have hsecond : (slice rb.m_buffer 0 (k - (n - (rb.m_startOffset + offset)))).length =
            k - (n - (rb.m_startOffset + offset)) :=
          length_slice (by omega)
        have hcopied : overwrite (overwrite data 0 (slice rb.m_buffer (rb.m_startOffset + offset)
            (n - (rb.m_startOffset + offset)))) (n - (rb.m_startOffset + offset))
            (slice rb.m_buffer 0 (k - (n - (rb.m_startOffset + offset)))) =
              slice rb.m_buffer (rb.m_startOffset + offset) (n - (rb.m_startOffset + offset)) ++
                slice rb.m_buffer 0 (k - (n - (rb.m_startOffset + offset))) := by
          have hcover := overwrite_overwrite data (slice rb.m_buffer (rb.m_startOffset + offset)
            (n - (rb.m_startOffset + offset)))
            (slice rb.m_buffer 0 (k - (n - (rb.m_startOffset + offset)))) (by omega)
          rwa [hfirst] at hcover
        rw [hcopied, hwrap]
      · rw [if_neg hsplit]
        by_cases hk : k = 0
        · -- nothing is copied, possibly at the very end of the block
          subst hk
          rw [slice, List.take_zero, List.take_zero,
            overwrite_all (show ([] : List Byte).length = data.length from hdata.symm)]
        · rw [Nat.mod_eq_of_lt (by omega), h.slice_eq (by omega) (by omega), overwrite_all hpart]

/-- The front that `getContinuousData` reports stays inside the block, once there are as many bytes as
are reserved: its correction for an end offset near `0` then does not underflow. -/
theorem getContinuousData_spec (hq : 2 ≤ q.length) :
    ∃ len, rb.getContinuousData = (0, some (rb.m_startOffset, len)) ∧ rb.m_startOffset + len ≤ n := by
  have hstart := h.start_lt
  have hfits : q.length + 2 ≤ n := h.fits
  unfold getContinuousData c_reservedSpace
  rw [h.dataLength_eq hn, if_neg (by omega), h.size_eq]
  rcases h.end_cases with ⟨hlt, hend⟩ | ⟨hge, hend, htwo⟩
  · simp only [if_pos (show rb.m_startOffset < rb.m_endOffset by omega)]
    rw [sizeSub_eq (by omega) (by omega)]
    exact ⟨_, rfl, by omega⟩
  · simp only [if_neg (show ¬ rb.m_startOffset < rb.m_endOffset by omega)]
    by_cases hnear : rb.m_endOffset ≤ 2
    · rw [if_pos hnear, sizeSub_eq (a := 2) (by omega) (by omega),
        sizeSub_eq (a := n) (by omega) (by omega), sizeSub_eq (by omega) (by omega)]
      exact ⟨_, rfl, by omega⟩
    · rw [if_neg hnear, sizeSub_eq (by omega) (by omega)]
      exact ⟨_, rfl, by omega⟩

/-- A used part in one piece is reported whole. -/
theorem getContinuousData_whole (hq : 0 < q.length) (hlt : rb.m_startOffset + q.length < n) :
    rb.getContinuousData = (0, some (rb.m_startOffset, q.length)) := by
  have hend := h.end_eq
  rw [wrap_eq hlt] at hend
  unfold getContinuousData
  rw [h.dataLength_eq hn, if_neg (by omega)]
  simp only [if_pos (show rb.m_startOffset < rb.m_endOffset by omega)]
  rw [sizeSub_eq (by omega) (by omega), hend, Nat.add_sub_cancel_left]

end Bounded

/-- The live bytes as a caller reads them off, one by one, going round the end. -/
theorem contents_eq (h : rb.Represents n q) (hn : n < 2 ^ 31) : rb.contents = q := by
  apply List.ext_getElem?
  intro i
  unfold contents
  rw [h.dataLength_eq hn, h.size_eq, List.getElem?_map]
  rcases Nat.lt_or_ge i q.length with hi | hi
  · have hcell := h.holds i hi
    rw [h.length_eq] at hcell
    rw [List.getElem?_range hi, Option.map_some, hcell, List.getElem?_eq_getElem hi]
    rfl
  · rw [List.getElem?_eq_none (by rw [List.length_range]; exact hi), Option.map_none,
      List.getElem?_eq_none hi]

end Represents

end RingBuffer

end DistributedNetwork.Buffer
