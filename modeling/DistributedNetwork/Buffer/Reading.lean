import DistributedNetwork.Buffer.Layout
import DistributedNetwork.Library.TransitionSystem
import Mathlib.Logic.Function.Iterate

/-!
# What the ring buffer lets its callers read

* `ringBufferMethods` — the buffer under its public methods, in any order, and under writes through the
  pointers it gives away;
* `readData_iff` — `readData` copies queued bytes and refuses everything else **exactly** when it is not
  asked for bytes behind the queue: its guard leaves `offset` out;
* `getContinuousData_iff` — the contiguous front is usable and drains the queue **exactly** when the used
  part does not end on the first byte of the block or right before it, having gone round.
-/

namespace DistributedNetwork.Buffer

open DistributedNetwork.Library

/-! ### Reachable buffers -/

/-- A method that changes the buffer, or a write through a pointer into its block. -/
inductive Method where
  | writeData (data : List Byte)
  | increaseUsedSpace (size : ℕ)
  | decreaseUsedSpace (size : ℕ)
  | clear
  | throughPointer (memory : List Byte)
  deriving DecidableEq

def RingBuffer.call (rb : RingBuffer) : Method → Option RingBuffer
  | .writeData data => some (rb.writeData data).2
  | .increaseUsedSpace size => some (rb.increaseUsedSpace size).2
  | .decreaseUsedSpace size => some (rb.decreaseUsedSpace size).2
  | .clear => some rb.clear
  | .throughPointer memory =>
    if memory.length = rb.m_buffer.length then some { rb with m_buffer := memory } else none

def ringBufferMethods (n : ℕ) : TransitionSystem RingBuffer Method where
  init rb := rb = .new n
  step := RingBuffer.call

section Methods

open RingBuffer

variable {n k : ℕ} {rb rb' : RingBuffer} {q : List Byte}

/-- Other bytes in the block are another queue of the same length. -/
theorem represents_memory (h : rb.Represents n q) {memory : List Byte} (hmemory : memory.length = n) :
    ∃ q', q'.length = q.length ∧ { rb with m_buffer := memory }.Represents n q' := by
  have hstart := h.start_lt
  obtain ⟨q', hlength, hholds⟩ :=
    (Holds.nil : Holds memory rb.m_startOffset []).extend (by omega) q.length
  refine ⟨q', hlength, h.size_eq, hmemory, hstart, ?_, hlength ▸ h.fits, fun hnil => ?_, hholds⟩
  · rw [hlength]
    exact h.end_eq
  · exact h.start_eq_of_empty (by rw [← hlength, hnil, List.length_nil])

/-- Raising the used space takes in whatever is in the block behind the queue. -/
theorem represents_increase (h : rb.Represents n q) (hn : n < 2 ^ 31) (k : ℕ) :
    ∃ q', (rb.increaseUsedSpace k).2.Represents n q' := by
  rcases Nat.lt_or_ge (n - 2 - q.length) k with hk | hk
  · refine ⟨q, ?_⟩
    rw [increaseUsedSpace, h.space_eq hn, if_pos hk]
    exact h
  · have hstart := h.start_lt
    obtain ⟨behind, rfl, hholds⟩ := h.holds.extend (by rw [h.length_eq]; omega) k
    have hfits : q.length + 2 ≤ n := h.fits
    obtain ⟨rb', hincrease, hrep⟩ := h.increaseUsedSpace_spec hn h.length_eq (by omega) hholds
    have heq : (rb.increaseUsedSpace behind.length).2 = rb' := congrArg Prod.snd hincrease
    rw [heq]
    exact ⟨_, hrep⟩

/-- **Step lemma.** -/
theorem represents_call (h : rb.Represents n q) (hn : n < 2 ^ 31) {method : Method}
    (hcall : rb.call method = some rb') : ∃ q', rb'.Represents n q' := by
  have hfits : q.length + 2 ≤ n := h.fits
  cases method with
  | writeData data =>
    cases hcall
    rcases Nat.lt_or_ge (n - 2 - q.length) data.length with hd | hd
    · rw [h.writeData_reject hn hd]
      exact ⟨q, h⟩
    · obtain ⟨mem, hwrite, hmem, -⟩ :=
        h.writeData_accept hn (show q.length + data.length ≤ n - 2 by omega)
      rw [hwrite]
      obtain ⟨q', -, hrep⟩ := represents_memory h hmem
      exact ⟨q', hrep⟩
  | increaseUsedSpace size =>
    cases hcall
    exact represents_increase h hn size
  | decreaseUsedSpace size =>
    cases hcall
    rcases Nat.lt_or_ge q.length size with hsize | hsize
    · rw [h.decreaseUsedSpace_reject hn hsize]
      exact ⟨q, h⟩
    · obtain ⟨rb₁, hdecrease, hrep⟩ := h.decreaseUsedSpace_spec hn hsize
      rw [hdecrease]
      exact ⟨_, hrep⟩
  | clear =>
    cases hcall
    refine ⟨[], h.size_eq, h.length_eq, ?_, (Nat.zero_mod n).symm, ?_, fun _ => rfl, .nil⟩
    · show 0 < n
      omega
    · rw [List.length_nil, c_reservedSpace]
      omega
  | throughPointer memory =>
    obtain ⟨hmemory, hrb'⟩ := Option.ite_none_right_eq_some.mp hcall
    cases hrb'
    obtain ⟨q', -, hrep⟩ := represents_memory h (hmemory.trans h.length_eq)
    exact ⟨q', hrep⟩

/-- **Run lemma.**  Every reachable buffer holds some queue. -/
theorem represents_of_reachable (htwo : 2 ≤ n) (hn : n < 2 ^ 31)
    (h : (ringBufferMethods n).Reachable rb) : ∃ q, rb.Represents n q := by
  refine h.invariant (I := fun rb => ∃ q, rb.Represents n q) ?_ ?_
  · rintro rb rfl
    exact ⟨[], .new htwo⟩
  · intro rb method rb' hrep _ hcall
    obtain ⟨q, hrep⟩ := hrep
    exact represents_call hrep hn hcall

end Methods

/-! ### `readData` -/

/-- The answer that is owed: queued bytes into a vector of their size, and a refusal otherwise. -/
def RingBuffer.owedRead (rb : RingBuffer) (size offset : ℕ) (data : List Byte) : ℤ × List Byte :=
  if data.length = size ∧ offset + size ≤ rb.dataLength then
    (0, (rb.contents.drop offset).take size)
  else (-1, data)

theorem readData_reject {n size : ℕ} {rb : RingBuffer} {q data : List Byte} (h : rb.Represents n q)
    (hn : n < 2 ^ 31) (offset : ℕ) (hsize : q.length < size ∨ data.length ≠ size) :
    rb.readData size offset data = (-1, data) := by
  have hfits := h.fits
  unfold RingBuffer.readData
  rw [h.dataLength_eq hn, throughInt_eq (by omega)]
  exact if_pos hsize

/-- Whatever the offset is, a read no longer than the queue returns `0`. -/
theorem readData_code {n size : ℕ} {rb : RingBuffer} {q data : List Byte} (h : rb.Represents n q)
    (hn : n < 2 ^ 31) (offset : ℕ) (hsize : size ≤ q.length) (hdata : data.length = size) :
    (rb.readData size offset data).1 = 0 := by
  have hfits := h.fits
  unfold RingBuffer.readData
  rw [h.dataLength_eq hn, throughInt_eq (by omega), if_neg (by omega)]
  split
  · rfl
  · dsimp only
    split <;> rfl

/-- **Reading queued bytes.**  `readData` gives the answer that is owed **if and only if** the vector has
another length, or the queue is shorter than the vector, or the bytes asked for are all queued. -/
theorem readData_iff (n : ℕ) (htwo : 2 ≤ n) (hn : n < 2 ^ 31) (rb : RingBuffer)
    (h : (ringBufferMethods n).Reachable rb) (size offset : ℕ) (data : List Byte) :
    rb.readData size offset data = rb.owedRead size offset data ↔
      data.length ≠ size ∨ rb.dataLength < size ∨ offset + size ≤ rb.dataLength := by
  obtain ⟨q, hrep⟩ := represents_of_reachable htwo hn h
  unfold RingBuffer.owedRead
  rw [hrep.dataLength_eq hn, hrep.contents_eq hn]
  by_cases hrefused : q.length < size ∨ data.length ≠ size
  · rw [readData_reject hrep hn offset hrefused, if_neg (by omega)]
    exact iff_of_true rfl (hrefused.elim (fun hlt => .inr (.inl hlt)) .inl)
  · rw [not_or, Nat.not_lt, ne_eq, Decidable.not_not] at hrefused
    by_cases hqueued : offset + size ≤ q.length
    · rw [hrep.readData_spec hn offset data hqueued hrefused.2, if_pos ⟨hrefused.2, hqueued⟩]
      exact iff_of_true rfl (.inr (.inr hqueued))
    · have hcode := readData_code hrep hn offset hrefused.1 hrefused.2
      rw [if_neg fun hboth => hqueued hboth.2]
      refine iff_of_false (fun heq => ?_) (by omega)
      rw [heq] at hcode
      cases hcode

/-- Three queued bytes in a block of ten. -/
def abcMethods : List Method :=
  [.writeData [97, 98, 99], .increaseUsedSpace 3]

def abcBuffer : RingBuffer where
  m_buffer := [97, 98, 99, 0, 0, 0, 0, 0, 0, 0]
  m_size := 10
  m_endOffset := 3

theorem abcBuffer_reachable : (ringBufferMethods 10).Reachable abcBuffer := by
  have hrun : (ringBufferMethods 10).run (.new 10) abcMethods = some abcBuffer := by decide
  exact .of_run (.init rfl) hrun

theorem readData_iff_abc :
    abcBuffer.readData 2 1 [0, 0] = abcBuffer.owedRead 2 1 [0, 0] ↔
      [0, 0].length ≠ 2 ∨ abcBuffer.dataLength < 2 ∨ 1 + 2 ≤ abcBuffer.dataLength :=
  readData_iff 10 (by decide) (by decide) abcBuffer abcBuffer_reachable 2 1 [0, 0]

/-- One byte behind the queue is read as if it were queued. -/
theorem readData_behind :
    (ringBufferMethods 10).Reachable abcBuffer ∧ abcBuffer.dataLength = 3 ∧
      abcBuffer.readData 1 3 [7] = (0, [0]) ∧
      abcBuffer.readData 1 3 [7] ≠ abcBuffer.owedRead 1 3 [7] :=
  ⟨abcBuffer_reachable, by decide, by decide, by decide⟩

/-! ### `getContinuousData` -/

/-- The used part has gone round and ends right before the first byte of the block or on it. -/
def RingBuffer.EndsAtFront (rb : RingBuffer) : Prop :=
  rb.m_endOffset ≤ 1 ∧ rb.m_endOffset < rb.m_startOffset

instance (rb : RingBuffer) : Decidable rb.EndsAtFront :=
  inferInstanceAs (Decidable (_ ∧ _))

/-- What is reported is a nonempty front of the queue, inside the block, and as long as it can be. -/
def UsablePrefix (n : ℕ) (rb : RingBuffer) : Prop :=
  ∃ buffer size, rb.getContinuousData = (0, some (buffer, size)) ∧
    1 ≤ size ∧ size ≤ rb.dataLength ∧
    buffer + size ≤ n ∧ slice rb.m_buffer buffer size = rb.contents.take size ∧
    (rb.m_startOffset + rb.dataLength ≤ n → size = rb.dataLength) ∧
    (n < rb.m_startOffset + rb.dataLength → size = n - rb.m_startOffset)

/-- Take the contiguous front and consume it. -/
def drainStep (rb : RingBuffer) : RingBuffer :=
  match rb.getContinuousData with
  | (0, some (_, size)) => (rb.decreaseUsedSpace size).2
  | _ => rb

def Drains (rb : RingBuffer) : Prop :=
  ∃ k, (drainStep^[k] rb).dataLength = 0

section Continuous

open RingBuffer

variable {n : ℕ} {rb : RingBuffer} {q : List Byte}

/-- A used part that goes round and ends behind the second byte is reported up to the end. -/
theorem getContinuousData_round (h : rb.Represents n q) (hn : n < 2 ^ 31)
    (hround : rb.m_endOffset < rb.m_startOffset) (htwo : 2 ≤ rb.m_endOffset) :
    rb.getContinuousData = (0, some (rb.m_startOffset, n - rb.m_startOffset)) := by
  have hstart := h.start_lt
  have hfits : q.length + 2 ≤ n := h.fits
  have hcases := h.end_cases
  unfold getContinuousData c_reservedSpace
  rw [h.dataLength_eq hn, if_neg (by omega), h.size_eq]
  simp only [if_neg (show ¬ rb.m_startOffset < rb.m_endOffset by omega)]
  by_cases hnear : rb.m_endOffset ≤ 2
  · have hzero : sizeSub 2 rb.m_endOffset = 0 := by
      rw [sizeSub_eq (by omega) (by omega)]
      omega
    have hsize : sizeSub n 0 = n := sizeSub_eq (Nat.zero_le n) (by omega)
    rw [if_pos hnear, hzero, hsize, sizeSub_eq (by omega) (by omega)]
  · rw [if_neg hnear, sizeSub_eq (by omega) (by omega)]

/-- One that ends on the first byte or right before it is reported too short, or with a length that has
wrapped. -/
theorem getContinuousData_front (h : rb.Represents n q) (hn : n < 2 ^ 31) (hfront : rb.EndsAtFront) :
    ∃ size, rb.getContinuousData = (0, some (rb.m_startOffset, size)) ∧
      (size < n - rb.m_startOffset ∨ n < size) := by
  have hstart := h.start_lt
  have hfits : q.length + 2 ≤ n := h.fits
  have hcases := h.end_cases
  obtain ⟨hone, hround⟩ := hfront
  unfold getContinuousData c_reservedSpace
  rw [h.dataLength_eq hn, if_neg (by omega), h.size_eq]
  simp only [if_neg (show ¬ rb.m_startOffset < rb.m_endOffset by omega)]
  rw [if_pos (by omega), sizeSub_eq (a := 2) (by omega) (by omega),
    sizeSub_eq (a := n) (by omega) (by omega)]
  refine ⟨_, rfl, ?_⟩
  rcases Nat.lt_or_ge (n - (2 - rb.m_endOffset)) rb.m_startOffset with hlt | hge
  · rw [sizeSub_borrow (by omega) hlt]
    omega
  · rw [sizeSub_eq hge (by omega)]
    omega

/-- A front of the right length is usable. -/
theorem usablePrefix_of_eq (h : rb.Represents n q) (hn : n < 2 ^ 31) {size : ℕ} (hone : 1 ≤ size)
    (hcall : rb.getContinuousData = (0, some (rb.m_startOffset, size)))
    (hsize : size = min q.length (n - rb.m_startOffset)) : UsablePrefix n rb := by
  have hstart := h.start_lt
  have hslice : slice rb.m_buffer rb.m_startOffset size = q.take size :=
    h.slice_eq (p := 0) (k := size) (by omega) (by omega)
  unfold UsablePrefix
  rw [h.dataLength_eq hn, h.contents_eq hn]
  exact ⟨_, size, hcall, hone, by omega, by omega, hslice, fun _ => by omega, fun _ => by omega⟩

/-- **One round** consumes what was reported. -/
theorem represents_drainStep (h : rb.Represents n q) (hn : n < 2 ^ 31) {buffer size : ℕ}
    (hcall : rb.getContinuousData = (0, some (buffer, size))) (hsize : size ≤ q.length) :
    (drainStep rb).Represents n (q.drop size) := by
  obtain ⟨rb', hdecrease, hrep⟩ := h.decreaseUsedSpace_spec hn hsize
  have heq : drainStep rb = rb' := by
    rw [drainStep, hcall]
    exact congrArg Prod.snd hdecrease
  rw [heq]
  exact hrep

/-- A used part in one piece is usable, and one round drains it. -/
theorem usable_of_whole (h : rb.Represents n q) (hn : n < 2 ^ 31) (hq : 0 < q.length)
    (hwhole : rb.m_startOffset + q.length < n) : UsablePrefix n rb ∧ Drains rb := by
  have hcall := h.getContinuousData_whole hn hq hwhole
  have hrep := represents_drainStep h hn hcall (Nat.le_refl _)
  refine ⟨usablePrefix_of_eq h hn hq hcall (by omega), 1, ?_⟩
  show (drainStep rb).dataLength = 0
  rw [hrep.dataLength_eq hn, List.drop_length, List.length_nil]

/-- A used part that goes round and ends behind the second byte is usable, and two rounds drain it: the
first leaves a used part in one piece at the front of the block. -/
theorem usable_of_round (h : rb.Represents n q) (hn : n < 2 ^ 31)
    (hround : rb.m_endOffset < rb.m_startOffset) (htwo : 2 ≤ rb.m_endOffset) :
    UsablePrefix n rb ∧ Drains rb := by
  have hstart := h.start_lt
  have hfits : q.length + 2 ≤ n := h.fits
  have hcases := h.end_cases
  have hcall := getContinuousData_round h hn hround htwo
  have hrep := represents_drainStep h hn hcall (by omega)
  have hrest : (q.drop (n - rb.m_startOffset)).length = rb.m_endOffset := by
    rw [List.length_drop]
    omega
  have hzero : (drainStep rb).m_startOffset = 0 := by
    rw [drainStep, hcall]
    show (rb.decreaseUsedSpace (n - rb.m_startOffset)).2.m_startOffset = 0
    unfold decreaseUsedSpace
    rw [h.dataLength_eq hn, if_neg (by omega), if_neg (by omega), h.size_eq, sizeAdd_eq (by omega),
      Nat.add_sub_cancel' (Nat.le_of_lt hstart), Nat.mod_self]
    simp only [if_neg (show ¬ 0 = rb.m_endOffset by omega)]
  obtain ⟨-, k, hk⟩ := usable_of_whole hrep hn (by omega) (by omega)
  exact ⟨usablePrefix_of_eq h hn (by omega) hcall (by omega), k + 1, hk⟩

/-- **The contiguous front.**  In a reachable buffer that is not empty, `getContinuousData` reports a
usable front, and taking it again and again drains the queue, **if and only if** the used part does not
end right before or on the first byte of the block, having gone round. -/
theorem getContinuousData_iff (n : ℕ) (htwo : 2 ≤ n) (hn : n < 2 ^ 31) (rb : RingBuffer)
    (h : (ringBufferMethods n).Reachable rb) (hne : rb.dataLength ≠ 0) :
    (UsablePrefix n rb ∧ Drains rb) ↔ ¬ rb.EndsAtFront := by
  obtain ⟨q, hrep⟩ := represents_of_reachable htwo hn h
  have hstart := hrep.start_lt
  have hcases := hrep.end_cases
  have hdata := hrep.dataLength_eq hn
  rw [hdata] at hne
  constructor
  · rintro ⟨⟨buffer, size, hcall, hone, hle, hin, -, hall, hpart⟩, -⟩ hfront
    obtain ⟨size', hcall', hwrong⟩ := getContinuousData_front hrep hn hfront
    obtain ⟨rfl, rfl⟩ : rb.m_startOffset = buffer ∧ size' = size := by
      simpa using hcall'.symm.trans hcall
    rw [hdata] at hall hpart
    unfold EndsAtFront at hfront
    omega
  · intro hfront
    unfold EndsAtFront at hfront
    by_cases hround : rb.m_endOffset < rb.m_startOffset
    · exact usable_of_round hrep hn hround (by omega)
    · exact usable_of_whole hrep hn (by omega) (by omega)

theorem getContinuousData_iff_abc :
    (UsablePrefix 10 abcBuffer ∧ Drains abcBuffer) ↔ ¬ abcBuffer.EndsAtFront :=
  getContinuousData_iff 10 (by decide) (by decide) abcBuffer abcBuffer_reachable (by decide)

/-- Eight bytes come in and seven go out, then two come in and two go out: the byte that is left is the last
one of the block. -/
def lastByteMethods : List Method :=
  [.writeData [1, 2, 3, 4, 5, 6, 7, 8], .increaseUsedSpace 8, .decreaseUsedSpace 7, .writeData [9, 10],
    .increaseUsedSpace 2, .decreaseUsedSpace 2]

def lastByteBuffer : RingBuffer where
  m_buffer := [1, 2, 3, 4, 5, 6, 7, 8, 9, 10]
  m_size := 10
  m_startOffset := 9

/-- The length that is reported for the last byte of the block has wrapped. -/
theorem getContinuousData_wraps :
    (ringBufferMethods 10).Reachable lastByteBuffer ∧ lastByteBuffer.dataLength = 1 ∧
      lastByteBuffer.getContinuousData = (0, some (9, 2 ^ 64 - 1)) ∧
      ¬ UsablePrefix 10 lastByteBuffer := by
  have hrun : (ringBufferMethods 10).run (.new 10) lastByteMethods = some lastByteBuffer := by decide
  refine ⟨.of_run (.init rfl) hrun, by decide, by decide, ?_⟩
  rintro ⟨buffer, size, hcall, -, -, hin, -⟩
  have hreport : (9, 2 ^ 64 - 1) = (buffer, size) := Option.some.inj (congrArg Prod.snd hcall)
  cases hreport
  omega

end Continuous

end DistributedNetwork.Buffer
