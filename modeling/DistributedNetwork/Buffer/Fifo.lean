import DistributedNetwork.Buffer.Layout
import DistributedNetwork.Library.TransitionSystem

/-!
# The ring buffer refines a bounded FIFO

`Fifo capacity` is what the ring buffer is for: a queue of bytes that carries the bound on its length.
Both the queue and the ring buffer are systems over the same calls, each call labelled with the code
it returned, so a run of the one can be compared with a run of the other.

* `Fifo.answer` — which code a bounded queue may give to a call, and the queue afterwards;
* `RingBuffer.perform` — the call as its callers make it;
* `Agrees` — everything a caller can observe of a buffer whose queue is `q`;
* `ringBuffer_refines_fifo` — every run of the buffer is a run of the queue.
-/

namespace DistributedNetwork.Buffer

open DistributedNetwork.Library

/-- The calls of the ring buffer, in the combinations in which callers make them. -/
inductive Operation where
  /-- `writeData`, followed on success by `increaseUsedSpace` -/
  | writeData (data : List Byte)
  /-- `getBufferAndLengthForWrite`, a copy to the returned pointer, and `increaseUsedSpace` -/
  | fillWindow (data : List Byte)
  | decreaseUsedSpace (size : ℕ)
  | clear
  | getBufferForRead (size : ℕ)
  deriving DecidableEq

/-- A queue of at most `capacity` bytes. -/
structure Fifo (capacity : ℕ) where
  bytes : List Byte
  fits : bytes.length ≤ capacity

namespace Fifo

variable {capacity : ℕ}

def empty : Fifo capacity where
  bytes := []
  fits := Nat.zero_le _

/-- Append at the back, if there is room for all of it. -/
def push (q : Fifo capacity) (data : List Byte) : Option (Fifo capacity) :=
  if h : q.bytes.length + data.length ≤ capacity then
    some ⟨q.bytes ++ data, by rw [List.length_append]; exact h⟩
  else none

/-- Drop the front, if there is that much. -/
def pop (q : Fifo capacity) (size : ℕ) : Option (Fifo capacity) :=
  if size ≤ q.bytes.length then
    some ⟨q.bytes.drop size, by rw [List.length_drop]; exact Nat.le_trans (Nat.sub_le _ _) q.fits⟩
  else none

/-- The queue after a call that was answered with `code`; `none` where a bounded queue gives another
answer.  A read that does not find its bytes in one piece may answer `-2`. -/
def answer (q : Fifo capacity) (call : Operation) (code : ℤ) : Option (Fifo capacity) :=
  match call with
  | .writeData data =>
    if q.bytes.length + data.length ≤ capacity then if code = 0 then q.push data else none
    else if code = -1 then some q else none
  | .fillWindow data =>
    if q.bytes.length < capacity then if code = 0 then q.push data else none
    else if code = -1 then some q else none
  | .decreaseUsedSpace size =>
    if size ≤ q.bytes.length then if code = 0 then q.pop size else none
    else if code = -1 then some q else none
  | .clear => if code = 0 then some empty else none
  | .getBufferForRead size =>
    if size ≤ q.bytes.length then if code = 0 ∨ code = -2 then some q else none
    else if code = -1 then some q else none

theorem push_eq_some {q : Fifo capacity} {data : List Byte}
    (h : q.bytes.length + data.length ≤ capacity) :
    ∃ q', q.push data = some q' ∧ q'.bytes = q.bytes ++ data :=
  ⟨_, dif_pos h, rfl⟩

theorem pop_eq_some {q : Fifo capacity} {size : ℕ} (h : size ≤ q.bytes.length) :
    ∃ q', q.pop size = some q' ∧ q'.bytes = q.bytes.drop size :=
  ⟨_, if_pos h, rfl⟩

end Fifo

/-- The bounded queue as a system over calls and their codes. -/
def fifo (capacity : ℕ) : TransitionSystem (Fifo capacity) (Operation × ℤ) where
  init q := q = .empty
  step q call := q.answer call.1 call.2

namespace RingBuffer

/-- A call as its callers make it; only a copy beyond the returned window is not possible. -/
def perform (rb : RingBuffer) : Operation → Option (ℤ × RingBuffer)
  | .writeData data =>
    let written := rb.writeData data
    if written.1 < 0 then some written else some (written.2.increaseUsedSpace data.length)
  | .fillWindow data =>
    match rb.getBufferAndLengthForWrite with
    | (_, some (buffer, length)) =>
      if data.length ≤ length then
        some ({ rb with m_buffer := overwrite rb.m_buffer buffer data }.increaseUsedSpace data.length)
      else none
    | (code, none) => some (code, rb)
  | .decreaseUsedSpace size => some (rb.decreaseUsedSpace size)
  | .clear => some (0, rb.clear)
  | .getBufferForRead size => some ((rb.getBufferForRead size).1, rb)

/-- What callers observe of a buffer whose queue is `q`. -/
structure Agrees (n : ℕ) (rb : RingBuffer) (q : List Byte) : Prop where
  contents : rb.contents = q
  dataLength : rb.dataLength = q.length
  space : rb.space = n - 2 - q.length
  writeData : ∀ data, (rb.writeData data).1 = if rb.space < data.length then -1 else 0
  decreaseUsedSpace : ∀ k, (rb.decreaseUsedSpace k).1 = if q.length < k then -1 else 0
  getBufferForRead : ∀ k p, rb.getBufferForRead k = (0, some p) →
    p + k ≤ n ∧ k ≤ q.length ∧ slice rb.m_buffer p k = q.take k
  window : ∀ p len, rb.getBufferAndLengthForWrite = (0, some (p, len)) →
    p + len ≤ n ∧ ∀ i < q.length, (rb.m_startOffset + i) % n < p ∨
      p + len ≤ (rb.m_startOffset + i) % n
  refused : ∀ call code rb', rb.perform call = some (code, rb') → code < 0 → rb' = rb

end RingBuffer

/-- The ring buffer of `n` bytes as a system over calls and their codes. -/
def ringBuffer (n : ℕ) : TransitionSystem RingBuffer (Operation × ℤ) where
  init rb := rb = .new n
  step rb call := (rb.perform call.1).bind fun result =>
    if result.1 = call.2 then some result.2 else none

/-! ### One call -/

section Perform

open RingBuffer

variable {n : ℕ} {rb rb' : RingBuffer} {q : List Byte} {code : ℤ}
variable (h : rb.Represents n q) (hn : n < 2 ^ 31)

include h hn

theorem perform_writeData (data : List Byte) :
    (q.length + data.length ≤ n - 2 ∧
      ∃ rb', rb.perform (.writeData data) = some (0, rb') ∧ rb'.Represents n (q ++ data)) ∨
    (n - 2 < q.length + data.length ∧ rb.perform (.writeData data) = some (-1, rb)) := by
  have hfits : q.length + 2 ≤ n := h.fits
  rcases Nat.lt_or_ge (n - 2) (q.length + data.length) with hd | hd
  · have hreject := h.writeData_reject hn (d := data) (by omega)
    refine .inr ⟨hd, ?_⟩
    simp only [perform, hreject]
    rfl
  · obtain ⟨mem, hwrite, hmem, hholds⟩ := h.writeData_accept hn hd
    obtain ⟨rb', hincrease, hrep⟩ := h.increaseUsedSpace_spec hn hmem hd hholds
    refine .inl ⟨hd, rb', ?_, hrep⟩
    simp only [perform, hwrite, hincrease]
    rfl

theorem perform_fillWindow {data : List Byte} {result : ℤ × RingBuffer}
    (hresult : rb.perform (.fillWindow data) = some result) :
    (q.length < n - 2 ∧ q.length + data.length ≤ n - 2 ∧ result.1 = 0 ∧
      result.2.Represents n (q ++ data)) ∨
    (n - 2 ≤ q.length ∧ result = (-1, rb)) := by
  have hfits : q.length + 2 ≤ n := h.fits
  rcases Nat.lt_or_ge q.length (n - 2) with hroom | hfull
  · obtain ⟨len, hwindow, _, hin, hspace, _⟩ := h.getBufferAndLengthForWrite_spec hn hroom
    simp only [perform, hwindow] at hresult
    by_cases hlen : data.length ≤ len
    · rw [if_pos hlen, Option.some.injEq] at hresult
      have hblock := h.length_eq
      have hstart := h.start_lt
      have hd : q.length + data.length ≤ n - 2 := by omega
      have hholds : Holds (overwrite rb.m_buffer rb.m_endOffset data) rb.m_startOffset (q ++ data) :=
        h.holds.append (by omega) (by rw [hblock]; exact h.end_eq) (by omega) (by omega)
      obtain ⟨rb', hincrease, hrep⟩ := h.increaseUsedSpace_spec hn
        ((length_overwrite (by omega)).trans hblock) hd hholds
      rw [hincrease] at hresult
      subst hresult
      exact .inl ⟨hroom, hd, rfl, hrep⟩
    · rw [if_neg hlen] at hresult
      cases hresult
  · have hwindow := h.getBufferAndLengthForWrite_full hn (by omega)
    simp only [perform, hwindow, Option.some.injEq] at hresult
    exact .inr ⟨hfull, hresult.symm⟩

theorem perform_decreaseUsedSpace (k : ℕ) :
    (k ≤ q.length ∧ ∃ rb', rb.perform (.decreaseUsedSpace k) = some (0, rb') ∧
      rb'.Represents n (q.drop k)) ∨
    (q.length < k ∧ rb.perform (.decreaseUsedSpace k) = some (-1, rb)) := by
  rcases Nat.lt_or_ge q.length k with hk | hk
  · exact .inr ⟨hk, congrArg some (h.decreaseUsedSpace_reject hn hk)⟩
  · obtain ⟨rb', hdecrease, hrep⟩ := h.decreaseUsedSpace_spec hn hk
    exact .inl ⟨hk, rb', congrArg some hdecrease, hrep⟩

omit hn in
theorem clear_represents : rb.clear.Represents n [] := by
  have hfits : q.length + 2 ≤ n := h.fits
  refine ⟨h.size_eq, h.length_eq, ?_, (Nat.zero_mod n).symm, ?_, fun _ => rfl, .nil⟩
  · show 0 < n
    omega
  · rw [List.length_nil, c_reservedSpace]
    omega

theorem getBufferForRead_code (k : ℕ) :
    (k ≤ q.length ∧ ((rb.getBufferForRead k).1 = 0 ∨ (rb.getBufferForRead k).1 = -2)) ∨
      (q.length < k ∧ (rb.getBufferForRead k).1 = -1) := by
  rw [h.getBufferForRead_eq hn]
  rcases Nat.lt_or_ge q.length k with hk | hk
  · rw [if_pos hk]
    exact .inr ⟨hk, rfl⟩
  · rw [if_neg (by omega)]
    by_cases hin : rb.m_startOffset + k ≤ n
    · rw [if_pos hin]
      exact .inl ⟨hk, .inl rfl⟩
    · rw [if_neg hin]
      exact .inl ⟨hk, .inr rfl⟩

/-- **Step lemma.**  Whatever the buffer does, a bounded queue may do, with the same code. -/
theorem perform_refines {call : Operation} {fifo : Fifo (n - 2)} (hq : fifo.bytes = q)
    (hperform : rb.perform call = some (code, rb')) :
    ∃ fifo', fifo.answer call code = some fifo' ∧ rb'.Represents n fifo'.bytes := by
  subst hq
  cases call with
  | writeData data =>
    rcases perform_writeData h hn data with ⟨hd, rb₁, heq, hrep⟩ | ⟨hd, heq⟩
    · rw [heq, Option.some.injEq, Prod.mk.injEq] at hperform
      obtain ⟨rfl, rfl⟩ := hperform
      obtain ⟨q', hpush, hbytes⟩ := Fifo.push_eq_some hd
      refine ⟨q', ?_, hbytes ▸ hrep⟩
      rw [Fifo.answer, if_pos hd, if_pos rfl, hpush]
    · rw [heq, Option.some.injEq, Prod.mk.injEq] at hperform
      obtain ⟨rfl, rfl⟩ := hperform
      refine ⟨fifo, ?_, h⟩
      rw [Fifo.answer, if_neg (by omega), if_pos rfl]
  | fillWindow data =>
    rcases perform_fillWindow h hn hperform with ⟨hroom, hd, rfl, hrep⟩ | ⟨hfull, heq⟩
    · obtain ⟨q', hpush, hbytes⟩ := Fifo.push_eq_some hd
      refine ⟨q', ?_, hbytes ▸ hrep⟩
      rw [Fifo.answer, if_pos hroom, if_pos rfl, hpush]
    · rw [Prod.mk.injEq] at heq
      obtain ⟨rfl, rfl⟩ := heq
      refine ⟨fifo, ?_, h⟩
      rw [Fifo.answer, if_neg (by omega), if_pos rfl]
  | decreaseUsedSpace k =>
    rcases perform_decreaseUsedSpace h hn k with ⟨hk, rb₁, heq, hrep⟩ | ⟨hk, heq⟩
    · rw [heq, Option.some.injEq, Prod.mk.injEq] at hperform
      obtain ⟨rfl, rfl⟩ := hperform
      obtain ⟨q', hpop, hbytes⟩ := Fifo.pop_eq_some hk
      refine ⟨q', ?_, hbytes ▸ hrep⟩
      rw [Fifo.answer, if_pos hk, if_pos rfl, hpop]
    · rw [heq, Option.some.injEq, Prod.mk.injEq] at hperform
      obtain ⟨rfl, rfl⟩ := hperform
      refine ⟨fifo, ?_, h⟩
      rw [Fifo.answer, if_neg (by omega), if_pos rfl]
  | clear =>
    rw [perform, Option.some.injEq, Prod.mk.injEq] at hperform
    obtain ⟨rfl, rfl⟩ := hperform
    refine ⟨.empty, ?_, clear_represents h⟩
    rw [Fifo.answer, if_pos rfl]
  | getBufferForRead k =>
    rw [perform, Option.some.injEq, Prod.mk.injEq] at hperform
    obtain ⟨rfl, rfl⟩ := hperform
    refine ⟨fifo, ?_, h⟩
    rcases getBufferForRead_code h hn k with ⟨hk, hcode⟩ | ⟨hk, hcode⟩
    · rw [Fifo.answer, if_pos hk, if_pos hcode]
    · rw [Fifo.answer, if_neg (by omega), if_pos hcode]

/-- A call that is refused leaves the buffer as it was. -/
theorem perform_refused {call : Operation} (hperform : rb.perform call = some (code, rb'))
    (hcode : code < 0) : rb' = rb := by
  cases call with
  | writeData data =>
    rcases perform_writeData h hn data with ⟨_, rb₁, heq, _⟩ | ⟨_, heq⟩
    · rw [heq, Option.some.injEq, Prod.mk.injEq] at hperform
      omega
    · rw [heq, Option.some.injEq, Prod.mk.injEq] at hperform
      exact hperform.2.symm
  | fillWindow data =>
    rcases perform_fillWindow h hn hperform with ⟨_, _, hzero, _⟩ | ⟨_, heq⟩
    · exact absurd hzero (Int.ne_of_lt hcode)
    · exact congrArg Prod.snd heq
  | decreaseUsedSpace k =>
    rcases perform_decreaseUsedSpace h hn k with ⟨_, rb₁, heq, _⟩ | ⟨_, heq⟩
    · rw [heq, Option.some.injEq, Prod.mk.injEq] at hperform
      omega
    · rw [heq, Option.some.injEq, Prod.mk.injEq] at hperform
      exact hperform.2.symm
  | clear =>
    rw [perform, Option.some.injEq, Prod.mk.injEq] at hperform
    omega
  | getBufferForRead k =>
    rw [perform, Option.some.injEq, Prod.mk.injEq] at hperform
    exact hperform.2.symm

/-- The invariant is all a caller needs. -/
theorem agrees_of_represents : rb.Agrees n q := by
  have hfits : q.length + 2 ≤ n := h.fits
  refine ⟨h.contents_eq hn, h.dataLength_eq hn, h.space_eq hn, fun data => ?_, fun k => ?_, fun k p hread => ?_,
    fun p len hwindow => ?_, fun call code rb' => perform_refused h hn⟩
  · rw [h.space_eq hn]
    rcases Nat.lt_or_ge (n - 2 - q.length) data.length with hd | hd
    · rw [h.writeData_reject hn hd, if_pos hd]
    · obtain ⟨mem, hwrite, _⟩ := h.writeData_accept hn (d := data) (by omega)
      rw [hwrite, if_neg (by omega)]
  · rcases Nat.lt_or_ge q.length k with hk | hk
    · rw [h.decreaseUsedSpace_reject hn hk, if_pos hk]
    · obtain ⟨rb', hdecrease, _⟩ := h.decreaseUsedSpace_spec hn hk
      rw [hdecrease, if_neg (by omega)]
  · rw [h.getBufferForRead_eq hn] at hread
    by_cases hk : q.length < k
    · rw [if_pos hk] at hread
      cases hread
    · rw [if_neg hk] at hread
      by_cases hin : rb.m_startOffset + k ≤ n
      · rw [if_pos hin] at hread
        cases hread
        have hslice := h.slice_eq (p := 0) (k := k) (by omega) (by omega)
        exact ⟨hin, by omega, by simpa using hslice⟩
      · rw [if_neg hin] at hread
        cases hread
  · rcases Nat.lt_or_ge q.length (n - 2) with hroom | hfull
    · obtain ⟨len', heq, _, hin, _, hlive⟩ := h.getBufferAndLengthForWrite_spec hn hroom
      rw [heq] at hwindow
      cases hwindow
      exact ⟨hin, hlive⟩
    · rw [h.getBufferAndLengthForWrite_full hn (by omega)] at hwindow
      cases hwindow

end Perform

theorem ringBuffer_step {n : ℕ} {rb rb' : RingBuffer} {q : Fifo (n - 2)} {call : Operation × ℤ}
    (h : rb.Represents n q.bytes) (hn : n < 2 ^ 31)
    (hstep : (ringBuffer n).step rb call = some rb') :
    ∃ q', (fifo (n - 2)).step q call = some q' ∧ rb'.Represents n q'.bytes := by
  obtain ⟨result, hperform, hcode⟩ := Option.bind_eq_some_iff.mp hstep
  rw [Option.ite_none_right_eq_some, Option.some.injEq] at hcode
  obtain ⟨hcode, rfl⟩ := hcode
  refine perform_refines h hn rfl ?_
  rw [hperform, ← hcode]

/-- **The ring buffer refines a bounded FIFO.**  Every run of a buffer of `n` bytes is, call by call
and code by code, a run of a queue of capacity `n - 2`, and everything a caller observes of the
buffer afterwards is what that queue says. -/
theorem ringBuffer_refines_fifo (n : ℕ) (hn : 2 ≤ n) (hn' : n < 2 ^ 31)
    (calls : List (Operation × ℤ)) (rb : RingBuffer)
    (hrun : (ringBuffer n).run (.new n) calls = some rb) :
    ∃ q : Fifo (n - 2), (fifo (n - 2)).run .empty calls = some q ∧ rb.Agrees n q.bytes := by
  have hstart : RingBuffer.Represents n (.new n) (Fifo.empty : Fifo (n - 2)).bytes :=
    RingBuffer.Represents.new hn
  obtain ⟨q, hq, hrep⟩ := TransitionSystem.run_simulation (S := ringBuffer n)
    (A := fifo (n - 2)) (R := fun rb q => rb.Represents n q.bytes)
    (fun _ _ _ _ hR => ringBuffer_step hR hn') hstart hrun
  exact ⟨q, hq, agrees_of_represents hrep hn'⟩

/-- A buffer of six bytes takes four and gives back three of them. -/
theorem ringBuffer_refines_fifo_six : ∃ q : Fifo 4,
    (fifo 4).run .empty [(.writeData [1, 2, 3, 4], 0), (.writeData [5], -1),
      (.decreaseUsedSpace 3, 0)] = some q ∧
    RingBuffer.Agrees 6 ⟨[1, 2, 3, 4, 0, 0], 6, 3, 4⟩ q.bytes :=
  ringBuffer_refines_fifo 6 (by decide) (by decide)
    [(.writeData [1, 2, 3, 4], 0), (.writeData [5], -1), (.decreaseUsedSpace 3, 0)]
    ⟨[1, 2, 3, 4, 0, 0], 6, 3, 4⟩ (by decide)

end DistributedNetwork.Buffer
