import Mathlib.Data.Finset.Card
import Mathlib.Data.List.Nodup
import DistributedNetwork.Library.TransitionSystem

/-!
# A counter that is read first and incremented later

Threads draw tickets from one counter.  A thread takes the value of the counter as its ticket and increments
the counter in a second step, whatever value it has then.

* `TicketCounter.step` — the two steps of a thread;
* `Alone` — a ticket is drawn while no other thread is between its two steps;
* `tickets_nodup_iff` — the tickets of a run differ **exactly** when every draw was alone, and then they are
  `0, 1, 2, …` (`tickets_eq_range`);
* `pairwise_issued` — the tickets of one thread increase in every run, and `ticket_lt` bounds them all.
-/

namespace DistributedNetwork.Library

universe u

/-- The counter, the threads that still have to increment it, and the tickets so far. -/
structure TicketCounter (T : Type u) where
  next : ℕ
  drawing : Finset T
  issued : List (T × ℕ)

inductive TicketEvent (T : Type u) where
  | draw (thread : T)
  | advance (thread : T)

namespace TicketCounter

variable {T : Type u} [DecidableEq T]

def new : TicketCounter T where
  next := 0
  drawing := ∅
  issued := []

def step (c : TicketCounter T) : TicketEvent T → Option (TicketCounter T)
  | .draw thread =>
    if thread ∈ c.drawing then none
    else some { c with
      drawing := insert thread c.drawing
      issued := c.issued ++ [(thread, c.next)] }
  | .advance thread =>
    if thread ∈ c.drawing then
      some { c with
        next := c.next + 1
        drawing := c.drawing.erase thread }
    else none

/-- The system of the threads. -/
def system : TransitionSystem (TicketCounter T) (TicketEvent T) where
  init c := c = new
  step := step

omit [DecidableEq T] in
/-- The tickets, in the order of the draws. -/
def tickets (c : TicketCounter T) : List ℕ :=
  c.issued.map Prod.snd

omit [DecidableEq T] in
/-- No thread is between its two steps. -/
def Alone (c : TicketCounter T) : TicketEvent T → Prop
  | .draw _ => c.drawing = ∅
  | .advance _ => True

variable {c c' : TicketCounter T} {events : List (TicketEvent T)}

/-! ### Every run -/

/-- Draws and increments are counted, and a thread that has incremented is past its tickets. -/
structure Counted (c : TicketCounter T) : Prop where
  count : c.next + c.drawing.card = c.issued.length
  bound : ∀ x ∈ c.issued, x.2 < c.issued.length
  le_next : ∀ x ∈ c.issued, x.2 ≤ c.next
  lt_next : ∀ x ∈ c.issued, x.1 ∉ c.drawing → x.2 < c.next
  increasing : c.issued.Pairwise fun x y => x.1 = y.1 → x.2 < y.2

omit [DecidableEq T] in
theorem Counted.new : Counted (TicketCounter.new (T := T)) :=
  ⟨rfl, nofun, nofun, nofun, .nil⟩

theorem Counted.draw (h : Counted c) {thread : T} (hfree : thread ∉ c.drawing) :
    Counted { c with
      drawing := insert thread c.drawing
      issued := c.issued ++ [(thread, c.next)] } := by
  have hcount := h.count
  have hlength : (c.issued ++ [(thread, c.next)]).length = c.issued.length + 1 := List.length_append
  refine ⟨?_, ?_, ?_, ?_, ?_⟩
  · rw [Finset.card_insert_of_notMem hfree, hlength]
    show c.next + (c.drawing.card + 1) = c.issued.length + 1
    omega
  · intro x hx
    rw [hlength]
    rcases List.mem_append.mp hx with hold | hnew
    · exact Nat.lt_succ_of_lt (h.bound x hold)
    · rw [List.mem_singleton.mp hnew]
      show c.next < _
      omega
  · intro x hx
    rcases List.mem_append.mp hx with hold | hnew
    · exact h.le_next x hold
    · rw [List.mem_singleton.mp hnew]
  · intro x hx hout
    rw [Finset.mem_insert, not_or] at hout
    rcases List.mem_append.mp hx with hold | hnew
    · exact h.lt_next x hold hout.2
    · rw [List.mem_singleton.mp hnew] at hout
      exact absurd rfl hout.1
  · refine List.pairwise_append.mpr ⟨h.increasing, List.pairwise_singleton _ _, ?_⟩
    intro x hx y hy hsame
    rw [List.mem_singleton.mp hy] at hsame ⊢
    exact h.lt_next x hx (by rw [hsame]; exact hfree)

theorem Counted.advance (h : Counted c) {thread : T} (hdrawing : thread ∈ c.drawing) :
    Counted { c with
      next := c.next + 1
      drawing := c.drawing.erase thread } := by
  have hcount := h.count
  have hpos := Finset.card_pos.mpr ⟨thread, hdrawing⟩
  refine ⟨?_, h.bound, ?_, ?_, h.increasing⟩
  · rw [Finset.card_erase_of_mem hdrawing]
    show c.next + 1 + (c.drawing.card - 1) = c.issued.length
    omega
  · intro x hx
    exact Nat.le_succ_of_le (h.le_next x hx)
  · intro x hx _
    exact Nat.lt_succ_of_le (h.le_next x hx)

/-- **Step lemma.** -/
theorem Counted.step (h : Counted c) {event : TicketEvent T} (hstep : c.step event = some c') :
    Counted c' := by
  cases event with
  | draw thread =>
    obtain ⟨hfree, hnext⟩ := Option.ite_none_left_eq_some.mp hstep
    cases hnext
    exact h.draw hfree
  | advance thread =>
    obtain ⟨hdrawing, hnext⟩ := Option.ite_none_right_eq_some.mp hstep
    cases hnext
    exact h.advance hdrawing

theorem counted_of_reachable (h : system.Reachable c) : Counted c := by
  refine h.invariant ?_ fun _ _ _ hc _ hstep => hc.step hstep
  intro c hc
  cases hc
  exact .new

/-- The tickets of one thread increase. -/
theorem pairwise_issued (h : system.Reachable c) :
    c.issued.Pairwise fun x y => x.1 = y.1 → x.2 < y.2 :=
  (counted_of_reachable h).increasing

/-- A ticket is less than the number of tickets. -/
theorem ticket_lt (h : system.Reachable c) {x : T × ℕ} (hx : x ∈ c.issued) : x.2 < c.issued.length :=
  (counted_of_reachable h).bound x hx

/-! ### Draws that are alone -/

/-- The tickets are those of a counter that is read and incremented in one step. -/
structure Orderly (c : TicketCounter T) : Prop where
  tickets : c.tickets = List.range c.issued.length
  card : c.drawing.card ≤ 1

omit [DecidableEq T] in
theorem tickets_append (c : TicketCounter T) (drawing : Finset T) (thread : T) :
    tickets { c with
      drawing := drawing
      issued := c.issued ++ [(thread, c.next)] } = c.tickets ++ [c.next] := by
  simp [tickets]

theorem Orderly.draw (h : Orderly c) (hcounted : Counted c) (halone : c.drawing = ∅) {thread : T} :
    Orderly { c with
      drawing := insert thread c.drawing
      issued := c.issued ++ [(thread, c.next)] } := by
  have hnext : c.next = c.issued.length := by
    have hcount := hcounted.count
    rw [halone, Finset.card_empty] at hcount
    omega
  constructor
  · rw [tickets_append, h.tickets, hnext, List.length_append, List.length_singleton, List.range_succ]
  · rw [halone]
    exact (Finset.card_insert_le _ _).trans (by simp)

omit [DecidableEq T] in
/-- The second of two draws takes the ticket of the first. -/
theorem Orderly.draw_collides (h : Orderly c) (hcounted : Counted c) (hbusy : c.drawing ≠ ∅) :
    c.next ∈ c.tickets := by
  have hcount := hcounted.count
  have hcard := h.card
  have hpos := Finset.card_pos.mpr (Finset.nonempty_iff_ne_empty.mpr hbusy)
  rw [h.tickets, List.mem_range]
  omega

/-- What the run so far says of its tickets. -/
theorem alone_or_collides (h : system.run new events = some c) :
    system.Along Alone new events ∧ Orderly c ∨
      ¬system.Along Alone new events ∧ ¬c.tickets.Nodup := by
  refine TransitionSystem.run_history (S := system)
    (P := fun events c => system.Along Alone new events ∧ Orderly c ∨
      ¬system.Along Alone new events ∧ ¬c.tickets.Nodup) ?_ ?_ h
  · left
    refine ⟨?_, rfl, Nat.zero_le 1⟩
    intro before a after _ _ hnil
    cases before <;> cases hnil
  · intro events c event c' hbefore hrun hstep
    have hcounted := counted_of_reachable (.of_run (.init rfl) hrun)
    rw [TransitionSystem.along_concat hrun hstep]
    cases event with
    | draw thread =>
      obtain ⟨hfree, hnext⟩ := Option.ite_none_left_eq_some.mp hstep
      cases hnext
      rw [tickets_append, List.nodup_append]
      rcases hbefore with ⟨halong, horderly⟩ | ⟨halong, hcollides⟩
      · by_cases halone : c.drawing = ∅
        · exact .inl ⟨⟨halong, halone⟩, horderly.draw hcounted halone⟩
        · right
          refine ⟨fun hall => halone hall.2, fun hnodup => ?_⟩
          exact hnodup.2.2 _ (horderly.draw_collides hcounted halone) _ (List.mem_singleton_self _) rfl
      · exact .inr ⟨fun hall => halong hall.1, fun hnodup => hcollides hnodup.1⟩
    | advance thread =>
      obtain ⟨hdrawing, hnext⟩ := Option.ite_none_right_eq_some.mp hstep
      cases hnext
      rcases hbefore with ⟨halong, horderly⟩ | ⟨halong, hcollides⟩
      · left
        refine ⟨⟨halong, trivial⟩, horderly.tickets, ?_⟩
        exact (Finset.card_erase_le).trans horderly.card
      · exact .inr ⟨fun hall => halong hall.1, hcollides⟩

/-- **Tickets differ if and only if** every draw was alone. -/
theorem tickets_nodup_iff (h : system.run new events = some c) :
    c.tickets.Nodup ↔ system.Along Alone new events := by
  rcases alone_or_collides h with ⟨halong, horderly⟩ | ⟨halong, hcollides⟩
  · rw [horderly.tickets]
    exact ⟨fun _ => halong, fun _ => List.nodup_range⟩
  · exact ⟨fun hnodup => absurd hnodup hcollides, fun hall => absurd hall halong⟩

/-- Drawn alone, the tickets are the numbers from zero on. -/
theorem tickets_eq_range (h : system.run new events = some c) (halong : system.Along Alone new events) :
    c.tickets = List.range c.issued.length := by
  rcases alone_or_collides h with ⟨-, horderly⟩ | ⟨hnot, -⟩
  · exact horderly.tickets
  · exact absurd halong hnot

end TicketCounter

end DistributedNetwork.Library
