import Mathlib.Data.List.Basic
import DistributedNetwork.Decoding.Workers

/-!
# Every chunk is stored once

`InOrder` says that the chunks of a session are stored in the order of their arrival.  While no task of
the session is given up and every chunk finds room, none is left out either: the stored chunks are the
first ones that arrived, and every later one waits in the queue or with a worker.

* `Waiting` — a task of the session that is queued, or dequeued and not stored;
* `Stores` — the first `k` chunks are stored and the others wait;
* `Stores.locked_next` — the worker that holds the lock has chunk `k`;
* `Stores.receive`, `Stores.frame`, `Stores.run` — the steps.
-/

namespace DistributedNetwork.Delivery

open DistributedNetwork.Buffer DistributedNetwork.Library DistributedNetwork.Decoding

variable {n : ℕ}

/-- A task of the session that is queued, or taken out of the queue and not yet stored. -/
def Waiting (s : Pool n) (sessionId : ℕ) (t : Task) : Prop :=
  t.sessionId = sessionId ∧ (t ∈ s.m_tasks ∨ ∃ w, (s.workers w).pending = some t)

/-- Of the session's `chunks` the first `k` are stored, in order, and the others wait. -/
structure Stores (s : Pool n) (sessionId : ℕ) (chunks : List (List Byte)) (k : ℕ) : Prop where
  arrivals : s.arrivals sessionId = chunks.length
  chunk : ∀ t, Waiting s sessionId t → chunks[t.arrival]? = some t.chunk
  written : s.written sessionId = List.range k
  le_length : k ≤ chunks.length
  waiting : ∀ i, k ≤ i → i < chunks.length → ∃ t, Waiting s sessionId t ∧ t.arrival = i

section Pending

variable {s : Pool n} {w : Fin n} {t : Task}

theorem pending_iff (s : Pool n) (w : Fin n) (t : Task) : (∃ w', (s.workers w').pending = some t) ↔
    (s.workers w).pending = some t ∨ ∃ w', w' ≠ w ∧ (s.workers w').pending = some t := by
  constructor
  · intro h
    obtain ⟨w', hw'⟩ := h
    by_cases heq : w' = w
    · exact .inl (heq ▸ hw')
    · exact .inr ⟨w', heq, hw'⟩
  · intro h
    cases h with
    | inl hw => exact ⟨w, hw⟩
    | inr hother =>
      obtain ⟨w', -, hw'⟩ := hother
      exact ⟨w', hw'⟩

theorem setWorker_pending_iff (s : Pool n) (w : Fin n) (worker : Worker) (t : Task) :
    (∃ w', ((s.setWorker w worker).workers w').pending = some t) ↔
      worker.pending = some t ∨ ∃ w', w' ≠ w ∧ (s.workers w').pending = some t := by
  have hself : (s.setWorker w worker).workers w = worker := Function.update_self ..
  have hother (w' : Fin n) (hw' : w' ≠ w) : (s.setWorker w worker).workers w' = s.workers w' :=
    Function.update_of_ne hw' ..
  rw [pending_iff _ w, hself]
  refine or_congr_right (exists_congr fun w' => and_congr_right fun hw' => ?_)
  rw [hother w' hw']

end Pending

/-! ### Steps -/

section Steps

variable {s s' : Pool n} {sessionId k : ℕ} {chunks : List (List Byte)} {w : Fin n} {task : Task}

theorem Stores.init (sessions : ℕ → P2PSession) :
    Stores (⟨[], fun _ => .idle, sessions, fun _ => 0, fun _ => []⟩ : Pool n) sessionId [] 0 where
  arrivals := rfl
  chunk t ht := by
    obtain ⟨-, hqueued | ⟨w, hw⟩⟩ := ht
    · cases hqueued
    · cases hw
  written := rfl
  le_length := Nat.le_refl 0
  waiting i _ hi := absurd hi (Nat.not_lt_zero i)

/-- Steps after which the same tasks wait. -/
theorem Stores.frame (h : Stores s sessionId chunks k)
    (harrivals : s'.arrivals sessionId = s.arrivals sessionId)
    (hwritten : s'.written sessionId = s.written sessionId)
    (hwaiting : ∀ t, Waiting s' sessionId t ↔ Waiting s sessionId t) :
    Stores s' sessionId chunks k where
  arrivals := harrivals.trans h.arrivals
  chunk t ht := h.chunk t ((hwaiting t).mp ht)
  written := hwritten.trans h.written
  le_length := h.le_length
  waiting i hk hi := by
    obtain ⟨t, ht, harrival⟩ := h.waiting i hk hi
    exact ⟨t, (hwaiting t).mpr ht, harrival⟩

/-- A chunk of another session. -/
theorem Stores.receive_other (h : Stores s sessionId chunks k) {id : ℕ} (hid : id ≠ sessionId)
    (chunk : List Byte) : Stores { s with
      m_tasks := s.m_tasks ++ [⟨id, s.arrivals id, chunk⟩]
      arrivals := Function.update s.arrivals id (s.arrivals id + 1) } sessionId chunks k := by
  refine h.frame (Function.update_of_ne (Ne.symm hid) ..) rfl fun t => and_congr_right fun hown => ?_
  refine or_congr_left ?_
  rw [List.mem_append, List.mem_singleton]
  refine or_iff_left fun ht => hid ?_
  rw [ht] at hown
  exact hown

/-- A new chunk of the session waits behind the others. -/
theorem Stores.receive (h : Stores s sessionId chunks k) (chunk : List Byte) :
    Stores { s with
      m_tasks := s.m_tasks ++ [⟨sessionId, s.arrivals sessionId, chunk⟩]
      arrivals := Function.update s.arrivals sessionId (s.arrivals sessionId + 1) } sessionId
      (chunks ++ [chunk]) k := by
  have hlength : (chunks ++ [chunk]).length = chunks.length + 1 := List.length_append
  refine ⟨?_, ?_, h.written, ?_, ?_⟩
  · show Function.update s.arrivals sessionId _ sessionId = _
    rw [Function.update_self, h.arrivals, hlength]
  · intro t ht
    obtain ⟨hown, hqueued | hpending⟩ := ht
    · cases List.mem_append.mp hqueued with
      | inl hold =>
        have hget := h.chunk t ⟨hown, .inl hold⟩
        rw [List.getElem?_append_left (List.getElem?_eq_some_iff.mp hget).1]
        exact hget
      | inr hnew =>
        rw [List.mem_singleton.mp hnew, h.arrivals]
        exact List.getElem?_concat_length
    · have hget := h.chunk t ⟨hown, .inr hpending⟩
      rw [List.getElem?_append_left (List.getElem?_eq_some_iff.mp hget).1]
      exact hget
  · rw [hlength]
    exact Nat.le_succ_of_le h.le_length
  · intro i hk hi
    rw [hlength] at hi
    cases Nat.lt_succ_iff_lt_or_eq.mp hi with
    | inl hold =>
      obtain ⟨t, ⟨hown, hplace⟩, harrival⟩ := h.waiting i hk hold
      exact ⟨t, ⟨hown, hplace.imp_left (List.mem_append_left _)⟩, harrival⟩
    | inr hnew =>
      refine ⟨⟨sessionId, s.arrivals sessionId, chunk⟩, ⟨rfl, .inl ?_⟩, ?_⟩
      · exact List.mem_append_right _ (List.mem_singleton_self _)
      · show s.arrivals sessionId = i
        rw [h.arrivals, hnew]

theorem waiting_dequeue {tasks : List Task} (hidle : s.workers w = .idle)
    (htasks : s.m_tasks = task :: tasks) (t : Task) :
    Waiting { s.setWorker w (.dequeued task) with m_tasks := tasks } sessionId t ↔
      Waiting s sessionId t := by
  refine and_congr_right fun _ => ?_
  have hold := pending_iff s w t
  have hnew := setWorker_pending_iff s w (.dequeued task) t
  rw [hidle] at hold
  show (t ∈ tasks ∨ ∃ w', ((s.setWorker w (.dequeued task)).workers w').pending = some t) ↔ _
  rw [hold, hnew, htasks, List.mem_cons]
  simp only [Worker.pending, Option.some.injEq, reduceCtorEq, false_or]
  rw [eq_comm, or_left_comm, or_assoc]

/-- A worker that neither takes nor stores a task of the session. -/
theorem waiting_setWorker {worker : Worker}
    (hsame : ∀ t, t.sessionId = sessionId →
      (worker.pending = some t ↔ (s.workers w).pending = some t)) (t : Task) :
    Waiting (s.setWorker w worker) sessionId t ↔ Waiting s sessionId t := by
  refine and_congr_right fun hown => or_congr_right ?_
  rw [setWorker_pending_iff, pending_iff s w, hsame t hown]

/-- **The worker that holds the lock has the next chunk.** -/
theorem Stores.locked_next (h : Stores s sessionId chunks k) (horder : InOrder s sessionId)
    (hlocked : s.workers w = .locked task) (hown : task.sessionId = sessionId) :
    task.arrival = k ∧ chunks[k]? = some task.chunk := by
  have hpending : (s.workers w).pending = some task := by
    rw [hlocked]
    rfl
  have hget := h.chunk task ⟨hown, .inr ⟨w, hpending⟩⟩
  have hlt := (List.getElem?_eq_some_iff.mp hget).1
  have hge : k ≤ task.arrival := by
    by_contra hlt
    have hmem : task.arrival ∈ s.written sessionId := by
      rw [h.written, List.mem_range]
      exact Nat.not_le.mp hlt
    exact absurd ((horder.written_before _ hmem).2 w task hpending hown) (Nat.lt_irrefl _)
  have heq : task.arrival = k := by
    obtain ⟨t, ⟨htOwn, hplace⟩, harrival⟩ := h.waiting k (Nat.le_refl k) (Nat.lt_of_le_of_lt hge hlt)
    cases hplace with
    | inl hqueued =>
      have hbefore := (horder.pending_before w task hpending hown).2 t hqueued htOwn
      omega
    | inr hworker =>
      obtain ⟨w', hw'⟩ := hworker
      by_cases hsame : w' = w
      · subst hsame
        rw [hpending] at hw'
        cases hw'
        exact harrival
      · have hbefore := horder.locked_before hlocked hown hsame hw' htOwn
        omega
  exact ⟨heq, heq ▸ hget⟩

/-- **Storing the next chunk.** -/
theorem Stores.run (h : Stores s sessionId chunks k) (horder : InOrder s sessionId)
    (hlocked : s.workers w = .locked task) (hown : task.sessionId = sessionId)
    (sessions : ℕ → P2PSession) : Stores { s.setWorker w (.written task) with
      sessions := sessions
      written := Function.update s.written sessionId (s.written sessionId ++ [task.arrival]) }
      sessionId chunks (k + 1) := by
  obtain ⟨hnext, hget⟩ := h.locked_next horder hlocked hown
  have hpending : (s.workers w).pending = some task := by
    rw [hlocked]
    rfl
  have hbefore (t : Task) (ht : (∃ w', ((s.setWorker w (.written task)).workers w').pending = some t) ) :
      ∃ w', w' ≠ w ∧ (s.workers w').pending = some t := by
    cases (setWorker_pending_iff s w (.written task) t).mp ht with
    | inl hself => cases hself
    | inr hother => exact hother
  refine ⟨h.arrivals, ?_, ?_, (List.getElem?_eq_some_iff.mp hget).1, ?_⟩
  · intro t ht
    refine h.chunk t ⟨ht.1, ht.2.imp_right fun hworker => ?_⟩
    obtain ⟨w', -, hw'⟩ := hbefore t hworker
    exact ⟨w', hw'⟩
  · show Function.update s.written sessionId _ sessionId = _
    rw [Function.update_self, h.written, hnext, List.range_succ]
  · intro i hk hi
    obtain ⟨t, ⟨htOwn, hplace⟩, harrival⟩ := h.waiting i (Nat.le_of_succ_le hk) hi
    refine ⟨t, ⟨htOwn, hplace.imp_right fun hworker => ?_⟩, harrival⟩
    refine (setWorker_pending_iff s w (.written task) t).mpr (.inr ?_)
    obtain ⟨w', hw'⟩ := hworker
    refine ⟨w', fun hsame => ?_, hw'⟩
    rw [hsame, hpending] at hw'
    cases hw'
    omega

end Steps

end DistributedNetwork.Delivery
