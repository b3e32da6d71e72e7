import Mathlib.Data.Finset.Basic
import Mathlib.Data.Fintype.Basic
import Mathlib.Order.Basic
import DistributedNetwork.Decoding.Framing

/-!
# Several decode workers

The reactor pushes each received chunk as a task into one FIFO queue.  A worker takes a task out of
the queue and only then asks for the lock of the session's read buffer, so two workers with chunks of
the same session may take the lock in the other order.

* `Pool` — the queue, what each worker is doing, and the order in which chunks were stored;
* `EarliestFirst` — a worker that takes the lock holds the **earliest** chunk of its session among
  those the workers hold and have not stored;
* `written_ordered` — under that condition chunks are stored in the order of their arrival, for any
  number of workers; a single worker meets it by itself (`earliestFirst_single`);
* `written_unordered` — two workers that do not meet it store chunk `1` before chunk `0`.
-/

namespace DistributedNetwork.Decoding

open DistributedNetwork.Buffer DistributedNetwork.Library

/-- A chunk on its way to the read buffer; `arrival` counts the chunks of its session. -/
structure Task where
  sessionId : ℕ
  arrival : ℕ
  chunk : List Byte
  deriving DecidableEq

/-- Where a worker is in its loop. -/
inductive Worker where
  | idle
  | dequeued (task : Task)
  | locked (task : Task)
  | written (task : Task)
  deriving DecidableEq

namespace Worker

/-- The task a worker has taken out of the queue and not yet stored. -/
def pending : Worker → Option Task
  | dequeued task => some task
  | locked task => some task
  | _ => none

/-- The session whose read buffer a worker has locked. -/
def holds : Worker → Option ℕ
  | locked task => some task.sessionId
  | written task => some task.sessionId
  | _ => none

end Worker

structure Pool (n : ℕ) where
  m_tasks : List Task
  workers : Fin n → Worker
  sessions : ℕ → P2PSession
  arrivals : ℕ → ℕ
  written : ℕ → List ℕ

inductive PoolEvent (n : ℕ) where
  /-- the reactor has received a chunk and pushes its task -/
  | receive (sessionId : ℕ) (chunk : List Byte)
  | dequeue (worker : Fin n)
  /-- the session is gone or waits for its disconnect, so the task returns before the lock -/
  | giveUp (worker : Fin n)
  | lock (worker : Fin n)
  | run (worker : Fin n)
  | unlock (worker : Fin n)

namespace Pool

variable {n : ℕ} {Payload : Type} (decoder : SessionDataDecoder Payload)

def setWorker (s : Pool n) (w : Fin n) (worker : Worker) : Pool n :=
  { s with workers := Function.update s.workers w worker }

/-- Store the chunk and decode; a chunk that does not fit is dropped. -/
def runTask (s : Pool n) (w : Fin n) (task : Task) : Option (Pool n) :=
  (decoder.writeAndDecode (s.sessions task.sessionId) task.chunk).map fun result =>
    { s.setWorker w (.written task) with
      sessions := Function.update s.sessions task.sessionId result.1
      written :=
        if ((s.sessions task.sessionId).m_readBuffer.writeData task.chunk).1 = -1 then s.written
        else Function.update s.written task.sessionId (s.written task.sessionId ++ [task.arrival]) }

def step (s : Pool n) : PoolEvent n → Option (Pool n)
  | .receive sessionId chunk =>
    some { s with
      m_tasks := s.m_tasks ++ [⟨sessionId, s.arrivals sessionId, chunk⟩]
      arrivals := Function.update s.arrivals sessionId (s.arrivals sessionId + 1) }
  | .dequeue w =>
    match s.workers w, s.m_tasks with
    | .idle, task :: tasks => some { s.setWorker w (.dequeued task) with m_tasks := tasks }
    | _, _ => none
  | .giveUp w =>
    match s.workers w with
    | .dequeued _ => some (s.setWorker w .idle)
    | _ => none
  | .lock w =>
    match s.workers w with
    | .dequeued task =>
      if ∀ w', (s.workers w').holds ≠ some task.sessionId then some (s.setWorker w (.locked task))
      else none
    | _ => none
  | .run w =>
    match s.workers w with
    | .locked task => s.runTask decoder w task
    | _ => none
  | .unlock w =>
    match s.workers w with
    | .written _ => some (s.setWorker w .idle)
    | _ => none

end Pool

/-- `n` decode workers, started with an empty queue and fresh read buffers of `capacity` bytes. -/
def decodeWorkers {Payload : Type} (decoder : SessionDataDecoder Payload) (n capacity : ℕ) :
    TransitionSystem (Pool n) (PoolEvent n) where
  init s := s = ⟨[], fun _ => .idle, fun sessionId => ⟨sessionId, .new capacity, false⟩,
    fun _ => 0, fun _ => []⟩
  step := Pool.step decoder

/-- The run condition: who takes the lock holds the earliest chunk of the session that is dequeued
and not stored. -/
def EarliestFirst {n : ℕ} (s : Pool n) : PoolEvent n → Prop
  | .lock w => ∀ task, s.workers w = .dequeued task → ∀ w' task', s.workers w' = .dequeued task' →
      task'.sessionId = task.sessionId → task.arrival ≤ task'.arrival
  | _ => True

/-! ### The order invariant -/

/-- `a` arrived before every chunk of the session that is still in the queue or yet to come. -/
def Before {n : ℕ} (s : Pool n) (sessionId a : ℕ) : Prop :=
  a < s.arrivals sessionId ∧ ∀ t ∈ s.m_tasks, t.sessionId = sessionId → a < t.arrival

/-- The invariant of one session. -/
structure InOrder {n : ℕ} (s : Pool n) (sessionId : ℕ) : Prop where
  queue_lt : ∀ t ∈ s.m_tasks, t.sessionId = sessionId → t.arrival < s.arrivals sessionId
  queue_sorted : s.m_tasks.Pairwise fun t t' =>
    t.sessionId = sessionId → t'.sessionId = sessionId → t.arrival < t'.arrival
  pending_before : ∀ w t, (s.workers w).pending = some t → t.sessionId = sessionId →
    Before s sessionId t.arrival
  pending_distinct : ∀ w w' t t', (s.workers w).pending = some t →
    (s.workers w').pending = some t' → t.sessionId = sessionId → t'.sessionId = sessionId →
      t.arrival = t'.arrival → w = w'
  locked_first : ∀ w w' t t', s.workers w = .locked t → s.workers w' = .dequeued t' →
    t.sessionId = sessionId → t'.sessionId = sessionId → t.arrival < t'.arrival
  exclusive : ∀ w w', (s.workers w).holds = some sessionId →
    (s.workers w').holds = some sessionId → w = w'
  written_before : ∀ a ∈ s.written sessionId, Before s sessionId a ∧
    ∀ w t, (s.workers w).pending = some t → t.sessionId = sessionId → a < t.arrival
  written_sorted : (s.written sessionId).Pairwise (· < ·)

section Invariant

variable {n sessionId : ℕ} {s : Pool n} {w : Fin n} {task : Task}

/-- What holds of a worker after an update holds of the new worker or held of an old one. -/
theorem setWorker_cases {P : Worker → Prop} {worker : Worker} {w' : Fin n}
    (h : P ((s.setWorker w worker).workers w')) : (w' = w ∧ P worker) ∨ (w' ≠ w ∧ P (s.workers w')) := by
  by_cases hw : w' = w
  · subst hw
    have hnew : (s.setWorker w' worker).workers w' = worker := Function.update_self _ _ _
    exact .inl ⟨rfl, hnew ▸ h⟩
  · have hold : (s.setWorker w worker).workers w' = s.workers w' := Function.update_of_ne hw _ _
    exact .inr ⟨hw, hold ▸ h⟩

theorem InOrder.init (sessions : ℕ → P2PSession) :
    InOrder (⟨[], fun _ => .idle, sessions, fun _ => 0, fun _ => []⟩ : Pool n) sessionId where
  queue_lt := fun t ht => by cases ht
  queue_sorted := .nil
  pending_before := fun w t ht => by cases ht
  pending_distinct := fun w w' t t' ht => by cases ht
  locked_first := fun w w' t t' ht => by cases ht
  exclusive := fun w w' hw => by cases hw
  written_before := fun a ha => by cases ha
  written_sorted := .nil

/-- A new chunk is later than everything. -/
theorem InOrder.receive (h : InOrder s sessionId) (id : ℕ) (chunk : List Byte) :
    InOrder { s with
      m_tasks := s.m_tasks ++ [⟨id, s.arrivals id, chunk⟩]
      arrivals := Function.update s.arrivals id (s.arrivals id + 1) } sessionId := by
  have hgrow : s.arrivals sessionId ≤
      Function.update s.arrivals id (s.arrivals id + 1) sessionId := by
    by_cases hid : sessionId = id
    · subst hid
      rw [Function.update_self]
      omega
    · rw [Function.update_of_ne hid]
  have hbefore {a : ℕ} (ha : Before s sessionId a) : Before { s with
      m_tasks := s.m_tasks ++ [⟨id, s.arrivals id, chunk⟩]
      arrivals := Function.update s.arrivals id (s.arrivals id + 1) } sessionId a := by
    refine ⟨Nat.lt_of_lt_of_le ha.1 hgrow, fun t ht hid => ?_⟩
    rcases List.mem_append.mp ht with ht | ht
    · exact ha.2 t ht hid
    · rw [List.mem_singleton.mp ht] at hid ⊢
      have hlt := ha.1
      rwa [← hid] at hlt
  refine ⟨fun t ht hid => ?_, ?_, fun w t ht hid => hbefore (h.pending_before w t ht hid),
    h.pending_distinct, h.locked_first, h.exclusive,
    fun a ha => ⟨hbefore (h.written_before a ha).1, (h.written_before a ha).2⟩, h.written_sorted⟩
  · rcases List.mem_append.mp ht with ht | ht
    · exact Nat.lt_of_lt_of_le (h.queue_lt t ht hid) hgrow
    · rw [List.mem_singleton.mp ht] at hid ⊢
      subst hid
      show s.arrivals id < Function.update s.arrivals id (s.arrivals id + 1) id
      rw [Function.update_self]
      omega
  · refine List.pairwise_append.mpr ⟨h.queue_sorted, List.pairwise_singleton _ _, ?_⟩
    intro t ht t' ht' hid hid'
    rw [List.mem_singleton.mp ht'] at hid' ⊢
    have hlt := h.queue_lt t ht hid
    rwa [← hid'] at hlt

/-- The head of the queue is earlier than the rest of it and later than everything taken before. -/
theorem InOrder.dequeue (h : InOrder s sessionId) {tasks : List Task} (w : Fin n)
    (htasks : s.m_tasks = task :: tasks) :
    InOrder { s.setWorker w (.dequeued task) with m_tasks := tasks } sessionId := by
  have hsorted := h.queue_sorted
  rw [htasks, List.pairwise_cons] at hsorted
  have htask : task ∈ s.m_tasks := by
    rw [htasks]
    exact List.mem_cons_self
  have hsub : ∀ t ∈ tasks, t ∈ s.m_tasks := fun t ht => by
    rw [htasks]
    exact List.mem_cons_of_mem _ ht
  have hbefore {a : ℕ} (ha : Before s sessionId a) :
      Before { s.setWorker w (.dequeued task) with m_tasks := tasks } sessionId a :=
    ⟨ha.1, fun t ht => ha.2 t (hsub t ht)⟩
  have hnew (hid : task.sessionId = sessionId) :
      Before { s.setWorker w (.dequeued task) with m_tasks := tasks } sessionId task.arrival :=
    ⟨h.queue_lt task htask hid, fun t ht hid' => hsorted.1 t ht hid hid'⟩
  refine ⟨fun t ht => h.queue_lt t (hsub t ht), hsorted.2, ?_, ?_, ?_, ?_, ?_, h.written_sorted⟩
  · intro w' t ht hid
    rcases setWorker_cases (P := fun x => x.pending = some t) ht with ⟨_, hp⟩ | ⟨_, hp⟩
    · cases hp
      exact hnew hid
    · exact hbefore (h.pending_before w' t hp hid)
  · intro w₁ w₂ t₁ t₂ ht₁ ht₂ hid₁ hid₂ heq
    rcases setWorker_cases (P := fun x => x.pending = some t₁) ht₁ with ⟨hw₁, hp₁⟩ | ⟨_, hp₁⟩ <;>
      rcases setWorker_cases (P := fun x => x.pending = some t₂) ht₂ with ⟨hw₂, hp₂⟩ | ⟨_, hp₂⟩
    · rw [hw₁, hw₂]
    · cases hp₁
      have := (h.pending_before w₂ t₂ hp₂ hid₂).2 _ htask hid₁
      omega
    · cases hp₂
      have := (h.pending_before w₁ t₁ hp₁ hid₁).2 _ htask hid₂
      omega
    · exact h.pending_distinct w₁ w₂ t₁ t₂ hp₁ hp₂ hid₁ hid₂ heq
  · intro w₁ w₂ t₁ t₂ ht₁ ht₂ hid₁ hid₂
    rcases setWorker_cases (P := fun x => x = .locked t₁) ht₁ with ⟨_, hp₁⟩ | ⟨_, hp₁⟩
    · cases hp₁
    rcases setWorker_cases (P := fun x => x = .dequeued t₂) ht₂ with ⟨_, hp₂⟩ | ⟨_, hp₂⟩
    · cases hp₂
      exact (h.pending_before w₁ t₁ (by rw [hp₁]; rfl) hid₁).2 _ htask hid₂
    · exact h.locked_first w₁ w₂ t₁ t₂ hp₁ hp₂ hid₁ hid₂
  · intro w₁ w₂ hw₁ hw₂
    rcases setWorker_cases (P := fun x => x.holds = some sessionId) hw₁ with ⟨_, hp₁⟩ | ⟨_, hp₁⟩
    · cases hp₁
    rcases setWorker_cases (P := fun x => x.holds = some sessionId) hw₂ with ⟨_, hp₂⟩ | ⟨_, hp₂⟩
    · cases hp₂
    · exact h.exclusive w₁ w₂ hp₁ hp₂
  · intro a ha
    refine ⟨hbefore (h.written_before a ha).1, fun w' t ht hid => ?_⟩
    rcases setWorker_cases (P := fun x => x.pending = some t) ht with ⟨_, hp⟩ | ⟨_, hp⟩
    · cases hp
      exact (h.written_before a ha).1.2 _ htask hid
    · exact (h.written_before a ha).2 w' t hp hid

/-- A worker that becomes idle without storing anything takes nothing away. -/
theorem InOrder.setIdle (h : InOrder s sessionId) (w : Fin n) :
    InOrder (s.setWorker w .idle) sessionId := by
  have hold {P : Worker → Prop} {w' : Fin n} (hP : ¬ P .idle)
      (hw : P ((s.setWorker w .idle).workers w')) : P (s.workers w') := by
    rcases setWorker_cases hw with ⟨_, hp⟩ | ⟨_, hp⟩
    · exact absurd hp hP
    · exact hp
  refine ⟨h.queue_lt, h.queue_sorted, ?_, ?_, ?_, ?_, ?_, h.written_sorted⟩
  · intro w' t ht
    exact h.pending_before w' t (hold (P := fun x => x.pending = some t) nofun ht)
  · intro w₁ w₂ t₁ t₂ ht₁ ht₂
    exact h.pending_distinct w₁ w₂ t₁ t₂ (hold (P := fun x => x.pending = some t₁) nofun ht₁)
      (hold (P := fun x => x.pending = some t₂) nofun ht₂)
  · intro w₁ w₂ t₁ t₂ ht₁ ht₂
    exact h.locked_first w₁ w₂ t₁ t₂ (hold (P := fun x => x = .locked t₁) nofun ht₁)
      (hold (P := fun x => x = .dequeued t₂) nofun ht₂)
  · intro w₁ w₂ hw₁ hw₂
    exact h.exclusive w₁ w₂ (hold (P := fun x => x.holds = some sessionId) nofun hw₁)
      (hold (P := fun x => x.holds = some sessionId) nofun hw₂)
  · intro a ha
    refine ⟨(h.written_before a ha).1, fun w' t ht => ?_⟩
    exact (h.written_before a ha).2 w' t (hold (P := fun x => x.pending = some t) nofun ht)

/-- **Taking the lock** keeps the invariant when no other worker holds an earlier chunk. -/
theorem InOrder.lock (h : InOrder s sessionId) (hw : s.workers w = .dequeued task)
    (hfree : ∀ w', (s.workers w').holds ≠ some task.sessionId)
    (hfirst : ∀ w' task', s.workers w' = .dequeued task' → task'.sessionId = task.sessionId →
      task.arrival ≤ task'.arrival) : InOrder (s.setWorker w (.locked task)) sessionId := by
  have hpend : (s.workers w).pending = some task := by
    rw [hw]
    rfl
  have hpending {w' : Fin n} {t : Task}
      (ht : ((s.setWorker w (.locked task)).workers w').pending = some t) :
      (s.workers w').pending = some t := by
    rcases setWorker_cases (P := fun x => x.pending = some t) ht with ⟨hw', hp⟩ | ⟨_, hp⟩
    · rw [hw', hpend]
      exact hp
    · exact hp
  refine ⟨h.queue_lt, h.queue_sorted, fun w' t ht => h.pending_before w' t (hpending ht),
    fun w₁ w₂ t₁ t₂ ht₁ ht₂ => h.pending_distinct w₁ w₂ t₁ t₂ (hpending ht₁) (hpending ht₂),
    ?_, ?_, fun a ha => ⟨(h.written_before a ha).1,
      fun w' t ht => (h.written_before a ha).2 w' t (hpending ht)⟩, h.written_sorted⟩
  · intro w₁ w₂ t₁ t₂ ht₁ ht₂ hid₁ hid₂
    rcases setWorker_cases (P := fun x => x = .dequeued t₂) ht₂ with ⟨_, hp₂⟩ | ⟨hne, hp₂⟩
    · cases hp₂
    rcases setWorker_cases (P := fun x => x = .locked t₁) ht₁ with ⟨_, hp₁⟩ | ⟨_, hp₁⟩
    · cases hp₁
      have hle := hfirst w₂ t₂ hp₂ (hid₂.trans hid₁.symm)
      refine lt_of_le_of_ne hle fun heq => hne ?_
      exact (h.pending_distinct w w₂ task t₂ hpend (by rw [hp₂]; rfl) hid₁ hid₂ heq).symm
    · exact h.locked_first w₁ w₂ t₁ t₂ hp₁ hp₂ hid₁ hid₂
  · intro w₁ w₂ hw₁ hw₂
    rcases setWorker_cases (P := fun x => x.holds = some sessionId) hw₁ with ⟨h₁, hp₁⟩ | ⟨_, hp₁⟩ <;>
      rcases setWorker_cases (P := fun x => x.holds = some sessionId) hw₂ with ⟨h₂, hp₂⟩ | ⟨_, hp₂⟩
    · rw [h₁, h₂]
    · cases hp₁
      exact absurd hp₂ (hfree w₂)
    · cases hp₂
      exact absurd hp₁ (hfree w₁)
    · exact h.exclusive w₁ w₂ hp₁ hp₂

/-- The chunk of the worker that holds the lock is earlier than every other pending one of the session:
those are dequeued only. -/
theorem InOrder.locked_before (h : InOrder s sessionId) (hw : s.workers w = .locked task)
    (hid : task.sessionId = sessionId) {w' : Fin n} {t : Task} (hne : w' ≠ w)
    (hpending : (s.workers w').pending = some t) (hid' : t.sessionId = sessionId) :
    task.arrival < t.arrival := by
  cases hcase : s.workers w' with
  | idle =>
    rw [hcase] at hpending
    cases hpending
  | dequeued t' =>
    rw [hcase] at hpending
    cases hpending
    exact h.locked_first w w' task t hw hcase hid hid'
  | locked t' =>
    rw [hcase] at hpending
    cases hpending
    have hhold : (s.workers w).holds = some sessionId := by
      rw [hw, ← hid]
      rfl
    have hhold' : (s.workers w').holds = some sessionId := by
      rw [hcase, ← hid']
      rfl
    exact absurd (h.exclusive w' w hhold' hhold) hne
  | written t' =>
    rw [hcase] at hpending
    cases hpending

/-- The chunk a worker stores under the lock is later than all stored ones and earlier than all
others. -/
theorem InOrder.write (h : InOrder s sessionId) (hw : s.workers w = .locked task)
    (sessions : ℕ → P2PSession) {written : ℕ → List ℕ}
    (hwritten : written = s.written ∨ written = Function.update s.written task.sessionId
      (s.written task.sessionId ++ [task.arrival])) :
    InOrder { s.setWorker w (.written task) with sessions := sessions, written := written }
      sessionId := by
  have hpend : (s.workers w).pending = some task := by
    rw [hw]
    rfl
  have hpending {w' : Fin n} {t : Task}
      (ht : ((s.setWorker w (.written task)).workers w').pending = some t) :
      w' ≠ w ∧ (s.workers w').pending = some t := by
    rcases setWorker_cases (P := fun x => x.pending = some t) ht with ⟨_, hp⟩ | hp
    · cases hp
    · exact hp
  have hlater {w' : Fin n} {t : Task} (hid : task.sessionId = sessionId)
      (hid' : t.sessionId = sessionId)
      (ht : ((s.setWorker w (.written task)).workers w').pending = some t) :
      task.arrival < t.arrival :=
    h.locked_before hw hid (hpending ht).1 (hpending ht).2 hid'
  have hmem : ∀ a ∈ written sessionId, a ∈ s.written sessionId ∨
      (task.sessionId = sessionId ∧ a = task.arrival) := by
    intro a ha
    rcases hwritten with rfl | rfl
    · exact .inl ha
    · by_cases hid : sessionId = task.sessionId
      · subst hid
        rw [Function.update_self] at ha
        rcases List.mem_append.mp ha with ha | ha
        · exact .inl ha
        · exact .inr ⟨rfl, List.mem_singleton.mp ha⟩
      · rw [Function.update_of_ne hid] at ha
        exact .inl ha
  refine ⟨h.queue_lt, h.queue_sorted, fun w' t ht => h.pending_before w' t (hpending ht).2,
    fun w₁ w₂ t₁ t₂ ht₁ ht₂ => h.pending_distinct w₁ w₂ t₁ t₂ (hpending ht₁).2 (hpending ht₂).2,
    ?_, ?_, ?_, ?_⟩
  · intro w₁ w₂ t₁ t₂ ht₁ ht₂
    rcases setWorker_cases (P := fun x => x = .locked t₁) ht₁ with ⟨_, hp₁⟩ | ⟨_, hp₁⟩
    · cases hp₁
    rcases setWorker_cases (P := fun x => x = .dequeued t₂) ht₂ with ⟨_, hp₂⟩ | ⟨_, hp₂⟩
    · cases hp₂
    · exact h.locked_first w₁ w₂ t₁ t₂ hp₁ hp₂
  · have hholds {w' : Fin n}
        (hw' : ((s.setWorker w (.written task)).workers w').holds = some sessionId) :
        (s.workers w').holds = some sessionId := by
      rcases setWorker_cases (P := fun x => x.holds = some sessionId) hw' with ⟨heq, hp⟩ | ⟨_, hp⟩
      · rw [heq, hw]
        exact hp
      · exact hp
    exact fun w₁ w₂ hw₁ hw₂ => h.exclusive w₁ w₂ (hholds hw₁) (hholds hw₂)
  · intro a ha
    rcases hmem a ha with ha | ⟨hid, rfl⟩
    · exact ⟨(h.written_before a ha).1,
        fun w' t ht => (h.written_before a ha).2 w' t (hpending ht).2⟩
    · exact ⟨h.pending_before w task hpend hid, fun w' t ht hid' => hlater hid hid' ht⟩
  · rcases hwritten with rfl | rfl
    · exact h.written_sorted
    · by_cases hid : sessionId = task.sessionId
      · subst hid
        show (Function.update s.written task.sessionId _ task.sessionId).Pairwise _
        rw [Function.update_self]
        refine List.pairwise_append.mpr ⟨h.written_sorted, List.pairwise_singleton _ _, ?_⟩
        intro a ha b hb
        rw [List.mem_singleton.mp hb]
        exact (h.written_before a ha).2 w task hpend rfl
      · show (Function.update s.written task.sessionId _ sessionId).Pairwise _
        rw [Function.update_of_ne hid]
        exact h.written_sorted

/-- **Step lemma.** -/
theorem InOrder.step {Payload : Type} {decoder : SessionDataDecoder Payload} {s' : Pool n}
    {e : PoolEvent n} (h : InOrder s sessionId) (hfirst : EarliestFirst s e)
    (hstep : s.step decoder e = some s') : InOrder s' sessionId := by
  cases e with
  | receive id chunk =>
    cases hstep
    exact h.receive id chunk
  | dequeue w =>
    simp only [Pool.step] at hstep
    split at hstep
    · rename_i task tasks _ htasks
      cases hstep
      exact h.dequeue w htasks
    · cases hstep
  | giveUp w =>
    simp only [Pool.step] at hstep
    split at hstep
    · cases hstep
      exact h.setIdle w
    · cases hstep
  | lock w =>
    simp only [Pool.step] at hstep
    split at hstep
    · rename_i task hw
      rw [Option.ite_none_right_eq_some] at hstep
      obtain ⟨hfree, heq⟩ := hstep
      cases heq
      exact h.lock hw hfree (hfirst task hw)
    · cases hstep
  | run w =>
    simp only [Pool.step] at hstep
    split at hstep
    · rename_i task hw
      rw [Pool.runTask, Option.map_eq_some_iff] at hstep
      obtain ⟨result, _, rfl⟩ := hstep
      refine h.write hw _ ?_
      by_cases hdropped : ((s.sessions task.sessionId).m_readBuffer.writeData task.chunk).1 = -1
      · exact .inl (if_pos hdropped)
      · exact .inr (if_neg hdropped)
    · cases hstep
  | unlock w =>
    simp only [Pool.step] at hstep
    split at hstep
    · cases hstep
      exact h.setIdle w
    · cases hstep

/-- A single worker always holds the earliest chunk. -/
theorem earliestFirst_single (s : Pool 1) (e : PoolEvent 1) : EarliestFirst s e := by
  cases e with
  | lock w =>
    intro task hw w' task' hw' _
    rw [Subsingleton.elim w' w, hw] at hw'
    cases hw'
    exact Nat.le_refl _
  | _ => exact trivial

end Invariant

/-- **Chunks are stored in the order of their arrival** in every run in which the lock always goes to
the earliest chunk of the session that the workers hold. -/
theorem written_ordered {Payload : Type} (decoder : SessionDataDecoder Payload) (n capacity : ℕ)
    (s : Pool n) (hs : (decodeWorkers decoder n capacity).Reaches EarliestFirst s) (sessionId : ℕ) :
    (s.written sessionId).Pairwise (· < ·) := by
  have hinv : InOrder s sessionId := by
    refine hs.invariant (I := fun s => InOrder s sessionId) ?_ ?_
    · rintro s rfl
      exact InOrder.init _
    · intro s e s' h hfirst hstep
      exact h.step hfirst hstep
  exact hinv.written_sorted

/-- Two workers take the chunks `0` and `1` of a session and lock in the other order. -/
def overtaking : List (PoolEvent 2) :=
  [.receive 0 [1], .receive 0 [2], .dequeue 0, .dequeue 1, .lock 1, .run 1, .unlock 1, .lock 0, .run 0]

/-- **Chunk `1` is stored before chunk `0`.** -/
theorem written_unordered : ∃ s : Pool 2,
    (decodeWorkers rawDecoder 2 (16 * 1024)).Reachable s ∧ s.written 0 = [1, 0] ∧
      ¬ (s.written 0).Pairwise (· < ·) := by
  have hrun : ((decodeWorkers rawDecoder 2 (16 * 1024)).run
      ⟨[], fun _ => .idle, fun sessionId => ⟨sessionId, .new (16 * 1024), false⟩, fun _ => 0,
        fun _ => []⟩ overtaking).map (fun s => s.written 0) = some [1, 0] := by
    decide
  obtain ⟨s, hs, hwritten⟩ := Option.map_eq_some_iff.mp hrun
  refine ⟨s, TransitionSystem.Reachable.of_run (.init rfl) hs, hwritten, ?_⟩
  rw [hwritten]
  decide

/-- A single worker stores two chunks in order. -/
theorem written_ordered_single : ∃ s : Pool 1, s.written 0 = [0, 1] ∧
    (s.written 0).Pairwise (· < ·) := by
  have hrun : ((decodeWorkers rawDecoder 1 (16 * 1024)).run
      ⟨[], fun _ => .idle, fun sessionId => ⟨sessionId, .new (16 * 1024), false⟩, fun _ => 0,
        fun _ => []⟩ [.receive 0 [1], .receive 0 [2], .dequeue 0, .lock 0, .run 0, .unlock 0,
        .dequeue 0, .lock 0, .run 0]).map (fun s => s.written 0) = some [0, 1] := by
    decide
  obtain ⟨s, hs, hwritten⟩ := Option.map_eq_some_iff.mp hrun
  have hreach := TransitionSystem.Reachable.of_run (.init rfl) hs
  exact ⟨s, hwritten, written_ordered rawDecoder 1 (16 * 1024) s
    (hreach.mono fun s e _ => earliestFirst_single s e) 0⟩

end DistributedNetwork.Decoding
