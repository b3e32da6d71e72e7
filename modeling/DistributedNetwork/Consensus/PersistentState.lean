import DistributedNetwork.Consensus.Storage
import DistributedNetwork.Library.TransitionSystem

/-!
# The Raft term in memory and on disk

* `RaftMetadataStorage` — the term as decimal text in the database;
* `PersistentState` — the copy in memory, with the operations of the source;
* `TermKept` — what one operation owes: it keeps the two copies equal, and `currentTerm` delivers them;
* `term_memory_eq_disk` — along a run each operation delivers that **exactly** under `TermCondition`.

`currentTerm(term)` returns the term as its status and never writes `term`; `increaseTerm` counts the
copy in memory twice; `Raft::initState` takes the status of `init` for a Boolean.
-/

namespace DistributedNetwork.Consensus

open DistributedNetwork.Library

/-! ### `RaftMetadataStorage` -/

def c_raftMetadataTableName : String := "__stmc_log__"

def c_currentTermKey : String := "current_term"

namespace RaftMetadataStorage

def getCurrentTerm (storage : Storage) : Option UInt64 :=
  (storage.get c_raftMetadataTableName c_currentTermKey).map
    (convertFromString storage.uninitialised)

def setCurrentTerm (storage : Storage) (term : UInt64) (ok : Bool) : ℤ × Storage :=
  storage.set c_raftMetadataTableName c_currentTermKey (convertToString term) ok

theorem setCurrentTerm_failed (storage : Storage) (term : UInt64) :
    setCurrentTerm storage term false = (-1, storage) :=
  rfl

/-- What was written is what is read. -/
theorem getCurrentTerm_setCurrentTerm (storage : Storage) (term : UInt64) :
    getCurrentTerm (setCurrentTerm storage term true).2 = some term := by
  rw [getCurrentTerm, setCurrentTerm, Storage.get_set_self, Option.map_some,
    convertFromString_convertToString]

end RaftMetadataStorage

/-! ### `PersistentState` -/

structure PersistentState where
  m_currentTerm : UInt64
  m_raftMetadataStorage : Storage

namespace PersistentState

/-- A new object on a database. -/
def new (raftMetadataStorage : Storage) : PersistentState where
  m_currentTerm := 0
  m_raftMetadataStorage := raftMetadataStorage

def init (s : PersistentState) : ℤ × PersistentState :=
  match RaftMetadataStorage.getCurrentTerm s.m_raftMetadataStorage with
  | none => (-1, s)
  | some currentTerm => (0, { s with m_currentTerm := currentTerm })

/-- The status, and the caller's variable afterwards. -/
def currentTerm (s : PersistentState) (term : UInt64) : ℤ × UInt64 :=
  (s.m_currentTerm.toUInt32.toInt32.toInt, term)

def setCurrentTerm (s : PersistentState) (term : UInt64) (ok : Bool) : ℤ × PersistentState :=
  match RaftMetadataStorage.setCurrentTerm s.m_raftMetadataStorage term ok with
  | (0, storage) => (0, { m_currentTerm := term, m_raftMetadataStorage := storage })
  | (_, storage) => (-1, { s with m_raftMetadataStorage := storage })

def increaseTerm (s : PersistentState) (ok : Bool) : ℤ × PersistentState :=
  match s.setCurrentTerm (s.m_currentTerm + 1) ok with
  | (-1, s') => (-1, s')
  | (_, s') => (0, { s' with m_currentTerm := s'.m_currentTerm + 1 })

/-- The process starts again on the same database. -/
def restart (s : PersistentState) : PersistentState :=
  .new s.m_raftMetadataStorage

/-- `Raft::initState`: `false == init()` is a comparison of the status with `0`. -/
def initState (s : PersistentState) : ℤ × PersistentState :=
  if s.init.1 = 0 then (-1, s.init.2) else (0, s.init.2)

/-- The term on disk. -/
def storedTerm (s : PersistentState) : Option UInt64 :=
  RaftMetadataStorage.getCurrentTerm s.m_raftMetadataStorage

variable (s : PersistentState) (term : UInt64)

theorem init_eq : s.init =
    match s.storedTerm with
    | none => (-1, s)
    | some currentTerm => (0, { s with m_currentTerm := currentTerm }) :=
  rfl

theorem setCurrentTerm_failed : s.setCurrentTerm term false = (-1, s) :=
  rfl

theorem storedTerm_setCurrentTerm : (s.setCurrentTerm term true).2.storedTerm = some term :=
  RaftMetadataStorage.getCurrentTerm_setCurrentTerm s.m_raftMetadataStorage term

theorem increaseTerm_ok : s.increaseTerm true =
    (0, { (s.setCurrentTerm (s.m_currentTerm + 1) true).2 with
            m_currentTerm := s.m_currentTerm + 1 + 1 }) :=
  rfl

/-- The status is zero if and only if the low 32 bits of the term are. -/
theorem currentTerm_status_iff :
    (s.currentTerm term).1 = 0 ↔ s.m_currentTerm.toNat % 2 ^ 32 = 0 := by
  have hzero : s.m_currentTerm.toUInt32.toInt32.toInt = 0 ↔ s.m_currentTerm.toUInt32 = 0 := by
    rw [← Int32.toInt_zero, Int32.toInt_inj]
    constructor
    · exact fun h => congrArg Int32.toUInt32 h
    · exact fun h => congrArg UInt32.toInt32 h
  show s.m_currentTerm.toUInt32.toInt32.toInt = 0 ↔ _
  rw [hzero, ← UInt32.toNat_inj, UInt64.toNat_toUInt32]
  rfl

end PersistentState

/-! ### Runs -/

/-- An operation; `ok` tells whether the database takes its write. -/
inductive TermEvent where
  | init
  | setCurrentTerm (term : UInt64) (ok : Bool)
  | increaseTerm (ok : Bool)
  | restart
  | initState
  deriving DecidableEq

namespace PersistentState

/-- The state after an operation. -/
def after (s : PersistentState) : TermEvent → PersistentState
  | .init => s.init.2
  | .setCurrentTerm term ok => (s.setCurrentTerm term ok).2
  | .increaseTerm ok => (s.increaseTerm ok).2
  | .restart => s.restart
  | .initState => s.initState.2

/-- The operation has set the term in memory. -/
def sets (s : PersistentState) : TermEvent → Bool
  | .init | .initState => s.init.1 == 0
  | .setCurrentTerm term ok => (s.setCurrentTerm term ok).1 == 0
  | .increaseTerm ok => (s.increaseTerm ok).1 == 0
  | .restart => false

/-- `currentTerm(term)` reports success and leaves the stored term, which is also the one in memory, in the
caller's variable; `term` is what the variable held before the call. -/
def Delivers (s : PersistentState) (term : UInt64) : Prop :=
  ∃ stored, s.storedTerm = some stored ∧ s.m_currentTerm = stored ∧ s.currentTerm term = (0, stored)

/-- After a success the term is delivered; a failure changes neither copy. -/
def Settled (s : PersistentState) (result : ℤ × PersistentState) (term : UInt64) : Prop :=
  (result.1 = 0 → result.2.Delivers term) ∧ (result.1 ≠ 0 → result.2 = s)

/-- The stored term goes up by one. -/
def Raised (s s' : PersistentState) : Prop :=
  ∀ stored, s.storedTerm = some stored →
    ∃ stored', s'.storedTerm = some stored' ∧ stored'.toNat = stored.toNat + 1

/-- The stored term is not lowered. -/
def NotLower (s s' : PersistentState) : Prop :=
  ∀ stored, s.storedTerm = some stored → ∃ stored', s'.storedTerm = some stored' ∧ stored ≤ stored'

/-- What an operation owes to a caller who asks for the term right after it, with a variable that holds
`term`. -/
def TermKept (s : PersistentState) (term : UInt64) : TermEvent → Prop
  | .init => s.Settled s.init term
  | .setCurrentTerm newTerm ok => s.Settled (s.setCurrentTerm newTerm ok) term
  | .increaseTerm ok =>
    s.Settled (s.increaseTerm ok) term ∧
      ((s.increaseTerm ok).1 = 0 → s.Raised (s.increaseTerm ok).2) ∧
      s.NotLower (s.increaseTerm ok).2
  | .restart => s.NotLower s.restart
  | .initState => s.storedTerm ≠ none → s.initState.1 = 0

/-- The term that is about to be loaded or set is in the caller's variable already and its low 32 bits are
zero; nothing is increased; `initState` finds no term. -/
def TermCondition (s : PersistentState) (term : UInt64) : TermEvent → Prop
  | .init => ∀ stored, s.storedTerm = some stored → term = stored ∧ stored.toNat % 2 ^ 32 = 0
  | .setCurrentTerm newTerm ok => ok = true → term = newTerm ∧ newTerm.toNat % 2 ^ 32 = 0
  | .increaseTerm ok => ok = false
  | .restart => True
  | .initState => s.storedTerm = none

variable {s s' : PersistentState} {term : UInt64}

theorem delivers_iff {stored : UInt64} (hstored : s.storedTerm = some stored)
    (hmemory : s.m_currentTerm = stored) :
    s.Delivers term ↔ term = stored ∧ stored.toNat % 2 ^ 32 = 0 := by
  constructor
  · rintro ⟨stored', hstored', -, hcurrent⟩
    rw [hstored, Option.some.injEq] at hstored'
    subst hstored'
    have hstatus : (s.currentTerm term).1 = 0 := congrArg Prod.fst hcurrent
    rw [currentTerm_status_iff, hmemory] at hstatus
    exact ⟨congrArg Prod.snd hcurrent, hstatus⟩
  · rintro ⟨rfl, hlow⟩
    refine ⟨term, hstored, hmemory, Prod.ext ?_ rfl⟩
    rw [currentTerm_status_iff, hmemory]
    exact hlow

theorem settled_success {term : UInt64} :
    s.Settled (0, s') term ↔ s'.Delivers term :=
  ⟨fun h => h.1 rfl, fun h => ⟨fun _ => h, fun hne => absurd rfl hne⟩⟩

theorem settled_failure : s.Settled (-1, s) term :=
  ⟨nofun, fun _ => rfl⟩

theorem notLower_of_eq (h : s'.storedTerm = s.storedTerm) : s.NotLower s' :=
  fun stored hstored => ⟨stored, h.trans hstored, UInt64.le_refl stored⟩

theorem settled_init_iff : s.Settled s.init term ↔
    ∀ stored, s.storedTerm = some stored → term = stored ∧ stored.toNat % 2 ^ 32 = 0 := by
  rw [init_eq]
  cases hstored : s.storedTerm with
  | none => exact ⟨nofun, fun _ => settled_failure⟩
  | some stored =>
    have hload : ({ s with m_currentTerm := stored } : PersistentState).Delivers term ↔ _ :=
      delivers_iff hstored rfl
    show s.Settled (0, { s with m_currentTerm := stored }) term ↔ _
    rw [settled_success, hload]
    constructor
    · rintro h stored' hstored'
      cases hstored'
      exact h
    · exact fun h => h stored rfl

theorem settled_setCurrentTerm_iff {newTerm : UInt64} {ok : Bool} :
    s.Settled (s.setCurrentTerm newTerm ok) term ↔
      (ok = true → term = newTerm ∧ newTerm.toNat % 2 ^ 32 = 0) := by
  cases ok with
  | false => exact ⟨nofun, fun _ => settled_failure⟩
  | true =>
    show s.Settled (0, (s.setCurrentTerm newTerm true).2) term ↔ _
    rw [settled_success, delivers_iff (storedTerm_setCurrentTerm s newTerm) rfl]
    exact ⟨fun h _ => h, fun h => h rfl⟩

/-- After a successful `increaseTerm` the copies differ. -/
theorem not_settled_increaseTerm : ¬s.Settled (s.increaseTerm true) term := by
  rw [increaseTerm_ok, settled_success]
  rintro ⟨stored, hstored, hmemory, -⟩
  have hdisk : some (s.m_currentTerm + 1) = some stored :=
    (storedTerm_setCurrentTerm s (s.m_currentTerm + 1)).symm.trans hstored
  have hsame : s.m_currentTerm + 1 + 1 = s.m_currentTerm + 1 :=
    hmemory.trans (Option.some.inj hdisk).symm
  exact absurd (UInt64.add_right_inj (s.m_currentTerm + 1) |>.mp (hsame.trans (UInt64.add_zero _).symm))
    (by decide)

/-- **One operation.** -/
theorem termKept_iff {event : TermEvent} : s.TermKept term event ↔ s.TermCondition term event := by
  cases event with
  | init => exact settled_init_iff
  | setCurrentTerm newTerm ok => exact settled_setCurrentTerm_iff
  | increaseTerm ok =>
    cases ok with
    | false =>
      refine ⟨fun _ => rfl, fun _ => ⟨settled_failure, ?_, notLower_of_eq rfl⟩⟩
      exact nofun
    | true => exact ⟨fun h => absurd h.1 not_settled_increaseTerm, nofun⟩
  | restart => exact ⟨fun _ => trivial, fun _ => notLower_of_eq rfl⟩
  | initState =>
    show (s.storedTerm ≠ none → s.initState.1 = 0) ↔ s.storedTerm = none
    rw [initState, init_eq]
    cases s.storedTerm with
    | none => exact ⟨fun _ => rfl, fun _ h => absurd rfl h⟩
    | some stored => exact ⟨fun h => absurd (h nofun) (by show ¬((-1 : ℤ) = 0); decide), nofun⟩

end PersistentState

/-- A `PersistentState`, and whether an operation has set its term since the process started. -/
structure TermRun where
  state : PersistentState
  settled : Bool

/-- Runs on any database; a step is an operation and the variable its caller then asks with. -/
def termRuns : TransitionSystem TermRun (TermEvent × UInt64) where
  init r := r.state.m_currentTerm = 0 ∧ r.settled = false
  step r operation := some {
    state := r.state.after operation.1
    settled := operation.1 ≠ .restart && (r.settled || r.state.sets operation.1) }

/-- The condition on one step of a run. -/
def RunCondition (r : TermRun) (operation : TermEvent × UInt64) : Prop :=
  r.state.TermCondition operation.2 operation.1

/-- The copies agree, and a caller whose variable holds the term is told so. -/
def InStep (r : TermRun) : Prop :=
  r.settled = true → ∃ term, r.state.m_currentTerm = term ∧ r.state.Delivers term

/-- A failed operation leaves the run where it was. -/
theorem InStep.unchanged {r : TermRun} (h : InStep r) {state : PersistentState} {restarts : Bool}
    (hstate : state = r.state) : InStep ⟨state, restarts && (r.settled || false)⟩ := by
  subst hstate
  intro hsettled
  rw [Bool.or_false, Bool.and_eq_true] at hsettled
  exact h hsettled.2

/-- **Step lemma.** -/
theorem InStep.step {r : TermRun} (h : InStep r) {operation : TermEvent × UInt64}
    (hcondition : RunCondition r operation) :
    InStep ⟨r.state.after operation.1,
      operation.1 ≠ .restart && (r.settled || r.state.sets operation.1)⟩ := by
  obtain ⟨event, term⟩ := operation
  cases event with
  | init =>
    show InStep ⟨r.state.init.2, true && (r.settled || r.state.init.1 == 0)⟩
    rw [PersistentState.init_eq]
    cases hstored : r.state.storedTerm with
    | none => exact h.unchanged rfl
    | some stored =>
      intro _
      have hload : (⟨stored, r.state.m_raftMetadataStorage⟩ : PersistentState).Delivers stored :=
        (PersistentState.delivers_iff (s := ⟨stored, _⟩) hstored rfl).mpr
          ⟨rfl, (hcondition stored hstored).2⟩
      exact ⟨stored, rfl, hload⟩
  | setCurrentTerm newTerm ok =>
    cases ok with
    | false => exact h.unchanged rfl
    | true =>
      intro _
      exact ⟨newTerm, rfl,
        (PersistentState.delivers_iff (PersistentState.storedTerm_setCurrentTerm r.state newTerm) rfl).mpr
          ⟨rfl, (hcondition rfl).2⟩⟩
  | increaseTerm ok =>
    have hok : ok = false := hcondition
    subst hok
    exact h.unchanged rfl
  | restart => exact nofun
  | initState =>
    have hnone : r.state.storedTerm = none := hcondition
    show InStep ⟨r.state.initState.2, true && (r.settled || r.state.init.1 == 0)⟩
    rw [PersistentState.initState, PersistentState.init_eq, hnone]
    exact h.unchanged rfl

/-- **The Raft term.**  In every run whose operations all meet the condition the copies agree and the term
is delivered, and the next operation of such a run does what it owes **if and only if** it meets the
condition too. -/
theorem term_memory_eq_disk {r : TermRun} (h : termRuns.Reaches RunCondition r) :
    InStep r ∧ ∀ operation, r.state.TermKept operation.2 operation.1 ↔ RunCondition r operation := by
  refine ⟨?_, fun operation => PersistentState.termKept_iff⟩
  refine h.invariant ?_ ?_
  · intro r hr hsettled
    rw [hr.2] at hsettled
    cases hsettled
  · intro r operation r' hr hcondition hstep
    cases hstep
    exact hr.step hcondition

/-- The term `5 * 2 ^ 32` is set, the process restarts and loads it. -/
theorem term_memory_eq_disk_loaded : ∃ r : TermRun, r.settled = true ∧ InStep r := by
  have hset : termRuns.Reaches RunCondition
      ⟨(PersistentState.new .empty).after (.setCurrentTerm 0x500000000 true), true⟩ :=
    .step (a := (TermEvent.setCurrentTerm 0x500000000 true, 0x500000000))
      (.init (S := termRuns) (s := ⟨PersistentState.new .empty, false⟩) ⟨rfl, rfl⟩)
      (fun _ => ⟨rfl, by decide⟩) rfl
  have hrestart := hset.step (a := (TermEvent.restart, 0)) trivial rfl
  have hload := hrestart.step (a := (TermEvent.init, 0x500000000))
    (by
      intro stored hstored
      cases hstored.symm.trans (PersistentState.storedTerm_setCurrentTerm (.new .empty) 0x500000000)
      exact ⟨rfl, by decide⟩) rfl
  exact ⟨_, by decide, (term_memory_eq_disk hload).1⟩

/-- **The term is not delivered.**  Term `1` is set: `currentTerm` reports the status `1` and leaves the
caller's zero.  Increased, the term is `2` on disk and `3` in memory, and `initState` fails on it. -/
theorem term_memory_ne_disk : ∃ r : TermRun, termRuns.Reachable r ∧
    r.state.currentTerm 0 = (1, 0) ∧ r.state.storedTerm = some 1 ∧
    (r.state.increaseTerm true).1 = 0 ∧ (r.state.increaseTerm true).2.m_currentTerm = 3 ∧
    (r.state.increaseTerm true).2.storedTerm = some 2 ∧ r.state.restart.initState.1 = -1 := by
  refine ⟨_, .step (a := (TermEvent.setCurrentTerm 1 true, 0))
    (.init (S := termRuns) (s := ⟨PersistentState.new .empty, false⟩) ⟨rfl, rfl⟩) trivial rfl, ?_⟩
  decide

end DistributedNetwork.Consensus
