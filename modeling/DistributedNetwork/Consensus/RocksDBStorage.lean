import DistributedNetwork.Consensus.Storage
import DistributedNetwork.Library.Machine

/-!
# The database over RocksDB

* `RocksDB` — the calls of RocksDB, as a parameter;
* `RocksDBStorage` — `init`, `get` and `set` of the source;
* `RefinesMap` — what a sequence of calls is owed: the answers of the map `Storage`;
* `refinesMap_iff` — a sequence gets them **exactly** when it is `WrittenOnce`.

`get` and `set` create the column family of their table on every call and never look one up, so the
second call on a table fails, and no value is ever read back.
-/

namespace DistributedNetwork.Consensus

open DistributedNetwork.Library

/-! ### RocksDB -/

/-- RocksDB: open databases, handles of column families, and statuses that are not ok.  `ok()` of a
status is `Except.ok`. -/
structure RocksDB where
  Database : Type
  Handle : Type
  Status : Type
  Open : String → Except Status Database
  CreateColumnFamily : Database → String → Except Status Handle × Database
  Get : Database → Handle → String → Except Status Bytes
  Put : Database → Handle → String → Bytes → Except Status Unit × Database

/-- How a database is seen: its families with their contents, and which one a handle stands for. -/
structure RocksDB.View (rocksdb : RocksDB) where
  families : rocksdb.Database → String → Option (String → Option Bytes)
  name : rocksdb.Handle → String

/-- What RocksDB promises. -/
structure RocksDB.Lawful (rocksdb : RocksDB) (view : rocksdb.View) : Prop where
  /-- a new family is empty -/
  create_new : ∀ db tableName, view.families db tableName = none →
    ∃ cfHandle db', rocksdb.CreateColumnFamily db tableName = (.ok cfHandle, db') ∧
      view.name cfHandle = tableName ∧
      view.families db' = Function.update (view.families db) tableName (some fun _ => none)
  create_existing : ∀ db tableName, view.families db tableName ≠ none →
    ∃ status db', rocksdb.CreateColumnFamily db tableName = (.error status, db') ∧
      view.families db' = view.families db
  get_found : ∀ db cfHandle family key value, view.families db (view.name cfHandle) = some family →
    family key = some value → rocksdb.Get db cfHandle key = .ok value
  get_notFound : ∀ db cfHandle family key, view.families db (view.name cfHandle) = some family →
    family key = none → ∃ status, rocksdb.Get db cfHandle key = .error status
  put : ∀ db cfHandle family key value, view.families db (view.name cfHandle) = some family →
    ∃ db', rocksdb.Put db cfHandle key value = (.ok (), db') ∧
      view.families db' = Function.update (view.families db) (view.name cfHandle)
        (some (Function.update family key (some value)))

/-! ### `RocksDBStorage` -/

structure RocksDBStorage (rocksdb : RocksDB) where
  m_db : rocksdb.Database

namespace RocksDBStorage

variable {rocksdb : RocksDB}

/-- The status, and the object once it is open. -/
def init (rocksdb : RocksDB) (m_storagePath : String) : ℤ × Option (RocksDBStorage rocksdb) :=
  match rocksdb.Open m_storagePath with
  | .error _ => (-1, none)
  | .ok db => (0, some ⟨db⟩)

/-- `-1` is `none`; otherwise the caller's string holds the value. -/
def get (storage : RocksDBStorage rocksdb) (tableName key : String) :
    Option Bytes × RocksDBStorage rocksdb :=
  match rocksdb.CreateColumnFamily storage.m_db tableName with
  | (.error _, db) => (none, ⟨db⟩)
  | (.ok cfHandle, db) =>
    match rocksdb.Get db cfHandle key with
    | .error _ => (none, ⟨db⟩)
    | .ok value => (some value, ⟨db⟩)

def set (storage : RocksDBStorage rocksdb) (tableName key : String) (value : Bytes) :
    ℤ × RocksDBStorage rocksdb :=
  match rocksdb.CreateColumnFamily storage.m_db tableName with
  | (.error _, db) => (-1, ⟨db⟩)
  | (.ok cfHandle, db) =>
    match rocksdb.Put db cfHandle key value with
    | (.error _, db) => (-1, ⟨db⟩)
    | (.ok _, db) => (0, ⟨db⟩)

end RocksDBStorage

/-! ### Sequences of calls -/

inductive StorageCall where
  | get (tableName key : String)
  | set (tableName key : String) (value : Bytes)
  deriving DecidableEq

inductive StorageAnswer where
  | got (value : Option Bytes)
  | stored (status : ℤ)
  deriving DecidableEq

def StorageCall.tableName : StorageCall → String
  | get tableName _ => tableName
  | set tableName _ _ => tableName

/-- The storage of the source. -/
def rocksDBStorage (rocksdb : RocksDB) : Machine (RocksDBStorage rocksdb) StorageCall StorageAnswer where
  perform storage
    | .get tableName key =>
      (.got (storage.get tableName key).1, (storage.get tableName key).2)
    | .set tableName key value =>
      (.stored (storage.set tableName key value).1, (storage.set tableName key value).2)

/-- What it is for: a map on a database that takes every write. -/
def mapStorage : Machine Storage StorageCall StorageAnswer where
  perform storage
    | .get tableName key => (.got (storage.get tableName key), storage)
    | .set tableName key value =>
      (.stored (storage.set tableName key value true).1, (storage.set tableName key value true).2)

/-- Every write returns `0`, and every read returns the value written last under its table and key, or
`-1` if there is none. -/
def RefinesMap {rocksdb : RocksDB} (storage : RocksDBStorage rocksdb) (calls : List StorageCall) : Prop :=
  (rocksDBStorage rocksdb).answers storage calls = mapStorage.answers .empty calls

instance {rocksdb : RocksDB} (storage : RocksDBStorage rocksdb) (calls : List StorageCall) :
    Decidable (RefinesMap storage calls) :=
  inferInstanceAs (Decidable (_ = _))

/-! ### The map -/

section Map

variable (calls : List StorageCall) (tableName key : String)

theorem mapStorage_get_perform (s : Storage) (call : StorageCall) :
    (mapStorage.perform s call).2.get tableName key = none ↔
      s.get tableName key = none ∧ ∀ value, call ≠ .set tableName key value := by
  cases call with
  | get tableName' key' =>
    refine ⟨fun h => ⟨h, fun value hcall => ?_⟩, fun h => h.1⟩
    cases hcall
  | set tableName' key' value' =>
    show (s.set tableName' key' value' true).2.get tableName key = none ↔ _
    rw [Storage.get_set]
    split
    · next hhere =>
      obtain ⟨rfl, rfl⟩ := hhere
      exact ⟨fun h => (Option.some_ne_none _ h).elim, fun h => (h.2 value' rfl).elim⟩
    · next helse =>
      refine ⟨fun h => ⟨h, fun value hcall => ?_⟩, fun h => h.1⟩
      cases hcall
      exact helse ⟨rfl, rfl⟩

/-- The map holds nothing under a table and key that was never written. -/
theorem mapStorage_get_eq_none_iff :
    (mapStorage.after .empty calls).get tableName key = none ↔
      ∀ value, StorageCall.set tableName key value ∉ calls := by
  refine mapStorage.after_invariant (I := fun calls s => s.get tableName key = none ↔
    ∀ value, StorageCall.set tableName key value ∉ calls) ?_ ?_ calls
  · exact ⟨fun _ value => List.not_mem_nil, fun _ => rfl⟩
  · intro calls s call ih
    rw [mapStorage_get_perform, ih, ← forall_and]
    refine forall_congr' fun value => ?_
    rw [List.mem_append, List.mem_singleton, not_or]
    exact and_congr_right fun _ => ne_comm

end Map

/-! ### One call on RocksDB -/

section Call

variable {rocksdb : RocksDB} {view : rocksdb.View}

/-- The database has a column family of this name. -/
def HasTable (view : rocksdb.View) (storage : RocksDBStorage rocksdb) (tableName : String) : Prop :=
  view.families storage.m_db tableName ≠ none

variable (hrocks : rocksdb.Lawful view) (storage : RocksDBStorage rocksdb)
variable (tableName key : String) (value : Bytes)

include hrocks

/-- A call on a table that exists is refused. -/
theorem call_existing (htable : HasTable view storage tableName) :
    ∃ db, storage.get tableName key = (none, ⟨db⟩) ∧ storage.set tableName key value = (-1, ⟨db⟩) ∧
      view.families db = view.families storage.m_db := by
  obtain ⟨status, db, hcreate, hfamilies⟩ := hrocks.create_existing _ _ htable
  refine ⟨db, ?_, ?_, hfamilies⟩
  · simp only [RocksDBStorage.get, hcreate]
  · simp only [RocksDBStorage.set, hcreate]

/-- A read of a new table finds nothing in it. -/
theorem get_new (htable : ¬HasTable view storage tableName) :
    ∃ db, storage.get tableName key = (none, ⟨db⟩) ∧
      view.families db = Function.update (view.families storage.m_db) tableName (some fun _ => none) := by
  obtain ⟨cfHandle, db, hcreate, hname, hfamilies⟩ := hrocks.create_new _ _ (not_not.mp htable)
  have hfamily : view.families db (view.name cfHandle) = some fun _ => none := by
    rw [hfamilies, hname, Function.update_self]
  obtain ⟨status, hget⟩ := hrocks.get_notFound db cfHandle _ key hfamily rfl
  refine ⟨db, ?_, hfamilies⟩
  simp only [RocksDBStorage.get, hcreate, hget]

/-- A write to a new table is taken. -/
theorem set_new (htable : ¬HasTable view storage tableName) :
    ∃ db family, storage.set tableName key value = (0, ⟨db⟩) ∧
      view.families db = Function.update (view.families storage.m_db) tableName (some family) := by
  obtain ⟨cfHandle, db, hcreate, hname, hfamilies⟩ := hrocks.create_new _ _ (not_not.mp htable)
  have hfamily : view.families db (view.name cfHandle) = some fun _ => none := by
    rw [hfamilies, hname, Function.update_self]
  obtain ⟨db', hput, hfamilies'⟩ := hrocks.put db cfHandle _ key value hfamily
  refine ⟨db', Function.update (fun _ => none) key (some value), ?_, ?_⟩
  · simp only [RocksDBStorage.set, hcreate, hput]
  · rw [hfamilies', hname, hfamilies, Function.update_idem]

/-- **Reads.**  No read ever returns a value. -/
theorem get_fails : (storage.get tableName key).1 = none := by
  by_cases htable : HasTable view storage tableName
  · obtain ⟨db, hget, -⟩ := call_existing hrocks storage tableName key [] htable
    rw [hget]
  · obtain ⟨db, hget, -⟩ := get_new hrocks storage tableName key htable
    rw [hget]

/-- **Writes.**  A write is taken if and only if its table is new. -/
theorem set_status_iff : (storage.set tableName key value).1 = 0 ↔ ¬HasTable view storage tableName := by
  constructor
  · intro hstatus htable
    obtain ⟨db, -, hset, -⟩ := call_existing hrocks storage tableName key value htable
    rw [hset] at hstatus
    cases hstatus
  · intro htable
    obtain ⟨db, family, hset, -⟩ := set_new hrocks storage tableName key value htable
    rw [hset]

theorem families_perform_existing {call : StorageCall} (htable : HasTable view storage call.tableName) :
    view.families ((rocksDBStorage rocksdb).perform storage call).2.m_db =
      view.families storage.m_db := by
  cases call with
  | get tableName key =>
    obtain ⟨db, hget, -, hfamilies⟩ := call_existing hrocks storage tableName key [] htable
    show view.families (storage.get tableName key).2.m_db = _
    rw [hget]
    exact hfamilies
  | set tableName key value =>
    obtain ⟨db, -, hset, hfamilies⟩ := call_existing hrocks storage tableName key value htable
    show view.families (storage.set tableName key value).2.m_db = _
    rw [hset]
    exact hfamilies

theorem families_perform_new {call : StorageCall} (htable : ¬HasTable view storage call.tableName) :
    ∃ family, view.families ((rocksDBStorage rocksdb).perform storage call).2.m_db =
      Function.update (view.families storage.m_db) call.tableName (some family) := by
  cases call with
  | get tableName key =>
    obtain ⟨db, hget, hfamilies⟩ := get_new hrocks storage tableName key htable
    refine ⟨fun _ => none, ?_⟩
    show view.families (storage.get tableName key).2.m_db = _
    rw [hget]
    exact hfamilies
  | set tableName key value =>
    obtain ⟨db, family, hset, hfamilies⟩ := set_new hrocks storage tableName key value htable
    refine ⟨family, ?_⟩
    show view.families (storage.set tableName key value).2.m_db = _
    rw [hset]
    exact hfamilies

/-- **Tables.**  Either call leaves its table behind. -/
theorem hasTable_perform (call : StorageCall) (other : String) :
    HasTable view ((rocksDBStorage rocksdb).perform storage call).2 other ↔
      HasTable view storage other ∨ other = call.tableName := by
  by_cases htable : HasTable view storage call.tableName
  · rw [HasTable, families_perform_existing hrocks storage htable]
    constructor
    · exact Or.inl
    · rintro (h | rfl)
      · exact h
      · exact htable
  · obtain ⟨family, hfamilies⟩ := families_perform_new hrocks storage htable
    rw [HasTable, HasTable, hfamilies]
    by_cases hother : other = call.tableName
    · subst hother
      simp
    · simp [hother]

/-- The tables after a sequence of calls. -/
theorem hasTable_after (calls : List StorageCall) :
    HasTable view ((rocksDBStorage rocksdb).after storage calls) tableName ↔
      HasTable view storage tableName ∨ ∃ call ∈ calls, call.tableName = tableName := by
  refine (rocksDBStorage rocksdb).after_invariant (I := fun calls s => HasTable view s tableName ↔
    HasTable view storage tableName ∨ ∃ call ∈ calls, call.tableName = tableName) ?_ ?_ calls
  · simp
  · intro calls s call ih
    rw [hasTable_perform hrocks, ih, or_assoc]
    refine or_congr_right ?_
    simp only [List.mem_append, List.mem_singleton, or_and_right, exists_or, exists_eq_left]
    rw [eq_comm]

end Call

/-! ### Sequences -/

section Sequence

variable {rocksdb : RocksDB} {view : rocksdb.View}

/-- Each write is the first call on a table that the database did not have, and no read asks for a table
and key that were written. -/
def WrittenOnce (view : rocksdb.View) (storage : RocksDBStorage rocksdb) (calls : List StorageCall) :
    Prop :=
  ∀ earlier call later, calls = earlier ++ call :: later →
    match call with
    | .get tableName key => ∀ value, StorageCall.set tableName key value ∉ earlier
    | .set tableName _ _ =>
      ¬HasTable view storage tableName ∧ ∀ other ∈ earlier, other.tableName ≠ tableName

/-- **The database is a map for one write a table.**  The answers to a sequence of calls are those of a
map if and only if the sequence is `WrittenOnce`. -/
theorem refinesMap_iff (hrocks : rocksdb.Lawful view) (storage : RocksDBStorage rocksdb)
    (calls : List StorageCall) : RefinesMap storage calls ↔ WrittenOnce view storage calls := by
  rw [RefinesMap, Machine.answers_eq_iff]
  refine forall_congr' fun earlier => forall_congr' fun call => forall_congr' fun later =>
    forall_congr' fun _ => ?_
  cases call with
  | get tableName key =>
    show StorageAnswer.got (((rocksDBStorage rocksdb).after storage earlier).get tableName key).1 =
      .got ((mapStorage.after .empty earlier).get tableName key) ↔ _
    rw [get_fails hrocks, StorageAnswer.got.injEq, eq_comm]
    exact mapStorage_get_eq_none_iff earlier tableName key
  | set tableName key value =>
    show StorageAnswer.stored (((rocksDBStorage rocksdb).after storage earlier).set tableName key value).1 =
      .stored 0 ↔ _
    rw [StorageAnswer.stored.injEq, set_status_iff hrocks, hasTable_after hrocks, not_or]
    refine and_congr_right fun _ => ?_
    simp only [not_exists, not_and, ne_eq]

end Sequence

/-! ### A database in memory -/

inductive MemoryStatus where
  | NotFound
  | InvalidArgument
  deriving DecidableEq

/-- A database with the family `default` that lives in memory; a handle is the name of its family. -/
def inMemory : RocksDB where
  Database := String → Option (String → Option Bytes)
  Handle := String
  Status := MemoryStatus
  Open _ := .ok fun tableName => if tableName = "default" then some fun _ => none else none
  CreateColumnFamily db tableName :=
    match db tableName with
    | none => (.ok tableName, Function.update db tableName (some fun _ => none))
    | some _ => (.error .InvalidArgument, db)
  Get db cfHandle key :=
    match (db cfHandle).bind fun family => family key with
    | none => .error .NotFound
    | some value => .ok value
  Put db cfHandle key value :=
    match db cfHandle with
    | none => (.error .InvalidArgument, db)
    | some family => (.ok (), Function.update db cfHandle (some (Function.update family key (some value))))

def inMemoryView : inMemory.View where
  families db := db
  name cfHandle := cfHandle

theorem inMemory_lawful : inMemory.Lawful inMemoryView where
  create_new db tableName h := by
    refine ⟨tableName, Function.update db tableName (some fun _ => none), ?_, rfl, rfl⟩
    show (match db tableName with | none => _ | some _ => _) = _
    rw [show db tableName = none from h]
    rfl
  create_existing db tableName h := by
    obtain ⟨family, hfamily⟩ := Option.ne_none_iff_exists'.mp h
    refine ⟨.InvalidArgument, db, ?_, rfl⟩
    show (match db tableName with | none => _ | some _ => _) = _
    rw [show db tableName = some family from hfamily]
    rfl
  get_found db cfHandle family key value h hkey := by
    show (match (db cfHandle).bind fun family => family key with | none => _ | some value => _) = _
    rw [show db cfHandle = some family from h, Option.bind_some, hkey]
    rfl
  get_notFound db cfHandle family key h hkey := by
    refine ⟨.NotFound, ?_⟩
    show (match (db cfHandle).bind fun family => family key with | none => _ | some value => _) = _
    rw [show db cfHandle = some family from h, Option.bind_some, hkey]
    rfl
  put db cfHandle family key value h := by
    refine ⟨Function.update db cfHandle (some (Function.update family key (some value))), ?_, rfl⟩
    show (match db cfHandle with | none => _ | some family => _) = _
    rw [show db cfHandle = some family from h]
    rfl

/-- The storage after `init`. -/
def openedStorage : RocksDBStorage inMemory where
  m_db tableName := if tableName = "default" then some fun _ => none else none

theorem refinesMap_iff_inMemory :
    RefinesMap openedStorage [.set "log" "1" [1], .get "log" "2"] ↔
      WrittenOnce inMemoryView openedStorage [.set "log" "1" [1], .get "log" "2"] :=
  refinesMap_iff inMemory_lawful openedStorage _

/-- **The end index is not stored, and the entry is not found.**  The log writes both under one table. -/
theorem second_call_refused : RocksDBStorage.init inMemory "db" = (0, some openedStorage) ∧
    (rocksDBStorage inMemory).answers openedStorage
      [.set "__stmc_log__" "1" [1], .set "__stmc_log__" "end_index" [49], .get "__stmc_log__" "1"] =
        [.stored 0, .stored (-1), .got none] ∧
    ¬RefinesMap openedStorage
      [.set "__stmc_log__" "1" [1], .set "__stmc_log__" "end_index" [49], .get "__stmc_log__" "1"] :=
  ⟨rfl, by decide, by decide⟩

end DistributedNetwork.Consensus
