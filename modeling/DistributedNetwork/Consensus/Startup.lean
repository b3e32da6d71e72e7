import DistributedNetwork.Consensus.ClusterConfiguration
import DistributedNetwork.Consensus.PersistentState
import DistributedNetwork.Consensus.StateMachineLog

/-!
# Starting the consensus module

A process opens the log on the database and initialises Raft: the first configuration is built if the log
is empty, the configurations in the log are read, and the term is loaded.  Any write may fail, and the process
may start again at any time.

* `raftInit` — `Raft::init` with all that it calls;
* `Kept` — what is in the database after any number of starts;
* `startup_fails` — from an empty database `Raft::init` **never** succeeds: it fails while a write of the
  first entry fails, and otherwise reads a text through the pointer of an empty vector;
* `reopening_iff` — and a log that was written is not opened again.
-/

namespace DistributedNetwork.Consensus

open DistributedNetwork.Library ClusterConfigurationSerializer

/-! ### Configurations -/

structure ClusterConfiguration where
  nodeIds : List Bytes
  deriving DecidableEq

structure ClusterConfigurationManager where
  m_clusterConfigurations : List (ℕ × ClusterConfiguration) := []

/-- `insert` keeps the configuration that an index has. -/
def ClusterConfigurationManager.addClusterConfiguration (manager : ClusterConfigurationManager) (index : ℕ)
    (clusterConfiguration : ClusterConfiguration) : ClusterConfigurationManager :=
  if index ∈ manager.m_clusterConfigurations.map Prod.fst then manager
  else ⟨manager.m_clusterConfigurations ++ [(index, clusterConfiguration)]⟩

/-- A `std::string` from a pointer: the bytes before the first zero.  Without one the string would begin at a
null pointer or end behind the vector. -/
def cString (data : Bytes) : Option Bytes :=
  if 0 ∈ data then some (data.takeWhile fun byte => byte ≠ 0) else none

/-! ### `Raft::init` -/

/-- What a process has in memory; both parts use one database. -/
structure Process where
  m_stateMachineLog : StateMachineLog
  m_clusterConfigurationManager : ClusterConfigurationManager
  m_currentTerm : UInt64

namespace Process

/-- New objects on a database. -/
def new (storage : Storage) : Process where
  m_stateMachineLog := .new storage
  m_clusterConfigurationManager := {}
  m_currentTerm := 0

def storage (process : Process) : Storage :=
  process.m_stateMachineLog.storage

def persistentState (process : Process) : PersistentState where
  m_currentTerm := process.m_currentTerm
  m_raftMetadataStorage := process.storage

end Process

section Init

variable (codec : RawEntryCodec) (json : JsonCpp)

/-- The loop over the log; `none` if it has no defined result. -/
def readConfigurations (log : StateMachineLog) :
    List ℕ → ClusterConfigurationManager → Option ClusterConfigurationManager
  | [], manager => some manager
  | i :: rest, manager =>
    if log.getLogType (UInt64.ofNat i) = .Configuration then
      (log.getLogEntry codec (UInt64.ofNat i)).bind fun entry =>
        (cString entry.data).bind fun text =>
          (deserialize json text).bind fun clusterServerIds =>
            readConfigurations log rest (manager.addClusterConfiguration i ⟨clusterServerIds⟩)
    else readConfigurations log rest manager

/-- `i` is an `int`. -/
def logIndices (endLogIndex : UInt64) : Option (List ℕ) :=
  if endLogIndex.toNat < 2 ^ 31 - 1 then some (List.range' 1 endLogIndex.toNat) else none

/-- A call returns with a code, or it has no defined result and leaves the database. -/
inductive InitResult where
  | returns (ret : ℤ) (process : Process)
  | undefined (storage : Storage)

/-- The configuration is built if the log has no end. -/
def buildConfiguration (serialize : List String → Bytes) (clusterServerIds : List String)
    (okEntry okEndIndex : Bool) (process : Process) : ℤ × Process :=
  let (endLogIndex, log) := process.m_stateMachineLog.endIndex
  if endLogIndex = 0 then
    let (ret, log) := log.buildInitialConfigurationLog codec serialize clusterServerIds okEntry okEndIndex
    (ret, { process with m_stateMachineLog := log })
  else (0, { process with m_stateMachineLog := log })

def initClusterConfiguration (serialize : List String → Bytes) (clusterServerIds : List String)
    (okEntry okEndIndex : Bool) (process : Process) : InitResult :=
  let (ret, process) := buildConfiguration codec serialize clusterServerIds okEntry okEndIndex process
  if ret = -1 then .returns (-1) process
  else
    let (endLogIndex, log) := process.m_stateMachineLog.endIndex
    match (logIndices endLogIndex).bind fun indices =>
      readConfigurations codec json log indices process.m_clusterConfigurationManager with
    | none => .undefined log.storage
    | some manager =>
      .returns 0 { process with
        m_stateMachineLog := log
        m_clusterConfigurationManager := manager }

def raftInit (serialize : List String → Bytes) (clusterServerIds : List String)
    (okEntry okEndIndex : Bool) (process : Process) : InitResult :=
  match initClusterConfiguration codec json serialize clusterServerIds okEntry okEndIndex process with
  | .undefined storage => .undefined storage
  | .returns ret process =>
    if ret = -1 then .returns (-1) process
    else
      let (ret, persistentState) := process.persistentState.initState
      if ret = -1 then .returns (-1) { process with m_currentTerm := persistentState.m_currentTerm }
      else .returns 0 { process with m_currentTerm := persistentState.m_currentTerm }

end Init

/-! ### Starts and restarts -/

/-- A process, or the database that an undefined call has left. -/
inductive NodeState where
  | running (process : Process)
  | stopped (storage : Storage)

def NodeState.storage : NodeState → Storage
  | running process => process.storage
  | stopped storage => storage

inductive StartEvent where
  /-- the process starts, again or for the first time -/
  | start
  /-- `StateMachineLog::init` -/
  | openLog
  /-- `Raft::init`; the flags tell which writes the database takes -/
  | raftInit (okEntry okEndIndex : Bool)
  deriving DecidableEq

def InitResult.state : InitResult → NodeState
  | returns _ process => .running process
  | undefined storage => .stopped storage

section Runs

variable (codec : RawEntryCodec) (json : JsonCpp) (serialize : List String → Bytes)
variable (clusterServerIds : List String)

def NodeState.step (node : NodeState) : StartEvent → Option NodeState
  | .start => some (.running (.new node.storage))
  | .openLog =>
    match node with
    | .running process =>
      some (.running { process with m_stateMachineLog := (process.m_stateMachineLog.init codec).2 })
    | .stopped _ => none
  | .raftInit okEntry okEndIndex =>
    match node with
    | .running process =>
      some (raftInit codec json serialize clusterServerIds okEntry okEndIndex process).state
    | .stopped _ => none

/-- Starts on an empty database. -/
def startup : TransitionSystem NodeState StartEvent where
  init node := ∃ uninitialised, node = .stopped { Storage.empty with uninitialised := uninitialised }
  step := NodeState.step codec json serialize clusterServerIds

end Runs

/-! ### What is in the database -/

/-- No end index is stored. -/
def Unwritten (storage : Storage) : Prop :=
  storage.get c_stmclogTableName c_stmcLogEndIndexKey = none

instance (storage : Storage) : Decidable (Unwritten storage) :=
  inferInstanceAs (Decidable (_ = none))

/-- The first entry is its type byte, and the end index is `1`. -/
def Written (storage : Storage) : Prop :=
  storage.get c_stmclogTableName c_stmcLogEndIndexKey = some (convertToString 1) ∧
    storage.get c_stmclogTableName "1" = some [1]

/-- The log in memory goes with the one in the database. -/
def KeptLog (log : StateMachineLog) : Prop :=
  Unwritten log.storage ∧ log.m_endIndex = 0 ∨
    Written log.storage ∧ (log.m_endIndex = 0 ∨ log.m_endIndex = 1)

def Kept : NodeState → Prop
  | .running process => KeptLog process.m_stateMachineLog
  | .stopped storage => Unwritten storage ∨ Written storage

section Log

variable {log : StateMachineLog} {storage : Storage}

theorem KeptLog.written (h : KeptLog log) : Unwritten log.storage ∨ Written log.storage :=
  h.imp And.left And.left

theorem keptLog_new (h : Unwritten storage ∨ Written storage) : KeptLog (.new storage) :=
  h.imp (fun hun => ⟨hun, rfl⟩) fun hwritten => ⟨hwritten, .inl rfl⟩

theorem not_written (h : Unwritten storage) : ¬Written storage := by
  intro hwritten
  cases h.symm.trans hwritten.1

theorem endIndex_unwritten (h : Unwritten log.storage) (hzero : log.m_endIndex = 0) :
    log.endIndex = (0, log) := by
  unfold StateMachineLog.endIndex
  rw [if_neg (not_not.mpr hzero), h]

theorem endIndex_written (h : Written log.storage) (hindex : log.m_endIndex = 0 ∨ log.m_endIndex = 1) :
    log.endIndex = (1, { log with m_endIndex := 1 }) := by
  unfold StateMachineLog.endIndex
  rcases hindex with hzero | hone
  · rw [if_neg (not_not.mpr hzero), h.1]
    show (convertFromString _ (convertToString 1), _) = _
    rw [convertFromString_convertToString]
  · rw [if_pos (by rw [hone]; decide), ← hone]

/-- Both writes are taken. -/
theorem written_build (codec : RawEntryCodec) (serialize : List String → Bytes)
    (clusterServerIds : List String) (hzero : log.m_endIndex = 0) :
    ∃ log', log.buildInitialConfigurationLog codec serialize clusterServerIds true true = (0, log') ∧
      Written log'.storage ∧ log'.m_endIndex = 1 := by
  have hbuild : log.buildInitialConfigurationLog codec serialize clusterServerIds true true =
      (0, (log.buildInitialConfigurationLog codec serialize clusterServerIds true true).2) := rfl
  have hlog := build_success hbuild
  refine ⟨_, hbuild, ⟨?_, build_value hbuild⟩, ?_⟩
  · rw [hlog, Storage.get_set_self, hzero]
    rfl
  · rw [hlog, hzero]
    rfl

/-- A write fails. -/
theorem unwritten_build (codec : RawEntryCodec) (serialize : List String → Bytes)
    (clusterServerIds : List String) {okEntry okEndIndex : Bool} (h : Unwritten log.storage)
    (hzero : log.m_endIndex = 0) (hfails : ¬(okEntry = true ∧ okEndIndex = true)) :
    ∃ log', log.buildInitialConfigurationLog codec serialize clusterServerIds okEntry okEndIndex =
      (-1, log') ∧ Unwritten log'.storage ∧ log'.m_endIndex = 0 := by
  cases okEntry with
  | false => exact ⟨_, rfl, h, hzero⟩
  | true =>
    cases okEndIndex with
    | false =>
      refine ⟨_, rfl, ?_, hzero⟩
      show Storage.get (Storage.set _ _ _ _ true).2 _ _ = _
      rw [Storage.get_set_of_ne _ _ _ (by decide)]
      exact h
    | true => exact absurd ⟨rfl, rfl⟩ hfails

/-- The entry that is read back has no data, and no text begins at its pointer. -/
theorem readConfigurations_written {codec : RawEntryCodec} (hcodec : codec.Lawful) (json : JsonCpp)
    (h : Written log.storage) (rest : List ℕ) (manager : ClusterConfigurationManager) :
    readConfigurations codec json log (1 :: rest) manager = none := by
  have hvalue : log.storage.get c_stmclogTableName (toString (UInt64.ofNat 1).toNat) = _ := h.2
  have htype : log.getLogType (UInt64.ofNat 1) = .Configuration := by
    rw [StateMachineLog.getLogType, hvalue]
    rfl
  have hentry : log.getLogEntry codec (UInt64.ofNat 1) = some (Entry.decode codec []) := by
    rw [StateMachineLog.getLogEntry, hvalue]
    rfl
  have hdata : (Entry.decode codec []).data = [] := by
    rw [Entry.decode, hcodec.parse_nil]
    rfl
  rw [readConfigurations, if_pos htype, hentry, Option.bind_some, hdata]
  rfl

end Log

/-! ### Every start -/

section Start

variable {codec : RawEntryCodec} {json : JsonCpp} {serialize : List String → Bytes}
variable {clusterServerIds : List String} {process : Process} {node node' : NodeState}
variable {okEntry okEndIndex : Bool}

/-- Behind a written log the configurations are not read. -/
theorem raftInit_written (json : JsonCpp) (hcodec : codec.Lawful)
    (hbuild : ∃ process', buildConfiguration codec serialize clusterServerIds okEntry okEndIndex process =
      (0, process') ∧ Written process'.storage ∧
      (process'.m_stateMachineLog.m_endIndex = 0 ∨ process'.m_stateMachineLog.m_endIndex = 1)) :
    ∃ storage, raftInit codec json serialize clusterServerIds okEntry okEndIndex process =
      .undefined storage ∧ Written storage := by
  obtain ⟨process', hbuilt, hwritten, hindex⟩ := hbuild
  have hread : (logIndices 1).bind (fun indices => readConfigurations codec json
      { process'.m_stateMachineLog with m_endIndex := 1 } indices process'.m_clusterConfigurationManager) =
      none :=
    readConfigurations_written hcodec json hwritten [] _
  have hinit : initClusterConfiguration codec json serialize clusterServerIds okEntry okEndIndex process =
      .undefined process'.storage := by
    unfold initClusterConfiguration
    rw [hbuilt]
    dsimp only
    rw [if_neg (by decide), endIndex_written hwritten hindex]
    dsimp only
    rw [hread]
    rfl
  refine ⟨process'.storage, ?_, hwritten⟩
  rw [raftInit, hinit]

/-- **What `Raft::init` does** on a log that earlier starts have left. -/
theorem raftInit_kept (hcodec : codec.Lawful) (h : KeptLog process.m_stateMachineLog) :
    (∃ process', raftInit codec json serialize clusterServerIds okEntry okEndIndex process =
      .returns (-1) process' ∧ Unwritten process'.storage ∧ process'.m_stateMachineLog.m_endIndex = 0 ∧
      Unwritten process.storage ∧ ¬(okEntry = true ∧ okEndIndex = true)) ∨
    ∃ storage, raftInit codec json serialize clusterServerIds okEntry okEndIndex process =
      .undefined storage ∧ Written storage ∧
      (Unwritten process.storage → okEntry = true ∧ okEndIndex = true) := by
  rcases h with ⟨hun, hzero⟩ | ⟨hwritten, hindex⟩
  · have hend := endIndex_unwritten hun hzero
    by_cases hok : okEntry = true ∧ okEndIndex = true
    · right
      obtain ⟨rfl, rfl⟩ := hok
      obtain ⟨log', hbuilt, hwritten, hone⟩ := written_build codec serialize clusterServerIds hzero
      have hbuild : buildConfiguration codec serialize clusterServerIds true true process =
          (0, { process with m_stateMachineLog := log' }) := by
        unfold buildConfiguration
        rw [hend]
        dsimp only
        rw [if_pos rfl, hbuilt]
      obtain ⟨storage, hraft, hstored⟩ := raftInit_written json hcodec ⟨_, hbuild, hwritten, .inr hone⟩
      exact ⟨storage, hraft, hstored, fun _ => ⟨rfl, rfl⟩⟩
    · left
      obtain ⟨log', hbuilt, hun', hzero'⟩ := unwritten_build codec serialize clusterServerIds hun hzero hok
      refine ⟨{ process with m_stateMachineLog := log' }, ?_, hun', hzero', hun, hok⟩
      unfold raftInit initClusterConfiguration buildConfiguration
      rw [hend]
      dsimp only
      rw [if_pos rfl, hbuilt]
      rfl
  · right
    have hbuild : buildConfiguration codec serialize clusterServerIds okEntry okEndIndex process =
        (0, { process with m_stateMachineLog := { process.m_stateMachineLog with m_endIndex := 1 } }) := by
      unfold buildConfiguration
      rw [endIndex_written hwritten hindex]
      rfl
    obtain ⟨storage, hraft, hstored⟩ := raftInit_written json hcodec ⟨_, hbuild, hwritten, .inr rfl⟩
    exact ⟨storage, hraft, hstored, fun hun => absurd hwritten (not_written hun)⟩

/-- Opening a log changes nothing but the cached end index. -/
theorem KeptLog.init {log : StateMachineLog} (h : KeptLog log) : KeptLog (log.init codec).2 := by
  have hlog : (log.init codec).2 = { log.endIndex.2 with m_endIndex := log.endIndex.1 } := by
    unfold StateMachineLog.init
    dsimp only
    split
    · split <;> rfl
    · rfl
  rw [hlog]
  rcases h with ⟨hun, hzero⟩ | ⟨hwritten, hindex⟩
  · rw [endIndex_unwritten hun hzero]
    exact .inl ⟨hun, rfl⟩
  · rw [endIndex_written hwritten hindex]
    exact .inr ⟨hwritten, .inr rfl⟩

/-- **Step lemma.** -/
theorem Kept.step (hcodec : codec.Lawful) (h : Kept node) {event : StartEvent}
    (hstep : (startup codec json serialize clusterServerIds).step node event = some node') : Kept node' := by
  cases event with
  | start =>
    cases hstep
    cases node with
    | running process => exact keptLog_new h.written
    | stopped storage => exact keptLog_new h
  | openLog =>
    cases node with
    | running process =>
      cases hstep
      exact h.init
    | stopped storage => cases hstep
  | raftInit okEntry okEndIndex =>
    cases node with
    | running process =>
      cases hstep
      rcases raftInit_kept hcodec h with ⟨process', hraft, hun, hzero, -⟩ | ⟨storage, hraft, hwritten, -⟩
      · rw [hraft]
        exact .inl ⟨hun, hzero⟩
      · rw [hraft]
        exact .inr hwritten
    | stopped storage => cases hstep

theorem kept_of_reachable (hcodec : codec.Lawful)
    (h : (startup codec json serialize clusterServerIds).Reachable node) : Kept node := by
  refine h.invariant ?_ fun _ _ _ hnode _ hstep => hnode.step hcodec hstep
  rintro node ⟨uninitialised, rfl⟩
  exact .inl rfl

/-- **No start succeeds.**  After any starts, and openings of the log, on a database that was empty, with any
outcomes of the writes, `Raft::init` fails if no end index is stored and one of its two writes fails;
otherwise it has no defined result. -/
theorem startup_fails (hcodec : codec.Lawful)
    (h : (startup codec json serialize clusterServerIds).Reachable (.running process))
    (okEntry okEndIndex : Bool) :
    if Unwritten process.storage ∧ ¬(okEntry = true ∧ okEndIndex = true) then
      ∃ process', raftInit codec json serialize clusterServerIds okEntry okEndIndex process =
        .returns (-1) process'
    else
      ∃ storage, raftInit codec json serialize clusterServerIds okEntry okEndIndex process =
        .undefined storage := by
  have hkept : KeptLog process.m_stateMachineLog := kept_of_reachable hcodec h
  rcases raftInit_kept hcodec hkept with ⟨process', hraft, -, -, hun, hfails⟩ | ⟨storage, hraft, -, hok⟩
  · rw [if_pos ⟨hun, hfails⟩]
    exact ⟨process', hraft⟩
  · rw [if_neg fun hboth => hboth.2 (hok hboth.1)]
    exact ⟨storage, hraft⟩

/-- The first start has written its entry and not its end index, and the process has started again. -/
def secondStart : Option NodeState :=
  (startup protoCodec compactJson (fun _ => singleServerText) ["A"]).run (.stopped .empty)
    [.start, .openLog, .raftInit true false, .start]

theorem startup_fails_second : ∃ process storage, secondStart = some (.running process) ∧
    raftInit protoCodec compactJson (fun _ => singleServerText) ["A"] true true process =
      .undefined storage := by
  have hrun : secondStart = some (.running (.new
      (Storage.set .empty c_stmclogTableName "1" [1] true).2)) := rfl
  have hfails := startup_fails protoCodec_lawful (.of_run (.init ⟨0, rfl⟩) hrun) true true
  rw [if_neg fun hboth => hboth.2 ⟨rfl, rfl⟩] at hfails
  obtain ⟨storage, hraft⟩ := hfails
  exact ⟨_, storage, hrun, hraft⟩

/-- **A written log is not opened again.**  After any such starts `StateMachineLog::init` succeeds if and only
if no end index is stored: it parses the entry with its type byte, which is no tag of a field. -/
theorem reopening_iff (hcodec : codec.Lawful) (htag : codec.ParseFromArray [1] = .default)
    (h : (startup codec json serialize clusterServerIds).Reachable (.running process)) :
    (process.m_stateMachineLog.init codec).1 = 0 ↔ Unwritten process.storage := by
  have hkept : KeptLog process.m_stateMachineLog := kept_of_reachable hcodec h
  rcases hkept with ⟨hun, hzero⟩ | ⟨hwritten, hindex⟩
  · refine ⟨fun _ => hun, fun _ => ?_⟩
    unfold StateMachineLog.init
    rw [endIndex_unwritten hun hzero]
    rfl
  · refine ⟨fun hinit => ?_, fun hun => absurd hwritten (not_written hun)⟩
    unfold StateMachineLog.init at hinit
    rw [endIndex_written hwritten hindex] at hinit
    dsimp only at hinit
    rw [if_pos (by decide), hwritten.2, Option.getD_some, Entry.decode, htag, if_pos (by decide)] at hinit
    cases hinit

/-- The first start has written both, and the process has started again. -/
def writtenStart : Option NodeState :=
  (startup protoCodec compactJson (fun _ => singleServerText) ["A"]).run
    (.stopped .empty) [.start, .raftInit true true, .start]

theorem reopening_iff_written : ∃ process, writtenStart = some (.running process) ∧
    (process.m_stateMachineLog.init protoCodec).1 ≠ 0 := by
  have hrun : writtenStart = some (.running (.new
      ((Storage.set .empty c_stmclogTableName "1" [1] true).2.set c_stmclogTableName c_stmcLogEndIndexKey
        (convertToString 1) true).2)) := rfl
  refine ⟨_, hrun, fun hinit => ?_⟩
  have hun := (reopening_iff protoCodec_lawful (by decide) (.of_run (.init ⟨0, rfl⟩) hrun)).mp hinit
  exact absurd hun (by decide)

end Start

end DistributedNetwork.Consensus
